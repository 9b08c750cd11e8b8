import PathJail.Host.Failure

/-!
# Calls to the host

A session works on files only through a host file system, and what it may ask of one is listed here:
each call with its arguments, and the type of what the host answers when it succeeds. Paths in calls
are real paths; the host is never asked to interpret a virtual one.

* `Call`, `Call.Reply` — the calls, and what each is answered with.
* `Call.paths`         — every path that a call carries.
* `Listing`            — what the host comes upon in a directory.
-/

namespace PathJail

/-! ## What a host knows of a file -/

inductive FileType
  | file | directory | symlink
  /-- A device, a socket or a pipe. -/
  | other
  deriving DecidableEq, Repr

structure Metadata where
  fileType : FileType
  /-- Size in bytes. -/
  size : Nat
  /-- Permission bits, without the file type. -/
  mode : Nat
  uid : Nat
  gid : Nat
  /-- Time of the last access, in seconds since the epoch. -/
  accessed : Int
  /-- Time of the last change of the contents, in seconds since the epoch. -/
  modified : Int
  deriving DecidableEq, Repr

/-- The target of a symbolic link: text, or bytes that are no UTF-8. -/
inductive LinkTarget
  | text (target : Text)
  | bytes (raw : List UInt8)
  deriving DecidableEq, Repr

/-- An entry of a directory as the host lists it. -/
structure HostEntry where
  name : Text
  /-- The type, where the host has it at hand. -/
  fileType : Option FileType
  deriving DecidableEq, Repr

/-- What the host comes upon on its way through a directory. -/
inductive ListingItem
  /-- What a read gives: an entry, or a failure, behind which the next read goes on. -/
  | read (result : Except HostError HostEntry)
  /-- An entry with a name that is no UTF-8. No request could name it, so reads pass over it. -/
  | unnamed (raw : List UInt8)

/-- A directory as its reads come through it, until the end. -/
abbrev Listing := List ListingItem

/-- What a read gives of an item. -/
def ListingItem.result? : ListingItem → Option (Except HostError HostEntry)
  | .read result => some result
  | .unnamed _ => none

/-- What the reads of a directory give, one after the other. -/
def Listing.results (listing : Listing) : List (Except HostError HostEntry) :=
  listing.filterMap ListingItem.result?

/-! ## The calls -/

inductive Call
  | stat (path : Text)
  | lstat (path : Text)
  | openFile (path : Text)
  | readLink (path : Text)
  | openDir (path : Text)
  | link (source destination : Text)
  | rename (source destination : Text)
  | symlink (target link : Text)
  | truncate (path : Text) (length : Nat)
  | chmod (path : Text) (mode : Nat)
  | mkdir (path : Text) (mode : Nat)
  | chown (path : Text) (uid gid : Option Nat)
  | lchown (path : Text) (uid gid : Option Nat)
  | utimes (path : Text) (accessed modified : Int)
  | rmdir (path : Text)
  | unlink (path : Text)
  | chdir (path : Text)
  | chroot (path : Text)
  deriving DecidableEq, Repr

namespace Call

/-- What the host answers when the call succeeds. -/
abbrev Reply : Call → Type
  | .stat _ | .lstat _ => Metadata
  | .readLink _ => LinkTarget
  | .openDir _ => Listing
  | _ => Unit

/-- The name by which the call is known. -/
def name : Call → String
  | .stat _ => "stat"
  | .lstat _ => "lstat"
  | .openFile _ => "open"
  | .readLink _ => "readlink"
  | .openDir _ => "opendir"
  | .link _ _ => "link"
  | .rename _ _ => "rename"
  | .symlink _ _ => "symlink"
  | .truncate _ _ => "truncate"
  | .chmod _ _ => "chmod"
  | .mkdir _ _ => "mkdir"
  | .chown _ _ _ => "chown"
  | .lchown _ _ _ => "lchown"
  | .utimes _ _ _ => "utimes"
  | .rmdir _ => "rmdir"
  | .unlink _ => "unlink"
  | .chdir _ => "chdir"
  | .chroot _ => "chroot"

/-- The paths that the call carries, in order. -/
def paths : Call → List Text
  | .stat p | .lstat p | .openFile p | .readLink p | .openDir p | .truncate p _ | .chmod p _
  | .mkdir p _ | .chown p _ _ | .lchown p _ _ | .utimes p _ _ | .rmdir p | .unlink p | .chdir p
  | .chroot p => [p]
  | .link p q | .rename p q | .symlink p q => [p, q]

end Call

end PathJail
