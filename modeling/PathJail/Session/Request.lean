import PathJail.Session.Files
import PathJail.Session.Setup

/-!
# Requests

All that can be asked of a session, as data: the client's requests, and what the server does with
the session. `Session.perform` carries out any of them, so a statement about what sessions do is one
about `perform`, and a history of a session is a list of requests.

* `Request`, `Answer` — what can be asked, and what comes back.
* `Session.perform`   — carries out a request; the session goes on also when the request fails.
* `Session.history`   — carries out a list of requests.
-/

namespace PathJail

inductive Request
  | stat (path : Text)
  | lstat (path : Text)
  | openFile (path : Text)
  | creat (path : Text) (mode : Nat)
  | readlink (path : Text)
  | link (source destination : Text)
  | symlink (target link : Text)
  | rename (source destination : Text)
  | truncate (path : Text) (length : Nat)
  | chmod (path : Text) (mode : Nat)
  | chown (path : Text) (uid gid : Option Nat)
  | lchown (path : Text) (uid gid : Option Nat)
  | utimes (path : Text) (accessed modified : Int)
  | mkdir (path : Text) (mode : Nat)
  | rmdir (path : Text)
  | unlink (path : Text)
  | chdir (path : Text)
  | opendir (path : Text)
  | readdir (handle : DirHandle)
  | entries (handle : DirHandle)
  | closedir (handle : DirHandle)
  | readDir (path : Text)
  | chroot (path : Text)
  | installAliases (aliases : List AliasConfig)
  | configure (config : Config)
  | setPhase (phase : Phase)
  | teardown
  deriving DecidableEq, Repr

inductive Answer
  | done
  | metadata (metadata : Metadata)
  | target (target : LinkTarget)
  | handle (handle : DirHandle)
  | entry (entry : Option DirEntry)
  | entries (entries : List DirEntry)
  | aliases (report : AliasReport)
  deriving DecidableEq, Repr

namespace Session

/-- A request that leaves the session as it is. -/
def observe {α : Type} (s : Session) (wrap : α → Answer) (attempt : Attempt α) :
    Dialogue (Except Error Answer × Session) := do
  return ((← attempt.run).map wrap, s)

/-- A request that changes the session if it succeeds. -/
def advance (s : Session) (attempt : Attempt Session) :
    Dialogue (Except Error Answer × Session) := do
  match ← attempt.run with
  | .error e => return (.error e, s)
  | .ok next => return (.ok .done, next)

/-- Carries out a request. -/
def perform (s : Session) : Request → Dialogue (Except Error Answer × Session)
  | .stat path => s.observe .metadata (s.stat path)
  | .lstat path => s.observe .metadata (s.lstat path)
  | .openFile path => s.observe (fun _ => .done) (s.openFile path)
  | .creat path mode => s.observe (fun _ => .done) (s.creat path mode)
  | .readlink path => s.observe .target (s.readlink path)
  | .link source destination => s.observe (fun _ => .done) (s.link source destination)
  | .symlink target link => s.observe (fun _ => .done) (s.symlink target link)
  | .rename source destination => s.observe (fun _ => .done) (s.rename source destination)
  | .truncate path length => s.observe (fun _ => .done) (s.truncate path length)
  | .chmod path mode => s.observe (fun _ => .done) (s.chmod path mode)
  | .chown path uid gid => s.observe (fun _ => .done) (s.chown path uid gid)
  | .lchown path uid gid => s.observe (fun _ => .done) (s.lchown path uid gid)
  | .utimes path accessed modified =>
    s.observe (fun _ => .done) (s.utimes path accessed modified)
  | .mkdir path mode => s.observe (fun _ => .done) (s.mkdir path mode)
  | .rmdir path => s.observe (fun _ => .done) (s.rmdir path)
  | .unlink path => s.observe (fun _ => .done) (s.unlink path)
  | .chdir path => s.advance (s.chdir path)
  | .opendir path => do
    match ← (s.opendir path).run with
    | .error e => return (.error e, s)
    | .ok (handle, next) => return (.ok (.handle handle), next)
  | .readdir handle => do
    let (entry, next) ← s.readdir handle
    return (entry.map .entry, next)
  | .entries handle => do
    let (entries, next) ← s.entries handle
    return (entries.map .entries, next)
  | .closedir handle => s.advance (s.closedir handle)
  | .readDir path => do
    let (entries, next) ← s.readDir path
    return (entries.map .entries, next)
  | .chroot path => s.advance (s.chroot path)
  | .installAliases aliases => do
    let (report, next) ← s.installAliases aliases
    return (.ok (.aliases report), next)
  | .configure config => do
    let (report, next) ← s.configure config
    return (report.map .aliases, next)
  | .setPhase phase => return (.ok .done, { s with phase := phase })
  | .teardown => return (.ok .done, ← s.teardown)

/-- Carries out requests one after the other, with their results. -/
def history (s : Session) : List Request → Dialogue (List (Except Error Answer) × Session)
  | [] => return ([], s)
  | request :: requests => do
    let (result, next) ← s.perform request
    let (results, last) ← next.history requests
    return (result :: results, last)

end Session

end PathJail
