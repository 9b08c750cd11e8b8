import PathJail.Host.Failure

/-!
# Errors

Everything that an operation can fail with. A message names the condition and never the path that
met it, so that it can be shown to a client; the path goes to the log alone.

* `Error.message`   — the text shown to people.
* `Error.errno?`    — the number that a C program would be given.
* `Error.isDenial`  — whether the library refused the request, as opposed to the host failing it.
* `Error.asHost`    — the same failure as a host would report it.
-/

namespace PathJail

inductive Error
  /-- An input was empty or malformed. -/
  | invalidArgument (reason : Text)
  /-- The request tried to leave the base, or to delete an alias. -/
  | permissionDenied (reason : Text)
  /-- A path that was about to be used is not shorter than the limit. -/
  | nameTooLong (length limit : Nat)
  /-- The virtual path is an alias already. -/
  | alreadyExists
  /-- The virtual path is no alias. -/
  | notFound
  /-- The operation is not offered. -/
  | unsupported (operation : Text)
  /-- The session's interrupt flag was raised. -/
  | interrupted
  /-- The configuration could not be used. -/
  | config (reason : Text)
  /-- The host failed. -/
  | host (failure : HostError)
  deriving DecidableEq, Repr

namespace Error

/-! ## The conditions that this library reports -/

def emptyPath : Error := .invalidArgument "empty path".toList
def emptyBase : Error := .invalidArgument "empty base path".toList
def relativeBase : Error := .invalidArgument "base path must be absolute".toList
def relativeDirectory : Error := .invalidArgument "working directory must be absolute".toList
def emptyAlias : Error := .invalidArgument "alias paths must not be empty".toList
def relativeSource : Error := .invalidArgument "alias source must be absolute".toList
def selfAlias : Error := .invalidArgument "alias maps to its own real path".toList
def emptyRoot : Error := .invalidArgument "empty chroot path".toList
def relativeRoot : Error := .invalidArgument "chroot path must be absolute".toList
def unknownHandle : Error := .invalidArgument "unknown directory handle".toList
def unreadableTarget : Error := .invalidArgument "symlink target is not UTF-8".toList
def traversal : Error := .permissionDenied "path traversal".toList
def aliasDeletion : Error := .permissionDenied "alias cannot be deleted".toList

/-! ## What is shown of an error -/

/-- The error in words. -/
def message : Error → Text
  | .invalidArgument reason => "invalid argument: ".toList ++ reason
  | .permissionDenied reason => "permission denied: ".toList ++ reason
  | .nameTooLong length limit =>
    "path too long: ".toList ++ Text.ofNat length ++ " bytes exceeds limit of ".toList
      ++ Text.ofNat limit
  | .alreadyExists => "alias already exists".toList
  | .notFound => "no such alias".toList
  | .unsupported operation => "operation not supported: ".toList ++ operation
  | .interrupted => "interrupted".toList
  | .config reason => "config error: ".toList ++ reason
  | .host failure => "io error: ".toList ++ failure.message

/-- The system's number for the error; a host failure keeps its own, if it has one. -/
def errno? : Error → Option Int
  | .invalidArgument _ | .config _ => some Errno.invalid
  | .permissionDenied _ => some Errno.accessDenied
  | .nameTooLong _ _ => some Errno.nameTooLong
  | .alreadyExists => some Errno.fileExists
  | .notFound => some Errno.noEntry
  | .unsupported _ => some Errno.notImplemented
  | .interrupted => some Errno.interrupted
  | .host failure => failure.number?

/-- Whether the library refused the request itself. -/
def isDenial : Error → Bool
  | .permissionDenied _ => true
  | _ => false

/-- The failure as the host would report it: a host's own failure unchanged, any other by its
number alone. -/
def asHost : Error → HostError
  | .host failure => failure
  | other =>
    match other.errno? with
    | some number => .code number
    | none => .text other.message

/-- The error and the failures that led to it, outermost first. -/
def causes (e : Error) : List Text :=
  match e with
  | .host failure => [e.message, failure.message]
  | _ => [e.message]

end Error

end PathJail
