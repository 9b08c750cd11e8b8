import PathJail.Config.Basic
import PathJail.Resolver.Aliasing
import PathJail.Session.OpenDirs

/-!
# Sessions

A session shows one client a file system that ends at the session's base. It owns a resolver, the
options, the open directories, and knows in which phase the server is.

While there is no base, and while the server writes its own logs or shuts down, requests go to the
host with the paths that they came with (`bypasses`).

* `Session.resolve`    — the real path of a requested path.
* `Session.normalized` — a requested path, canonical and anchored at the working directory.
* `Session.isAlias`    — whether a canonical path is itself an alias.
-/

namespace PathJail

/-- What the server is doing with the session. -/
inductive Phase
  /-- Serving the client: paths are virtual. -/
  | normal
  /-- Writing its own logs: paths are real. -/
  | logging
  /-- Shutting down: paths are real. -/
  | aborted
  deriving DecidableEq, Repr

structure Session where
  resolver : Resolver := {}
  options : Options := {}
  log : LogConfig := {}
  phase : Phase := .normal
  /-- Where the process itself is confined: the server root, or `/` without one. -/
  chrootPath : Option Text := none
  dirs : OpenDirs := {}

namespace Session

/-- A session without a base. -/
def new : Session := {}

/-- Whether requests go to the host as they are. -/
def bypasses (s : Session) : Bool := !s.resolver.hasBase || s.phase ≠ .normal

/-! ## Requested paths -/

/-- The real path of a requested path. -/
def resolve (s : Session) (path : Text) : Attempt Text := do
  if path = [] then throw .emptyPath
  return (← s.resolver.find (s.resolver.realpath path true) true).real

/-- The path that the host is given: the requested one while requests bypass, else its real path. -/
def target (s : Session) (path : Text) : Attempt Text :=
  if s.bypasses then pure path else s.resolve path

/-- A path taken from the working directory; the empty path and `.` are left to the lookup. -/
def anchored (s : Session) (path : Text) : Text :=
  if Path.isAbsolute path ∨ path = ['.'] ∨ path = [] then path else s.resolver.fromCwd path

/-- The canonical form of a requested path that alias tests are made on, without a slash at its
end. -/
def normalized (s : Session) (path : Text) : Except Error Text :=
  if path = [] then .error .emptyPath
  else .ok (Path.trimSlash (Path.clean (s.anchored path)))

/-- Whether a canonical path is itself an alias. -/
def isAlias (s : Session) (path : Text) : Attempt Bool := do
  if s.resolver.aliases.isEmpty then return false
  let placed ← s.resolver.find path false
  return s.resolver.aliases.contains (Path.trimSlashes placed.real)

/-- The real path of something to be deleted; an alias itself is not. -/
def deletable (s : Session) (path : Text) : Attempt Text := do
  let virtual ← Attempt.ofExcept (s.normalized path)
  if ← s.isAlias virtual then
    Attempt.note (.deletionDenied (s.log.path path))
    throw .aliasDeletion
  return (← s.resolver.find virtual true).real

end Session

end PathJail
