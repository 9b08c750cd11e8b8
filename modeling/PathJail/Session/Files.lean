import PathJail.Session.Basic

/-!
# Requests on files

The requests that name files and leave the session as it is. Most of them put the real path in the
place of the requested one and hand the rest to the host; the others look at the path first:

* `lstat`           — shows a symbolic link as its target unless links are allowed; an alias is
  always shown as the entry that it stands for.
* `readlink`        — reads an alias at its real path, and any other path as it was requested, with
  its slash at the end.
* `unlink`, `rmdir` — never delete an alias; `unlink` does not even while requests bypass.
-/

namespace PathJail.Session

/-! ## Looking at files -/

/-- Metadata of a file, through a symbolic link. -/
def stat (s : Session) (path : Text) : Attempt Metadata := do
  Attempt.ask (.stat (← s.target path))

/-- Metadata of the entry that a path names. -/
def lstat (s : Session) (path : Text) : Attempt Metadata := do
  if s.bypasses then return ← Attempt.ask (.lstat path)
  let virtual ← Attempt.ofExcept (s.normalized path)
  let real := (← s.resolver.find virtual true).real
  if s.options.allowSymlinks then return ← Attempt.ask (.lstat real)
  if ← s.isAlias virtual then return ← Attempt.ask (.lstat real)
  let metadata ← Attempt.ask (.lstat real)
  if metadata.fileType = .symlink then Attempt.ask (.stat real) else return metadata

/-- Opens a file. -/
def openFile (s : Session) (path : Text) : Attempt Unit := do
  Attempt.ask (.openFile (← s.target path))

/-- Not offered: a file is created by opening it. -/
def creat (_s : Session) (_path : Text) (_mode : Nat) : Attempt Unit :=
  throw (.unsupported "creat".toList)

/-- The target of a symbolic link. -/
def readlink (s : Session) (path : Text) : Attempt LinkTarget := do
  if s.bypasses then return ← Attempt.ask (.readLink path)
  if path = [] then throw .emptyPath
  let resolved ← s.resolver.find (s.resolver.realpath path true) true
  let real ← match resolved.virtual with
    | some _ => pure resolved.real
    | none => Resolved.real <$> s.resolver.find (s.anchored path) true
  Attempt.ask (.readLink real)

/-! ## Changing files -/

/-- Makes a hard link. -/
def link (s : Session) (source destination : Text) : Attempt Unit := do
  let source ← s.target source
  let destination ← s.target destination
  Attempt.ask (.link source destination)

/-- Makes a symbolic link. Its target is resolved like any path, so that it stays inside. -/
def symlink (s : Session) (target link : Text) : Attempt Unit := do
  let target ← s.target target
  let link ← s.target link
  Attempt.ask (.symlink target link)

/-- Renames or moves a file. -/
def rename (s : Session) (source destination : Text) : Attempt Unit := do
  let source ← s.target source
  let destination ← s.target destination
  Attempt.ask (.rename source destination)

/-- Sets the length of a file. -/
def truncate (s : Session) (path : Text) (length : Nat) : Attempt Unit := do
  Attempt.ask (.truncate (← s.target path) length)

/-- Sets the permissions of a file. -/
def chmod (s : Session) (path : Text) (mode : Nat) : Attempt Unit := do
  Attempt.ask (.chmod (← s.target path) mode)

/-- Sets the owner of a file, through a symbolic link. -/
def chown (s : Session) (path : Text) (uid gid : Option Nat) : Attempt Unit := do
  Attempt.ask (.chown (← s.target path) uid gid)

/-- Sets the owner of the entry itself. -/
def lchown (s : Session) (path : Text) (uid gid : Option Nat) : Attempt Unit := do
  Attempt.ask (.lchown (← s.target path) uid gid)

/-- Sets the times of a file. -/
def utimes (s : Session) (path : Text) (accessed modified : Int) : Attempt Unit := do
  Attempt.ask (.utimes (← s.target path) accessed modified)

/-- Makes a directory. -/
def mkdir (s : Session) (path : Text) (mode : Nat) : Attempt Unit := do
  Attempt.ask (.mkdir (← s.target path) mode)

/-! ## Deleting -/

/-- Deletes an empty directory. -/
def rmdir (s : Session) (path : Text) : Attempt Unit := do
  if s.bypasses then return ← Attempt.ask (.rmdir path)
  Attempt.ask (.rmdir (← s.deletable path))

/-- Deletes a file. An alias is kept also while the server logs or shuts down. -/
def unlink (s : Session) (path : Text) : Attempt Unit := do
  if !s.resolver.hasBase then return ← Attempt.ask (.unlink path)
  Attempt.ask (.unlink (← s.deletable path))

end PathJail.Session
