import PathJail.Session.Basic

/-!
# Requests on directories

Changing the working directory, and listing. A directory that is to be listed may be a symbolic
link; the host is then not left to follow it, since the target is a path as the client sees it.
Each target becomes a virtual path again and is looked up like one, so that the walk stays inside;
it takes at most as many links as the limits allow.

* `chdir`                       — moves the host, and keeps the virtual path of where it went.
* `followLinks`                 — the real directory at the end of a chain of links.
* `aliasNames`                  — the aliases that a listing shows.
* `opendir`, `readdir`, `closedir`, `entries`, `readDir` — listing.
-/

namespace PathJail.Session

/-! ## The working directory -/

/-- Changes the working directory. It is kept as the alias path when the lookup led through an
alias, and else as the real path seen from the base. -/
def chdir (s : Session) (path : Text) : Attempt Session := do
  if s.bypasses then
    Attempt.ask (.chdir path)
    return s
  let virtual ← Attempt.ofExcept (s.normalized path)
  let resolved ← s.resolver.find virtual true
  Attempt.ask (.chdir resolved.real)
  let cwd := s.resolver.stripBase (resolved.virtual.getD resolved.real)
  let resolver ← Attempt.ofExcept (s.resolver.setCwd cwd)
  Attempt.note (.directoryChanged (s.log.path cwd))
  return { s with resolver := resolver }

/-! ## Links to directories -/

/-- The virtual path that a link at `real` leads to. -/
def linkTarget (s : Session) (real target : Text) : Text :=
  if Path.isAbsolute target then (s.resolver.virtualPath? target).getD target
  else
    let dir := (Path.parent real).getD ['/']
    (s.resolver.virtualPath? dir).getD (s.resolver.stripBase dir) ++ '/' :: target

/-- The real path at the end of the links that start at `real`, of which `left` may be followed. A
path that the host cannot look at ends the walk as well; opening it then gives the reason. -/
def followLinks (s : Session) (left : Nat) (real : Text) : Attempt Text := do
  match ← Attempt.reply (.lstat real) with
  | .error _ => return real
  | .ok metadata =>
    if metadata.fileType ≠ .symlink then return real
    match left with
    | 0 =>
      Attempt.note (.tooManyLinks (s.log.path real) s.resolver.limits.maxLinks)
      throw (.host (.code Errno.tooManyLinks))
    | left + 1 =>
      match ← Attempt.ask (.readLink real) with
      | .bytes _ =>
        Attempt.note (.unreadableTarget (s.log.path real))
        throw .unreadableTarget
      | .text target =>
        let virtual := s.linkTarget real target
        Attempt.note (.linkFollowed (s.log.path real) (s.log.path virtual))
        s.followLinks left (← s.resolver.find virtual true).real

/-! ## Aliases in a listing -/

/-- The names of the aliases that live in a directory, given by its real and its virtual place.
An alias of the directory itself is not one of its entries. -/
def namesIn (table : AliasTable) (real virtual : Text) : List Text :=
  Text.ascending (table.entries.filterMap fun entry =>
    if entry.2 = real then none
    else match Path.parent entry.1 with
      | some dir => if dir = real ∨ dir = virtual then some (Path.basename entry.1) else none
      | none => none)

/-- The names of the aliases that the listing of a directory shows. -/
def aliasNames (s : Session) (virtual real : Text) : Attempt (List Text) := do
  if s.resolver.aliases.isEmpty then return []
  let real := Path.trimSlashes real
  let placed := Path.trimSlashes (← s.resolver.find virtual false).real
  let names := namesIn s.resolver.aliases real placed
  if names ≠ [] then
    Attempt.note (.aliasesFound (s.log.path real) names.length)
  return names

/-! ## Listing -/

/-- Opens a directory. -/
def opendir (s : Session) (path : Text) : Attempt (DirHandle × Session) := do
  if s.bypasses then
    let listing ← Attempt.ask (.openDir path)
    let (handle, dirs) := s.dirs.insert path listing []
    return (handle, { s with dirs := dirs })
  let virtual ← Attempt.ofExcept (s.normalized path)
  let real := (← s.resolver.find virtual true).real
  let real ← s.followLinks s.resolver.limits.maxLinks real
  match ← Attempt.reply (.openDir real) with
  | .error failure =>
    Attempt.note (.openFailed (s.log.path real) failure.message)
    throw (.host failure)
  | .ok listing =>
    let names ← s.aliasNames virtual real
    let (handle, dirs) := s.dirs.insert real listing names
    return (handle, { s with dirs := dirs })

/-- Reads the next entry of an open directory; there is none at its end. A read that fails is
spent, and the next one goes on behind it. -/
def readdir (s : Session) (handle : DirHandle) :
    Dialogue (Except Error (Option DirEntry) × Session) :=
  match s.dirs.get? handle with
  | none => return (.error .unknownHandle, s)
  | some dir => do
    let step := dir.next
    Dialogue.notes step.events
    return (step.result.mapError .host, { s with dirs := s.dirs.set handle.slot step.rest })

/-- Reads an open directory to its end, or to the first failure. -/
def entries (s : Session) (handle : DirHandle) :
    Dialogue (Except Error (List DirEntry) × Session) :=
  match s.dirs.get? handle with
  | none => return (.error .unknownHandle, s)
  | some dir => do
    let step := dir.drain
    Dialogue.notes step.events
    return (step.result.mapError .host, { s with dirs := s.dirs.set handle.slot step.rest })

/-- Closes an open directory. -/
def closedir (s : Session) (handle : DirHandle) : Attempt Session := do
  match s.dirs.remove handle with
  | none => throw .unknownHandle
  | some (dir, dirs) =>
    Attempt.note (.directoryClosed (s.log.path dir.path))
    return { s with dirs := dirs }

/-- Opens a directory, reads it to its end and closes it, also after a read that failed. -/
def readDir (s : Session) (path : Text) : Dialogue (Except Error (List DirEntry) × Session) := do
  match ← (s.opendir path).run with
  | .error e => return (.error e, s)
  | .ok (handle, opened) =>
    let (entries, read) ← opened.entries handle
    match ← (read.closedir handle).run with
    | .error e => return (.error e, read)
    | .ok closed => return (entries, closed)

end PathJail.Session
