import PathJail.Session.Directories

/-!
# Setting a session up

Confining a session to a root, registering its aliases, applying a configuration, and dropping all
of it again.

Confining is a matter of text: the root becomes the resolver's base. Only when a server root is
configured and the requested root lies at or below it is the process itself confined, to the server
root, and what remains of the root becomes the base.

* `chroot`         — confines a session.
* `installAliases` — registers configured aliases and counts those it skipped.
* `configure`      — options and limits, then the root, then the aliases.
* `teardown`       — forgets base, aliases, working directory and open directories.
-/

namespace PathJail.Session

/-! ## Roots -/

/-- What is left of `path` below a server root, when it lies at it or below it. The root of the
file system is no server root. -/
def belowServerRoot? (serverRoot path : Text) : Option Text :=
  if Path.bare serverRoot = [] then none else Path.below? (Path.bare serverRoot) path

/-- The place to confine the process to, and the base that is then left. -/
def confineProcess (s : Session) (path : Text) : Attempt (Text × Text) := do
  match s.options.serverRoot with
  | none => return (['/'], path)
  | some serverRoot =>
    match belowServerRoot? serverRoot path with
    | none =>
      Attempt.note (.outsideServerRoot (s.log.path path) (s.log.path serverRoot))
      return (['/'], path)
    | some rest =>
      let root := Path.bare serverRoot
      match ← Attempt.reply (.chroot root) with
      | .error failure =>
        Attempt.note (.serverRootFailed (s.log.path root) failure.message)
        throw (.host failure)
      | .ok () => return (root, rest)

/-- Confines the session to a root. The root of the file system confines nothing. -/
def chroot (s : Session) (path : Text) : Attempt Session := do
  if path = [] then throw .emptyRoot
  if !Path.isAbsolute path then throw .relativeRoot
  if path = ['/'] then
    Attempt.note .rootIsNoJail
    return s
  let (chrootPath, base) ← s.confineProcess path
  let resolver ← s.resolver.installBase (if base = [] then ['/'] else base)
  Attempt.note (.confined (s.log.path (resolver.base.getD ['/'])) (s.log.path chrootPath))
  return { s with resolver := resolver, chrootPath := some chrootPath }

/-! ## Aliases -/

/-- Registers one configured alias; one that cannot be registered is counted as skipped. -/
def installAlias (s : Session) (report : AliasReport) (configured : AliasConfig) :
    Dialogue (AliasReport × Session) := do
  match ← (s.resolver.addAlias configured.source configured.destination).run with
  | .ok resolver =>
    return ({ report with installed := report.installed + 1 }, { s with resolver := resolver })
  | .error .alreadyExists =>
    Dialogue.notes [.aliasRepeated (s.log.path configured.destination)]
    return ({ report with skipped := report.skipped + 1 }, s)
  | .error e =>
    Dialogue.notes [.aliasRejected (s.log.path configured.destination)
      (s.log.path configured.source) e.message]
    return ({ report with skipped := report.skipped + 1 }, s)

/-- Registers configured aliases in order. Without a base all of them are skipped. -/
def installAliases (s : Session) (aliases : List AliasConfig) :
    Dialogue (AliasReport × Session) := do
  if s.resolver.hasBase then
    aliases.foldlM (fun state configured => state.2.installAlias state.1 configured) ({}, s)
  else
    if aliases ≠ [] then Dialogue.notes [.aliasesWithoutBase aliases.length]
    return ({ skipped := aliases.length }, s)

/-! ## Whole sessions -/

/-- Applies a configuration. Options, limits and log are in force even when the root cannot be
installed. -/
def configure (s : Session) (config : Config) :
    Dialogue (Except Error AliasReport × Session) := do
  let s := { s with
    options := config.options
    log := config.log
    resolver := s.resolver.setLimits config.limits }
  if !config.engine then
    Dialogue.notes [.engineDisabled]
    return (.ok {}, s)
  let confined ← match config.root with
    | none => pure (.ok s)
    | some root => (s.chroot root).run
  match confined with
  | .error e => return (.error e, s)
  | .ok s =>
    let (report, s) ← s.installAliases config.aliases
    return (.ok report, s)

/-- Drops base, aliases, working directory and open directories. -/
def teardown (s : Session) : Dialogue Session := do
  Dialogue.notes [.tornDown]
  return { s with
    resolver := s.resolver.clearBase.clearAliases.resetCwd
    dirs := s.dirs.clear
    chrootPath := none
    phase := .normal }

end PathJail.Session
