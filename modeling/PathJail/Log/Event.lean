import PathJail.Error

/-!
# Diagnostic events

What a session tells its operator while it works. An event never carries data back into the session.
Each kind of event is a constructor with the values it shows; its level, the layer it comes from,
its message and the names of its values are given in one table, `Event.record`.
-/

namespace PathJail

/-! ## Levels and layers -/

/-- Severity, the most severe first. -/
inductive Level
  | error | warn | info | debug | trace
  deriving DecidableEq, Repr

namespace Level

def rank : Level → Nat
  | .error => 0
  | .warn => 1
  | .info => 2
  | .debug => 3
  | .trace => 4

/-- Whether a log kept at `threshold` takes an event of this level. -/
def passes (level threshold : Level) : Bool := level.rank ≤ threshold.rank

def name : Level → String
  | .error => "ERROR"
  | .warn => "WARN"
  | .info => "INFO"
  | .debug => "DEBUG"
  | .trace => "TRACE"

end Level

/-- The part of the library that an event comes from. -/
inductive Layer
  /-- Resolution of paths. -/
  | path
  /-- Registration of aliases. -/
  | aliases
  /-- Requests, directories and the host. -/
  | files
  deriving DecidableEq, Repr

def Layer.target : Layer → String
  | .path => "vroot::path"
  | .aliases => "vroot::alias"
  | .files => "vroot::fsio"

/-! ## Events -/

inductive Event
  /-- A base was installed. -/
  | baseInstalled (base : Text)
  /-- A path was refused because it climbs. -/
  | traversalDenied (path : Text)
  /-- A path was looked up in the alias table. -/
  | candidate (path : Text)
  /-- The path lies at or below an alias. -/
  | aliasCrossed (virtual real : Text)
  /-- A lookup ended. -/
  | lookup (requested real : Text)
  /-- An alias would have mapped a path to itself. -/
  | aliasToItself (virtual real : Text)
  /-- An alias was registered. -/
  | aliased (virtual real : Text)
  /-- Aliases were given before any base. -/
  | aliasesWithoutBase (count : Nat)
  /-- An alias of a configuration was registered before. -/
  | aliasRepeated (virtual : Text)
  /-- An alias of a configuration cannot be registered. -/
  | aliasRejected (virtual real error : Text)
  /-- A configuration switched the engine off. -/
  | engineDisabled
  /-- The session's state was dropped. -/
  | tornDown
  /-- An alias was about to be deleted. -/
  | deletionDenied (path : Text)
  /-- The session was confined to the root of the file system. -/
  | rootIsNoJail
  /-- The process could not be confined to the server root. -/
  | serverRootFailed (serverRoot error : Text)
  /-- The requested root lies outside the server root. -/
  | outsideServerRoot (path serverRoot : Text)
  /-- The session was confined. -/
  | confined (base chroot : Text)
  /-- The working directory was changed. -/
  | directoryChanged (cwd : Text)
  /-- The host could not open a directory. -/
  | openFailed (path error : Text)
  /-- Too many symbolic links led to a directory. -/
  | tooManyLinks (path : Text) (depth : Nat)
  /-- A symbolic link's target is no text. -/
  | unreadableTarget (link : Text)
  /-- A symbolic link on the way to a directory is followed. -/
  | linkFollowed (link target : Text)
  /-- Aliases appear in a directory's listing. -/
  | aliasesFound (directory : Text) (count : Nat)
  /-- An entry of the host is hidden by an alias. -/
  | entryHidden (directory name : Text)
  /-- An entry of the host has a name that is no text. -/
  | unreadableName (name : Text)
  /-- A directory was closed. -/
  | directoryClosed (path : Text)
  deriving DecidableEq, Repr

/-- A value that an event shows. -/
inductive Event.Value
  | text (value : Text)
  | count (value : Nat)
  deriving DecidableEq, Repr

/-- One line of the log. -/
structure Event.Record where
  level : Level
  layer : Layer
  message : String
  fields : List (String × Event.Value)
  deriving DecidableEq, Repr

namespace Event

/-- The line that an event makes in the log. -/
def record : Event → Record
  | .baseInstalled base =>
    ⟨.debug, .path, "installed vroot base", [("base", .text base)]⟩
  | .traversalDenied path =>
    ⟨.debug, .path, "denying path traversal", [("path", .text path)]⟩
  | .candidate path =>
    ⟨.trace, .path, "checking for alias", [("candidate", .text path)]⟩
  | .aliasCrossed virtual real =>
    ⟨.trace, .path, "resolved through alias", [("alias", .text virtual), ("real", .text real)]⟩
  | .lookup requested real =>
    ⟨.trace, .path, "lookup", [("requested", .text requested), ("real", .text real)]⟩
  | .aliasToItself virtual real =>
    ⟨.warn, .aliases, "alias maps to its real path inside the vroot, ignoring",
      [("alias", .text virtual), ("real", .text real)]⟩
  | .aliased virtual real =>
    ⟨.info, .aliases, "aliased", [("alias", .text virtual), ("real", .text real)]⟩
  | .aliasesWithoutBase count =>
    ⟨.debug, .aliases, "no vroot base, skipping aliases", [("count", .count count)]⟩
  | .aliasRepeated virtual =>
    ⟨.warn, .aliases, "alias already configured, ignoring", [("alias", .text virtual)]⟩
  | .aliasRejected virtual real error =>
    ⟨.warn, .aliases, "error stashing alias",
      [("alias", .text virtual), ("real", .text real), ("error", .text error)]⟩
  | .engineDisabled =>
    ⟨.debug, .files, "engine disabled, not installing root", []⟩
  | .tornDown =>
    ⟨.debug, .files, "session torn down", []⟩
  | .deletionDenied path =>
    ⟨.debug, .files, "denying delete of alias", [("path", .text path)]⟩
  | .rootIsNoJail =>
    ⟨.debug, .files, "chroot to / is a no-op", []⟩
  | .serverRootFailed serverRoot error =>
    ⟨.warn, .files, "error chrooting to server root",
      [("server_root", .text serverRoot), ("error", .text error)]⟩
  | .outsideServerRoot path serverRoot =>
    ⟨.debug, .files, "path not within server root, using vroot only",
      [("path", .text path), ("server_root", .text serverRoot)]⟩
  | .confined base chroot =>
    ⟨.info, .files, "confined session", [("base", .text base), ("chroot", .text chroot)]⟩
  | .directoryChanged cwd =>
    ⟨.trace, .files, "changed directory", [("cwd", .text cwd)]⟩
  | .openFailed path error =>
    ⟨.debug, .files, "error opening directory", [("path", .text path), ("error", .text error)]⟩
  | .tooManyLinks path depth =>
    ⟨.warn, .files, "too many symlinks opening directory",
      [("path", .text path), ("depth", .count depth)]⟩
  | .unreadableTarget link =>
    ⟨.debug, .files, "symlink target is not UTF-8", [("link", .text link)]⟩
  | .linkFollowed link target =>
    ⟨.trace, .files, "following directory symlink",
      [("link", .text link), ("target", .text target)]⟩
  | .aliasesFound directory count =>
    ⟨.debug, .files, "found aliases in directory",
      [("dir", .text directory), ("count", .count count)]⟩
  | .entryHidden directory name =>
    ⟨.debug, .files, "skipping entry shadowed by alias",
      [("dir", .text directory), ("name", .text name)]⟩
  | .unreadableName name =>
    ⟨.debug, .files, "skipping entry with non-UTF-8 name", [("name", .text name)]⟩
  | .directoryClosed path =>
    ⟨.trace, .files, "closed directory", [("path", .text path)]⟩

end Event

end PathJail
