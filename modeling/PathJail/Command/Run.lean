import PathJail.Command.Arguments
import PathJail.Config.Reader
import PathJail.Json.Basic
import PathJail.Log.Filter
import PathJail.Session.Request

/-!
# Running the command

The command sets up a session from a configuration, asks it one thing, and prints the answer, as
lines or as JSON. What the command does to its surroundings is again a dialogue; only the file with
the configuration is read beforehand.

* `Outcome`        — exit code and both outputs.
* `Invocation.run` — carries out an invocation.
* `Refusal.outcome` — what is printed when there is nothing to carry out.
-/

namespace PathJail.Command

/-! ## Outputs -/

/-- What the command leaves behind. -/
structure Outcome where
  code : Nat
  stdout : Text := []
  stderr : Text := []
  deriving DecidableEq, Repr

/-- What the command was about when it failed, and the failures that led there. -/
structure Failure where
  context : Text
  causes : List Text
  deriving DecidableEq, Repr

/-- A text with an indentation behind each of its line breaks. -/
def indented (indentation t : Text) : Text :=
  t.flatMap fun c => if c = '\n' then '\n' :: indentation else [c]

/-- A number right-aligned in five columns. -/
def aligned (n : Nat) : Text :=
  List.replicate (5 - (Text.ofNat n).length) ' ' ++ Text.ofNat n

namespace Failure

/-- The causes on lines of their own, numbered when there are several. -/
def causeLines (causes : List Text) : Text :=
  match causes with
  | [only] => "    ".toList ++ indented "    ".toList only
  | _ => ['\n'].intercalate (causes.zipIdx.map fun (cause, i) =>
      aligned i ++ ": ".toList ++ indented "       ".toList cause)

/-- The failure in words. -/
def message (failure : Failure) : Text :=
  "Error: ".toList ++ failure.context ++ "\n\nCaused by:\n".toList
    ++ causeLines failure.causes ++ ['\n']

end Failure

/-- An answer of the command, as JSON and as a line. -/
structure Row where
  json : Json
  line : Text

/-- The rows as the settings ask for them. -/
def render (settings : Settings) (rows : List Row) : Text :=
  if settings.json then (Json.array (rows.map Row.json)).pretty ++ ['\n']
  else rows.flatMap fun row => row.line ++ ['\n']

/-! ## Rows -/

def typeName : Option FileType → Text
  | some .directory => "directory".toList
  | some .file => "file".toList
  | some .symlink => "symlink".toList
  | some .other => "other".toList
  | none => "unknown".toList

def cleanRow (path : Text) : Row :=
  let clean := Path.clean path
  ⟨.object [("clean", .string clean), ("path", .string path)], clean⟩

def resolvedRow (path : Text) (resolved : Resolved) : Row where
  json := .object [
    ("alias", match resolved.virtual with
      | some virtual => .string virtual
      | none => .null),
    ("path", .string path),
    ("real", .string resolved.real)]
  line := path ++ " -> ".toList ++ resolved.real ++ match resolved.virtual with
    | some virtual => " (alias ".toList ++ virtual ++ [')']
    | none => []

def entryRow (entry : DirEntry) : Row where
  json := .object [("alias", .bool entry.aliased), ("name", .string entry.name),
    ("type", .string (typeName entry.fileType))]
  line := entry.name ++ if entry.aliased then "\t(alias)".toList else []

def metadataRow (path : Text) (m : Metadata) : Row :=
  let kind := typeName (some m.fileType)
  -- A time before the epoch is shown as the epoch.
  let modified := m.modified.toNat
  { json := .object [("gid", .number m.gid), ("mode", .number m.mode),
      ("mtime", .number modified), ("path", .string path), ("size", .number m.size),
      ("type", .string kind), ("uid", .number m.uid)]
    line := path ++ ": ".toList ++ kind ++ " size=".toList ++ Text.ofNat m.size
      ++ " mode=".toList ++ Nat.toDigits 8 m.mode ++ " uid=".toList ++ Text.ofNat m.uid
      ++ " gid=".toList ++ Text.ofNat m.gid ++ " mtime=".toList ++ Text.ofNat modified }

def aliasRow (entry : AliasEntry) : Row :=
  ⟨.object [("alias", .string entry.1), ("real", .string entry.2)],
    entry.1 ++ " -> ".toList ++ entry.2⟩

/-! ## The session -/

/-- A step of the command, which may end in a failure. -/
abbrev Step := ExceptT Failure Dialogue

/-- An attempt as a step: its error is explained by what the attempt was about. -/
def explain {α : Type} (context : Text) (attempt : Attempt α) : Step α :=
  attempt.adapt fun e => ⟨context, e.causes⟩

/-- The configuration of an invocation; `document` is what reading its file gave. -/
def configuration (settings : Settings) (document : Except HostError Text) :
    Except Error Config := do
  if settings.config = none then return {}
  let text ← document.mapError Error.host
  (Config.parse text).mapError ConfigError.toError

/-- The warning about aliases that were skipped. -/
def warning (report : AliasReport) : Text :=
  if report.skipped = 0 then []
  else "vroot: ".toList ++ Text.ofNat report.skipped
    ++ " alias(es) skipped, run with --log warn for details\n".toList

/-- A session as the configuration wants it, and the warning about it. -/
def openSession (settings : Settings) (document : Except HostError Text) :
    Step (Text × Session) := do
  let config ← explain ("failed to load config: ".toList ++ settings.config.getD [])
    (.ofExcept (configuration settings document))
  let (report, session) ← ExceptT.lift (Session.new.configure config)
  let report ← explain "failed to set up vroot session".toList (.ofExcept report)
  return (warning report, session)

/-- Moves a session to the working directory that the settings name. -/
def enter (settings : Settings) (session : Session) : Step Session :=
  match settings.cwd with
  | none => return session
  | some cwd => explain ("failed to change directory to ".toList ++ cwd) (session.chdir cwd)

/-! ## Queries -/

/-- The row of a path that is resolved from the working directory. -/
def resolvePath (session : Session) (follow : Bool) (path : Text) : Step Row := do
  let anchored := session.resolver.realpath path true
  let resolved ← explain ("failed to resolve ".toList ++ path)
    (session.resolver.find anchored follow)
  return resolvedRow path resolved

/-- What a query finds out. -/
def Query.answer (session : Session) : Query → Step (List Row)
  | .resolve paths follow => paths.mapM (resolvePath session follow)
  | .list directory => do
    let (entries, _) ← ExceptT.lift (session.readDir directory)
    let entries ← explain ("failed to list ".toList ++ directory) (.ofExcept entries)
    return entries.map entryRow
  | .stat path entry => do
    let metadata ← explain ("failed to stat ".toList ++ path)
      (if entry then session.lstat path else session.stat path)
    return [metadataRow path metadata]
  | .aliases => return session.resolver.aliases.toSortedList.map aliasRow

namespace Invocation

/-- The file that has to be read before the invocation can run. -/
def document? (invocation : Invocation) : Option Text :=
  match invocation.action with
  | .clean _ => none
  | .query _ => invocation.settings.config

/-- The outcome of an action, behind the warnings before it. -/
def outcome (settings : Settings) (warnings : Text) : Except Failure (List Row) → Outcome
  | .ok rows => ⟨0, render settings rows, warnings⟩
  | .error failure => ⟨1, [], warnings ++ failure.message⟩

/-- Carries out the action of an invocation. -/
def perform (invocation : Invocation) (document : Except HostError Text) : Dialogue Outcome := do
  let settings := invocation.settings
  match invocation.action with
  | .clean paths => return outcome settings [] (.ok (paths.map cleanRow))
  | .query query =>
    match ← (openSession settings document).run with
    | .error failure => return outcome settings [] (.error failure)
    | .ok (warnings, session) =>
      let rows ← (enter settings session >>= fun session => query.answer session).run
      return outcome settings warnings rows

/-- Carries out an invocation; `document` is what reading its configuration gave. A log filter that
is not in order fails it before anything else. -/
def run (invocation : Invocation) (document : Except HostError Text) : Dialogue Outcome :=
  match invocation.settings.log.bind LogFilter.problem? with
  | some problem =>
    return outcome invocation.settings []
      (.error ⟨"invalid --log filter".toList, problem.causes⟩)
  | none => invocation.perform document

end Invocation

/-! ## Without an invocation -/

/-- How the command is used. -/
def usage : Text :=
  "vroot - Virtual chroot path engine

Usage: vroot [OPTIONS] <COMMAND>

Commands:
  clean    Canonicalize paths without resolving them
  resolve  Resolve virtual paths to real paths
  ls       List a virtual directory, alias entries included
  stat     Show metadata of a virtual path
  aliases  Dump the configured aliases
  help     Print this message

Options:
  -c, --config <CONFIG>  Session configuration file (JSON)
      --cwd <CWD>        Virtual working directory for relative paths
      --log <LOG>        Log filter
      --json             Print JSON instead of text
  -h, --help             Print help
  -V, --version          Print version
".toList

/-- What is printed for arguments that are no invocation. -/
def Refusal.outcome : Refusal → Outcome
  | .usage => ⟨2, [], "error: invalid arguments\n\nFor more information, try '--help'.\n".toList⟩
  | .help => ⟨0, Command.usage, []⟩
  | .version => ⟨0, "vroot 0.3.0\n".toList, []⟩

end PathJail.Command
