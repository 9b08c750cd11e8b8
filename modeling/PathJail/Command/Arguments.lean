import PathJail.Text.Basic

/-!
# Command line arguments

The command takes options, the name of an action, and what the action works on. Options that concern
the whole command stand before or after the action's name; of one given at both places the later
counts, and at one place no option is given twice. A value stands behind its option, after `=` or as
the next argument, and behind a short option also directly. After `--` nothing is an option.

* `Invocation`       — what the command is asked to do.
* `Invocation.parse` — reads the arguments; `Refusal` when they ask for something else.
-/

namespace PathJail.Command

/-! ## What can be asked -/

/-- Options of the whole command. -/
structure Settings where
  /-- File with the session's configuration. -/
  config : Option Text := none
  /-- Working directory to change to before the action. -/
  cwd : Option Text := none
  /-- Which events to show. -/
  log : Option Text := none
  /-- Whether to print JSON. -/
  json : Bool := false
  deriving DecidableEq, Repr

/-- What a session can be asked. -/
inductive Query
  /-- The real paths of virtual paths. -/
  | resolve (paths : List Text) (follow : Bool)
  /-- The entries of a directory. -/
  | list (directory : Text)
  /-- The metadata of a file; of the entry itself with `entry`. -/
  | stat (path : Text) (entry : Bool)
  /-- The aliases. -/
  | aliases
  deriving DecidableEq, Repr

inductive Action
  /-- Print paths in canonical form, which needs no session. -/
  | clean (paths : List Text)
  /-- Ask a session and print its answer. -/
  | query (query : Query)
  deriving DecidableEq, Repr

structure Invocation where
  settings : Settings
  action : Action
  deriving DecidableEq, Repr

/-- Why arguments are not an invocation. -/
inductive Refusal
  /-- They cannot be understood. -/
  | usage
  /-- They ask for help. -/
  | help
  /-- They ask for the version. -/
  | version
  deriving DecidableEq, Repr

/-! ## Options -/

/-- What an option takes. -/
inductive OptionKind
  | flag
  | value
  /-- A value that may not be empty. -/
  | path
  /-- The option ends the reading. -/
  | stop (refusal : Refusal)
  deriving DecidableEq, Repr

structure OptionSpec where
  long : String
  short : Option Char := none
  kind : OptionKind
  deriving DecidableEq, Repr

/-- The options of the whole command. -/
def globalOptions : List OptionSpec := [
  { long := "config", short := some 'c', kind := .path },
  { long := "cwd", kind := .value },
  { long := "log", kind := .value },
  { long := "json", kind := .flag },
  { long := "help", short := some 'h', kind := .stop .help }]

/-- The options before the action's name. -/
def topOptions : List OptionSpec :=
  globalOptions ++ [{ long := "version", short := some 'V', kind := .stop .version }]

/-- What was read of a list of arguments. -/
structure Given where
  flags : List String := []
  values : List (String × Text) := []
  /-- Arguments that are no options, in order. -/
  operands : List Text := []
  deriving DecidableEq, Repr

namespace Given

/-- Whether an option has been given. -/
def has (given : Given) (name : String) : Bool :=
  given.flags.contains name || (given.values.lookup name).isSome

def settings (given : Given) : Settings where
  config := given.values.lookup "config"
  cwd := given.values.lookup "cwd"
  log := given.values.lookup "log"
  json := given.flags.contains "json"

end Given

/-- Whether an argument cannot be the value of the option before it. -/
def looksLikeOption (arg : Text) : Bool := arg.head? = some '-' && arg ≠ ['-']

/-- The next argument as a value, and the arguments behind it. -/
def nextValue : (rest : List Text) →
    Except Refusal (Text × { more : List Text // more.length ≤ rest.length })
  | [] => .error .usage
  | value :: more =>
    if looksLikeOption value then .error .usage else .ok (value, ⟨more, Nat.le_succ _⟩)

/-- Records an option with what is attached to it, or with the next argument for a value; gives the
arguments that are left. -/
def takeOption (spec : OptionSpec) (attached : Option Text) (given : Given) (rest : List Text) :
    Except Refusal (Given × { more : List Text // more.length ≤ rest.length }) := do
  if given.has spec.long then throw .usage
  let record (value : Text) : Except Refusal Given :=
    if spec.kind = .path ∧ value = [] then .error .usage
    else .ok { given with values := (spec.long, value) :: given.values }
  match spec.kind, attached with
  | .stop refusal, none => throw refusal
  | .stop _, some _ => throw .usage
  | .flag, none =>
    return ({ given with flags := spec.long :: given.flags }, ⟨rest, Nat.le_refl _⟩)
  | .flag, some _ => throw .usage
  | _, some value => return (← record value, ⟨rest, Nat.le_refl _⟩)
  | _, none =>
    let (value, more) ← nextValue rest
    return (← record value, more)

/-- An argument that begins with dashes as an option, with what is attached to it. -/
def splitOption (specs : List OptionSpec) (arg : Text) :
    Except Refusal (OptionSpec × Option Text) :=
  match arg with
  | '-' :: '-' :: name =>
    let (key, attached) := (name.takeWhile (· ≠ '='), name.dropWhile (· ≠ '='))
    match specs.find? fun spec => spec.long.toList = key with
    | some spec => .ok (spec, if attached = [] then none else some (attached.drop 1))
    | none => .error .usage
  | '-' :: letter :: attached =>
    match specs.find? fun spec => spec.short = some letter with
    | none => .error .usage
    | some spec =>
      match spec.kind, attached with
      | .stop _, _ => .ok (spec, none)
      | _, [] => .ok (spec, none)
      | _, '=' :: value => .ok (spec, some value)
      | _, value => .ok (spec, some value)
  | _ => .error .usage

/-- Reads options and at most `most` operands. -/
def readArguments (specs : List OptionSpec) (most : Option Nat) (given : Given) :
    List Text → Except Refusal Given
  | [] => .ok given
  | arg :: rest =>
    if arg = ['-', '-'] then
      if most.any fun n => n < given.operands.length + rest.length then .error .usage
      else .ok { given with operands := given.operands ++ rest }
    else if looksLikeOption arg then do
      let (spec, attached) ← splitOption specs arg
      let (given, more) ← takeOption spec attached given rest
      readArguments specs most given more.val
    else if most.any fun n => n ≤ given.operands.length then .error .usage
    else readArguments specs most { given with operands := given.operands ++ [arg] } rest
termination_by args => args.length
decreasing_by
  · have := more.property
    simp only [List.length_cons]
    omega
  · simp

/-- Reads options up to the first argument that is none, and the arguments behind it. -/
def readLeading (specs : List OptionSpec) (given : Given) :
    List Text → Except Refusal (Given × Text × List Text)
  | [] => .error .usage
  | arg :: rest =>
    if arg = ['-', '-'] then .error .usage
    else if looksLikeOption arg then do
      let (spec, attached) ← splitOption specs arg
      let (given, more) ← takeOption spec attached given rest
      readLeading specs given more.val
    else .ok (given, arg, rest)
termination_by args => args.length
decreasing_by
  have := more.property
  simp only [List.length_cons]
  omega

/-! ## Actions -/

/-- How an action's arguments are read. -/
structure ActionSpec where
  name : String
  options : List OptionSpec := []
  /-- How many operands it takes at most. -/
  most : Option Nat
  /-- The action, unless operands are missing. -/
  action : Given → Option Action

def actionSpecs : List ActionSpec := [
  { name := "clean"
    most := none
    action := fun given => if given.operands = [] then none else some (.clean given.operands) },
  { name := "resolve"
    options := [{ long := "no-alias", kind := .flag }]
    most := none
    action := fun given =>
      if given.operands = [] then none
      else some (.query (.resolve given.operands (!given.flags.contains "no-alias"))) },
  { name := "ls"
    most := some 1
    action := fun given => some (.query (.list (given.operands.headD ['.']))) },
  { name := "stat"
    options := [{ long := "lstat", kind := .flag }]
    most := some 1
    action := fun given =>
      given.operands.head?.map fun path => .query (.stat path (given.flags.contains "lstat")) },
  { name := "aliases"
    most := some 0
    action := fun _ => some (.query .aliases) }]

/-- Options given before the action, and those given behind it, which count more. -/
def Settings.merge (before behind : Settings) : Settings where
  config := behind.config.or before.config
  cwd := behind.cwd.or before.cwd
  log := behind.log.or before.log
  json := before.json || behind.json

/-- What a request for help comes to: help is there on the command and on each action. -/
def helpOn : List Text → Refusal
  | [] => .help
  | [topic] =>
    if topic = "help".toList ∨ actionSpecs.any (fun spec => spec.name.toList = topic) then .help
    else .usage
  | _ => .usage

/-- Reads the arguments of the command. -/
def Invocation.parse (args : List Text) : Except Refusal Invocation := do
  let (leading, name, rest) ← readLeading topOptions {} args
  match actionSpecs.find? fun spec => spec.name.toList = name with
  | none => throw (if name = "help".toList then helpOn rest else .usage)
  | some spec =>
    let given ← readArguments (globalOptions ++ spec.options) spec.most {} rest
    match spec.action given with
    | none => throw .usage
    | some action => return ⟨leading.settings.merge given.settings, action⟩

end PathJail.Command
