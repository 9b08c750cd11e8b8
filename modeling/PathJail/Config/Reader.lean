import PathJail.Config.Basic
import PathJail.Json.Reader

/-!
# Reading configurations

A configuration is a JSON document. Every field may be left out and then has its default, save the
two of an alias; unknown fields are refused. A document that has the right shape can still ask for
something impossible, which is found last.

* `Config.read`     — the configuration of a document, whether or not it can be used.
* `Config.parse`    — a configuration that can be used, or what is wrong.
* `ConfigError`     — what is wrong, in three stages.
-/

namespace PathJail

/-! ## The records of a configuration -/

def AliasConfig.schema : Json.Schema AliasConfig where
  name := "struct AliasConfig"
  fields := [
    .of "source" Json.Reader.text fun configured source =>
      { configured with source := source },
    .of "destination" Json.Reader.text fun configured destination =>
      { configured with destination := destination }]
  start := ⟨[], []⟩
  complete := true

def Options.schema : Json.Schema Options where
  name := "struct VrootOptions"
  fields := [
    .of "allow_symlinks" Json.Reader.bool fun options allow =>
      { options with allowSymlinks := allow },
    .of "server_root" Json.Reader.optionalText fun options root =>
      { options with serverRoot := root }]
  start := {}
  complete := false

def Limits.schema : Json.Schema Limits where
  name := "struct PathLimits"
  fields := [
    .of "max_path_length" Json.Reader.size fun limits n => { limits with maxPathLength := n },
    .of "max_symlink_depth" Json.Reader.size fun limits n => { limits with maxLinks := n }]
  start := {}
  complete := false

def LogConfig.schema : Json.Schema LogConfig where
  name := "struct LogConfig"
  fields := [.of "max_value_length" Json.Reader.size fun log n => { log with maxValueLength := n }]
  start := {}
  complete := false

def Config.schema : Json.Schema Config where
  name := "struct VrootConfig"
  fields := [
    .of "engine" Json.Reader.bool fun config engine => { config with engine := engine },
    .of "root" Json.Reader.optionalText fun config root => { config with root := root },
    .of "aliases" (Json.Reader.list AliasConfig.schema.read) fun config aliases =>
      { config with aliases := aliases },
    .of "options" Options.schema.read fun config options => { config with options := options },
    .of "limits" Limits.schema.read fun config limits => { config with limits := limits },
    .of "log" LogConfig.schema.read fun config log => { config with log := log }]
  start := {}
  complete := false

/-! ## Places in a document -/

/-- A place in a text, counting lines from one and bytes in the line from its start. -/
structure Position where
  line : Nat
  column : Nat
  deriving DecidableEq, Repr

/-- The place in `document` where `rest` is what follows. -/
def Position.before (document rest : Text) : Position :=
  let consumed := document.take (document.length - rest.length)
  let lastLine := (consumed.reverse.takeWhile (· ≠ '\n')).reverse
  ⟨consumed.count '\n' + 1, Text.byteLength lastLine⟩

/-! ## Configurations -/

/-- Why a text is no configuration. -/
inductive ConfigError
  /-- It is no JSON. What a reader of JSON would say of it, and the place, are left out. -/
  | malformed
  /-- It is JSON of another shape. -/
  | mismatch (why : Json.Mismatch) (place : Position)
  /-- It asks for something impossible. -/
  | unusable (problem : Config.Problem)

/-- What is wrong as an error of the library. Where a document stops being JSON, and what was expected
there, is not kept: every malformed document has the same message here. -/
def ConfigError.toError : ConfigError → Error
  | .malformed => .config "malformed JSON".toList
  | .mismatch why place =>
    .config (why.message ++ " at line ".toList ++ Text.ofNat place.line ++ " column ".toList
      ++ Text.ofNat place.column)
  | .unusable problem => .config problem.message

namespace Config

/-- The configuration that a document describes, usable or not. -/
def read (document : Text) : Except ConfigError Config :=
  match Json.document schema.read document with
  | .ok config => .ok config
  | .error .malformed => .error .malformed
  | .error (.mismatch why rest) => .error (.mismatch why (Position.before document rest))

/-- The configuration that a document describes, if it can be used. -/
def parse (document : Text) : Except ConfigError Config := do
  let config ← read document
  match config.problem? with
  | some problem => throw (.unusable problem)
  | none => return config

end Config

end PathJail
