import PathJail.Config.Basic
import PathJail.Json.Basic

/-!
# Writing configurations

A configuration is written with all its fields, in the order of their declaration, on one line;
`null` stands for what is missing.
-/

namespace PathJail

/-- A text that may be missing. -/
def Json.ofOption : Option Text → Json
  | some t => .string t
  | none => .null

def AliasConfig.toJson (configured : AliasConfig) : Json :=
  .object [("source", .string configured.source), ("destination", .string configured.destination)]

def Options.toJson (options : Options) : Json :=
  .object [("allow_symlinks", .bool options.allowSymlinks),
    ("server_root", .ofOption options.serverRoot)]

def Limits.toJson (limits : Limits) : Json :=
  .object [("max_path_length", .number limits.maxPathLength),
    ("max_symlink_depth", .number limits.maxLinks)]

def LogConfig.toJson (log : LogConfig) : Json :=
  .object [("max_value_length", .number log.maxValueLength)]

namespace Config

def toJson (config : Config) : Json :=
  .object [
    ("engine", .bool config.engine),
    ("root", .ofOption config.root),
    ("aliases", .array (config.aliases.map AliasConfig.toJson)),
    ("options", config.options.toJson),
    ("limits", config.limits.toJson),
    ("log", config.log.toJson)]

/-- The configuration as a document. -/
def print (config : Config) : Text := config.toJson.compact

end Config

end PathJail
