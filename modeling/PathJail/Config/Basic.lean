import PathJail.Limits
import PathJail.Log.Config
import PathJail.Path.Basic

/-!
# Configuration

Everything that an operator decides about a session before it serves requests: whether paths are
confined at all, to which root, which aliases are laid over it, and the tunables. All of it has a
default, so the empty configuration is one.

* `Config`          — the configuration.
* `Config.problem?` — what keeps a configuration from being used.
-/

namespace PathJail

/-- An alias as it is configured. -/
structure AliasConfig where
  /-- Real path on the host. -/
  source : Text
  /-- Virtual path at which the source is to appear. -/
  destination : Text
  deriving DecidableEq, Repr

/-- Switches of a session. -/
structure Options where
  /-- Whether `lstat` shows symbolic links. When it does not, a link looks like its target, so a
  client never sees one that leads outside. -/
  allowSymlinks : Bool := false
  /-- Directory that the whole server process is confined to before a session's root below it. -/
  serverRoot : Option Text := none
  deriving DecidableEq, Repr

structure Config where
  /-- Whether paths are confined; without, a session is the plain host file system. -/
  engine : Bool := true
  /-- Directory to confine the session to. -/
  root : Option Text := none
  /-- Aliases, registered in order once there is a root. -/
  aliases : List AliasConfig := []
  options : Options := {}
  limits : Limits := {}
  log : LogConfig := {}
  deriving DecidableEq, Repr

namespace Config

/-- What is wrong with a configuration that is otherwise well formed. -/
inductive Problem
  | relativeRoot (root : Text)
  | relativeServerRoot (root : Text)
  | zeroPathLength
  deriving DecidableEq, Repr

/-- The problem in words. -/
def Problem.message : Problem → Text
  | .relativeRoot root => "root must be absolute: ".toList ++ root
  | .relativeServerRoot root => "server_root must be absolute: ".toList ++ root
  | .zeroPathLength => "max_path_length must be positive".toList

/-- Whether a path that may be missing is relative. -/
def isRelative (path : Option Text) : Bool := path.any fun p => !Path.isAbsolute p

/-- The first problem of a configuration. -/
def problem? (c : Config) : Option Problem :=
  if isRelative c.root then some (.relativeRoot (c.root.getD []))
  else if isRelative c.options.serverRoot then
    some (.relativeServerRoot (c.options.serverRoot.getD []))
  else if c.limits.maxPathLength = 0 then some .zeroPathLength
  else none

end Config

/-- What became of a list of configured aliases. One that cannot be registered is skipped and never
fails the session. -/
structure AliasReport where
  installed : Nat := 0
  skipped : Nat := 0
  deriving DecidableEq, Repr

end PathJail
