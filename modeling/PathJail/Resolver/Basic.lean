import PathJail.Alias
import PathJail.Limits
import PathJail.Path.Clean

/-!
# The resolver's state

A resolver turns the paths of one session into real paths. It holds the base that the session is
confined to, the aliases, the working directory as the client sees it, and the limits. Movement is a
matter of text against a fixed base, so the host is never asked what `..` means.

* `setBase`, `setCwd`          — install a canonical base or working directory.
* `realpath`                   — a path made canonical, anchored at the working directory if asked.
* `isWithinBase`, `stripBase`  — where a real path lies with respect to the base.
-/

namespace PathJail

structure Resolver where
  /-- The directory that the session is confined to, once there is one. -/
  base : Option Text := none
  aliases : AliasTable := .empty
  /-- The working directory, as a virtual path. -/
  cwd : Text := ['/']
  limits : Limits := {}
  deriving Repr

namespace Resolver

/-! ## The base -/

/-- Whether the session has been given a base. -/
def hasBase (r : Resolver) : Bool := r.base.isSome

/-- The base, or nothing where there is none. -/
def baseText (r : Resolver) : Text := r.base.getD []

/-- The base with exactly one slash at its end. -/
def baseRoot (r : Resolver) : Text :=
  if r.baseText.getLast? = some '/' then r.baseText else r.baseText ++ ['/']

/-- Whether the base narrows the view: without one, or with `/`, every absolute path is inside. -/
def narrows (r : Resolver) : Bool := 1 < r.baseText.length

/-- Installs a base: canonical, without slashes at its end. -/
def setBase (r : Resolver) (base : Text) : Except Error Resolver := do
  if base = [] then throw .emptyBase
  if !Path.isAbsolute base then throw .relativeBase
  let base := Path.trimSlashes (Path.clean base)
  r.limits.check (Text.byteLength base)
  return { r with base := some base }

/-- Removes the base. -/
def clearBase (r : Resolver) : Resolver := { r with base := none }

/-- Whether a path lies strictly below the base. -/
def isWithinBase (r : Resolver) (path : Text) : Bool :=
  if r.narrows then
    match Text.after? r.baseText path with
    | some rest => Path.isAbsolute rest
    | none => false
  else Path.isAbsolute path

/-- A real path as seen from the base, `/` for the base itself. A path outside is left alone. -/
def stripBase (r : Resolver) (path : Text) : Text :=
  if r.narrows then
    match Path.below? r.baseText path with
    | some [] => ['/']
    | some rest => rest
    | none => path
  else path

/-! ## The working directory -/

/-- Installs a working directory: canonical, without a slash at its end. -/
def setCwd (r : Resolver) (cwd : Text) : Except Error Resolver := do
  if !Path.isAbsolute cwd then throw .relativeDirectory
  let cwd := Path.trimSlash (Path.clean cwd)
  r.limits.check (Text.byteLength cwd)
  return { r with cwd := cwd }

/-- Moves the working directory back to the virtual root. -/
def resetCwd (r : Resolver) : Resolver := { r with cwd := ['/'] }

/-- A path below the working directory. -/
def fromCwd (r : Resolver) (path : Text) : Text := r.cwd ++ '/' :: path

/-- The canonical form of a path without a slash at its end. With `anchor`, a relative path is
taken from the working directory. -/
def realpath (r : Resolver) (path : Text) (anchor : Bool) : Text :=
  Path.trimSlash (Path.clean (if anchor && !Path.isAbsolute path then r.fromCwd path else path))

/-! ## Aliases and limits -/

/-- Drops every alias. -/
def clearAliases (r : Resolver) : Resolver := { r with aliases := .empty }

/-- Puts new limits in force; paths that are installed already are not looked at again. -/
def setLimits (r : Resolver) (limits : Limits) : Resolver := { r with limits := limits }

end Resolver

end PathJail
