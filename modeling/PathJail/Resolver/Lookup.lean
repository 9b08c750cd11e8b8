import PathJail.Dialogue
import PathJail.Log.Config
import PathJail.Resolver.Basic

/-!
# Lookup

From a requested path to the path that the host is given. A lookup has two stages.

First the path is placed under the base, aliases aside (`confine`): it is made canonical, a base
that it already begins with is taken off, and what remains is walked down from the base. A `..` in
front moves up and never above the base.

Then the alias nearest to the path takes over (`crossing?`): of the path itself and the directories
above it, the longest that is an alias is replaced by its real path. This happens once; a real path
is not looked up again.

* `confine`          — the real path without aliases.
* `ancestors`        — a path cut at each slash, longest first.
* `crossing?`        — the alias at or nearest above a path, and the path through it.
* `lookup`           — both stages.
* `lookupEvents`     — what a lookup leaves in the log.
* `find`, `install…` — lookups and changes that look at the interrupt flag and keep the log.
-/

namespace PathJail

/-- Result of a lookup. -/
structure Resolved where
  /-- The path for the host. -/
  real : Text
  /-- The full virtual path, when it led through an alias. -/
  virtual : Option Text
  deriving DecidableEq, Repr

namespace Resolver

/-! ## Placing a path under the base -/

/-- A path that begins with the base, as seen from the base. The base alone is not taken off. -/
def withoutBase (r : Resolver) (path : Text) : Text :=
  if r.narrows then
    match Text.after? r.baseText path with
    | some rest => if Path.isAbsolute rest then rest else path
    | none => path
  else path

/-- One step up, and never above the base. -/
def up (r : Resolver) (here : Text) : Text :=
  let above := ((Path.splitLast here).map Prod.fst).getD []
  if above = [] ∨ ¬ r.isWithinBase above then r.baseRoot else above

/-- Walks a path down from `here`: a `..` in front moves up, a slash in front starts again at the
base, and the rest is appended, if it neither climbs nor becomes too long. -/
def descend (r : Resolver) (here : Text) : Text → Except Error Text
  | ['.', '.'] => r.descend (r.up here) []
  | '.' :: '.' :: '/' :: rest => r.descend (r.up here) rest
  | '/' :: rest => r.descend r.baseRoot rest
  | [] => .ok here
  | rest => do
    if (Path.segments rest).contains ['.', '.'] then throw .traversal
    r.limits.check (Text.byteLength here + 1 + Text.byteLength rest)
    return here ++ '/' :: rest

/-- The real path of a requested path when no alias is followed. `raised` is the state of the
interrupt flag. -/
def confine (r : Resolver) (raised : Bool) (path : Text) : Except Error Text := do
  if path = [] then throw .emptyPath
  let path := if path = ['.'] then r.cwd else path
  r.limits.check (Text.byteLength path)
  if raised then throw .interrupted
  let placed := Path.clean (← r.descend [] (r.withoutBase (Path.clean path)))
  return if placed = [] then r.baseRoot else placed

/-! ## Following an alias -/

/-- The path cut before each of its slashes, longest first, with what was cut off. -/
def cuts : Text → List (Text × Text)
  | [] => []
  | c :: cs =>
    (cuts cs).map (fun cut => (c :: cut.1, cut.2)) ++ if c = '/' then [([], c :: cs)] else []

/-- The path itself and the directories above it other than the root, longest first, each with the
part of the path behind it. -/
def ancestors (path : Text) : List (Text × Text) :=
  (path, []) :: (cuts path).filter fun cut => cut.1 ≠ []

/-- An alias's real path, continued by what follows the alias in the requested path. -/
def joinReal (real suffix : Text) : Text :=
  match Text.before? ['/'] real with
  | some front => if Path.isAbsolute suffix then front ++ suffix else real ++ suffix
  | none => real ++ suffix

/-- The real path through the alias that is nearest to `path`, at it or above it. -/
def crossing? (r : Resolver) (path : Text) : Option Text :=
  (ancestors path).findSome? fun cut =>
    (r.aliases.get? cut.1).map fun real => joinReal real cut.2

/-- The real path of a requested path. With `follow` the nearest alias is followed. -/
def lookup (r : Resolver) (raised : Bool) (path : Text) (follow : Bool) :
    Except Error Resolved := do
  let placed ← r.confine raised path
  match if follow then r.crossing? placed else none with
  | none => return ⟨placed, none⟩
  | some real =>
    r.limits.check (Text.byteLength real)
    return ⟨real, some placed⟩

/-! ## The log of a lookup -/

/-- The paths that are looked up in the alias table: up to and with the first that is an alias. -/
def tried (r : Resolver) (path : Text) : List Text :=
  let paths := (ancestors path).map Prod.fst
  let misses := paths.takeWhile fun candidate => !r.aliases.contains candidate
  misses ++ (paths.drop misses.length).take 1

/-- The events of a lookup. -/
def lookupEvents (r : Resolver) (raised : Bool) (path : Text) (follow : Bool) : List Event :=
  match r.confine raised path with
  | .error (.permissionDenied _) => [.traversalDenied (sanitize path)]
  | .error _ => []
  | .ok placed =>
    let search := follow && !r.aliases.isEmpty
    let candidates := if search then (r.tried placed).map Event.candidate else []
    match if search then r.crossing? placed else none with
    | none => candidates ++ [.lookup path placed]
    | some real =>
      match r.limits.check (Text.byteLength real) with
      | .error _ => candidates
      | .ok () => candidates ++ [.aliasCrossed placed real, .lookup path real]

/-! ## Lookups of a session -/

/-- A lookup that looks at the interrupt flag and keeps the log. -/
def find (r : Resolver) (path : Text) (follow : Bool) : Attempt Resolved := do
  let raised ← Attempt.poll
  Attempt.notes (r.lookupEvents raised path follow)
  Attempt.ofExcept (r.lookup raised path follow)

/-- Installs a base and keeps the log. -/
def installBase (r : Resolver) (base : Text) : Attempt Resolver := do
  let r ← Attempt.ofExcept (r.setBase base)
  Attempt.note (.baseInstalled r.baseText)
  return r

end Resolver

end PathJail
