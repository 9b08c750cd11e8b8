import PathJail.Resolver.Lookup

/-!
# Registering aliases

A configured alias names a real path, its source, and the virtual path at which the source is to
appear. Both are made canonical before they go into the table: the source as text, the destination
by a lookup that follows no alias, so that the order of registration does not matter for it.

An alias is of no use when its source, seen as a virtual path, already resolves to its destination;
such an alias is refused.
-/

namespace PathJail.Resolver

/-- Registers an alias of `source` at `destination`. -/
def addAlias (r : Resolver) (source destination : Text) : Attempt Resolver := do
  if source = [] ∨ destination = [] then throw .emptyAlias
  if !Path.isAbsolute source then throw .relativeSource
  let real := Path.trimSlashes (Path.clean source)
  let virtual := if Path.isAbsolute destination then destination else '/' :: destination
  let key := Path.trimSlashes (← r.find virtual false).real
  let inside := Path.trimSlashes (← r.find real false).real
  if key = inside then
    Attempt.note (.aliasToItself key real)
    throw .selfAlias
  let aliases ← Attempt.ofExcept (r.aliases.add key real)
  Attempt.note (.aliased key real)
  return { r with aliases := aliases }

/-- The virtual path of a real path that lies at or below an alias's real path. Of several such
aliases the one with the longest real path is taken, and the first of those. -/
def virtualPath? (r : Resolver) (real : Text) : Option Text :=
  (nearest? r.aliases.entries).map fun found => r.stripBase found.1.1 ++ found.2
where
  /-- What follows an alias's real path in `real`; everything does when that path is the root. -/
  behind? (source : Text) : Option Text :=
    if source = ['/'] then if Path.isAbsolute real then some real else none
    else Path.below? source real
  /-- The entry with the longest real path that `real` lies at or below, and what follows it. -/
  nearest? (entries : List AliasEntry) : Option (AliasEntry × Text) :=
    entries.foldl (fun best entry =>
      match behind? entry.2, best with
      | none, _ => best
      | some rest, none => some (entry, rest)
      | some rest, some (longest, _) =>
        if Text.byteLength longest.2 < Text.byteLength entry.2 then some (entry, rest) else best)
      none

end PathJail.Resolver
