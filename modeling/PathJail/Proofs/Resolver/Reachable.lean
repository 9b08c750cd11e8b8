import PathJail.Proofs.Dialogue.Courses
import PathJail.Proofs.Resolver.Placement
import PathJail.Resolver.Aliasing

/-!
# What holds of every resolver

A resolver begins without a base and without aliases, and is changed by a handful of operations.
Each of them makes a path canonical before it keeps it, so in every resolver that comes about the
base, the working directory and both paths of every alias are canonical.

* `Reachable`           — the resolvers that come about.
* `Canonical`           — the invariant.
* `Reachable.canonical` — it holds of all of them; `Canonical.addAlias` and the lemmas beside it are
  the steps.
* `lookup_unaliased`    — the closed form of a lookup without aliases, in all of them.
-/

namespace PathJail.Resolver

open PathJail.Path (Tidy Trimmed isAbsolute clean)

variable {r r' : Resolver}

-- ---------------------------------------------------------------------------
-- The resolvers that come about
-- ---------------------------------------------------------------------------

/-- The resolvers that the operations lead to. -/
inductive Reachable : Resolver → Prop
  | new (limits : Limits) : Reachable { limits }
  | setBase {r r' : Resolver} (base : Text) : Reachable r → r.setBase base = .ok r' → Reachable r'
  | clearBase {r : Resolver} : Reachable r → Reachable r.clearBase
  | setCwd {r r' : Resolver} (cwd : Text) : Reachable r → r.setCwd cwd = .ok r' → Reachable r'
  | resetCwd {r : Resolver} : Reachable r → Reachable r.resetCwd
  | setLimits {r : Resolver} (limits : Limits) : Reachable r → Reachable (r.setLimits limits)
  | addAlias {r r' : Resolver} (source destination : Text) : Reachable r →
      (r.addAlias source destination).run.Ends (.ok r') → Reachable r'
  | clearAliases {r : Resolver} : Reachable r → Reachable r.clearAliases
  /-- Nothing is promised about the order in which the table is walked. -/
  | reorder {r : Resolver} (table : AliasTable) : Reachable r →
      table.entries.Perm r.aliases.entries → Reachable { r with aliases := table }

/-- All paths that the resolver keeps are canonical. -/
structure Canonical (r : Resolver) : Prop where
  base : ∀ b, r.base = some b → Trimmed b
  cwd : Trimmed r.cwd
  key : ∀ entry ∈ r.aliases.entries, Trimmed entry.1
  source : ∀ entry ∈ r.aliases.entries, Trimmed entry.2

-- ---------------------------------------------------------------------------
-- Lookups
-- ---------------------------------------------------------------------------

/-- A lookup without aliases is the placing of the path. -/
theorem lookup_false (r : Resolver) (raised : Bool) (path : Text) :
    r.lookup raised path false = (r.confine raised path).map fun real => ⟨real, none⟩ := by
  rw [lookup]
  cases r.confine raised path <;> rfl

/-- What it comes to is the place of the path. -/
theorem confine_of_lookup_false {raised : Bool} {path : Text} {resolved : Resolved}
    (h : r.lookup raised path false = .ok resolved) :
    r.confine raised path = .ok resolved.real := by
  rw [lookup_false] at h
  cases hConfine : r.confine raised path with
  | error e => rw [hConfine] at h; cases h
  | ok real => rw [hConfine] at h; cases h; rfl

/-- A canonical base is made of names. -/
theorem Canonical.baseNames (h : r.Canonical) : ∃ names, BaseNames r names :=
  exists_baseNames h.base

theorem Canonical.tidy_of_lookup_false (h : r.Canonical) {raised : Bool} {path : Text}
    {resolved : Resolved} (hLookup : r.lookup raised path false = .ok resolved) :
    Tidy resolved.real := by
  obtain ⟨names, hNames⟩ := h.baseNames
  exact tidy_of_confine hNames (confine_of_lookup_false hLookup)

@[simp] theorem every_find {C : Call → Prop} {Q : Resolved → Prop} (r : Resolver) (path : Text)
    (follow : Bool) : (r.find path follow).Every C Q ↔
      ∀ raised resolved, r.lookup raised path follow = .ok resolved → Q resolved := by
  simp [find]

/-- A lookup that succeeds with the flag down is one course. -/
theorem ends_find {path : Text} {follow : Bool} {resolved : Resolved}
    (h : r.lookup false path follow = .ok resolved) :
    (r.find path follow).run.Ends (.ok resolved) := by
  refine Attempt.ends_bind (.poll false (.done _)) ?_
  refine Attempt.ends_bind (Attempt.ends_notes _) ?_
  rw [h]
  exact .done _

-- ---------------------------------------------------------------------------
-- The steps
-- ---------------------------------------------------------------------------

/-- A path is kept if its canonical form is not too long. -/
theorem check_bind_eq_ok_iff {α : Type} {limits : Limits} {length : Nat} {a b : α} :
    (do limits.check length; return a : Except Error α) = .ok b ↔
      length < limits.maxPathLength ∧ a = b := by
  rw [← Limits.check_eq_ok_iff]
  cases limits.check length with
  | error e => exact ⟨nofun, fun h => nomatch h.1⟩
  | ok _ => exact ⟨fun h => ⟨rfl, Except.ok.inj h⟩, fun h => congrArg Except.ok h.2⟩

/-- When a base is installed, and what is kept of it. -/
theorem setBase_eq_ok_iff {base : Text} : r.setBase base = .ok r' ↔
    isAbsolute base = true ∧
      Text.byteLength (Path.trimSlashes (clean base)) < r.limits.maxPathLength ∧
      { r with base := some (Path.trimSlashes (clean base)) } = r' := by
  unfold setBase
  by_cases hEmpty : base = []
  · rw [hEmpty]
    exact ⟨nofun, fun h => nomatch h.1⟩
  rw [if_neg hEmpty]
  cases isAbsolute base with
  | false => exact ⟨nofun, fun h => nomatch h.1⟩
  | true => exact ⟨fun h => ⟨rfl, check_bind_eq_ok_iff.mp h⟩, fun h => check_bind_eq_ok_iff.mpr h.2⟩

/-- When a working directory is kept, and what of it. -/
theorem setCwd_eq_ok_iff {cwd : Text} : r.setCwd cwd = .ok r' ↔
    isAbsolute cwd = true ∧
      Text.byteLength (Path.trimSlash (clean cwd)) < r.limits.maxPathLength ∧
      { r with cwd := Path.trimSlash (clean cwd) } = r' := by
  unfold setCwd
  cases isAbsolute cwd with
  | false => exact ⟨nofun, fun h => nomatch h.1⟩
  | true => exact ⟨fun h => ⟨rfl, check_bind_eq_ok_iff.mp h⟩, fun h => check_bind_eq_ok_iff.mpr h.2⟩

theorem Canonical.setBase (h : r.Canonical) {base : Text} (hBase : r.setBase base = .ok r') :
    r'.Canonical := by
  obtain ⟨hAbsolute, -, rfl⟩ := setBase_eq_ok_iff.mp hBase
  refine { h with base := fun b hb => ?_ }
  obtain rfl := Option.some.inj hb
  exact Path.trimmed_trimSlashes (Path.tidy_clean hAbsolute)

theorem Canonical.setCwd (h : r.Canonical) {cwd : Text} (hCwd : r.setCwd cwd = .ok r') :
    r'.Canonical := by
  obtain ⟨hAbsolute, -, rfl⟩ := setCwd_eq_ok_iff.mp hCwd
  exact { h with cwd := Path.trimmed_trimSlash (Path.tidy_clean hAbsolute) }

/-- An alias that is added is put behind the others. -/
theorem add_eq_ok {table table' : AliasTable} {key real : Text}
    (h : table.add key real = .ok table') : table'.entries = table.entries ++ [(key, real)] := by
  unfold AliasTable.add at h
  split at h
  · cases h
  split at h
  · cases h
  · rw [← Except.ok.inj h]

/-- An alias between trimmed paths leaves paths canonical. -/
theorem Canonical.add (h : r.Canonical) {key real : Text} {table : AliasTable}
    (hKey : Trimmed key) (hReal : Trimmed real) (hAdd : r.aliases.add key real = .ok table) :
    Canonical { r with aliases := table } := by
  have hEntries := add_eq_ok hAdd
  refine { h with key := fun entry hEntry => ?_, source := fun entry hEntry => ?_ }
  all_goals
    rw [hEntries, List.mem_append, List.mem_singleton] at hEntry
    rcases hEntry with hOld | rfl
  · exact h.key entry hOld
  · exact hKey
  · exact h.source entry hOld
  · exact hReal

/-- Registering an alias asks the host nothing; both of its paths are canonical before they go into
the table. -/
theorem Canonical.addAlias {C : Call → Prop} (h : r.Canonical) (source destination : Text) :
    (r.addAlias source destination).Every C Canonical := by
  unfold Resolver.addAlias
  by_cases hEmpty : source = [] ∨ destination = []
  · simp [hEmpty]
  cases hAbsolute : isAbsolute source with
  | false => simp [hEmpty]
  | true =>
    have hReal : Trimmed (Path.trimSlashes (clean source)) :=
      Path.trimmed_trimSlashes (Path.tidy_clean hAbsolute)
    simp only [hEmpty, Bool.not_true, Bool.false_eq_true, if_false, Attempt.every_bind, every_find]
    intro raised placed hPlaced raisedInside inside hInside
    have hKey := Path.trimmed_trimSlashes (h.tidy_of_lookup_false hPlaced)
    split
    · simp
    · simp only [Attempt.every_bind, Attempt.every_ofExcept, Attempt.every_note,
        Attempt.every_pure]
      exact fun table hTable => h.add hKey hReal hTable

/-- An alias is registered when nothing speaks against it. -/
theorem ends_addAlias {source destination : Text} {key inside : Resolved} {table : AliasTable}
    (hSource : isAbsolute source = true) (hDestination : isAbsolute destination = true)
    (hKey : r.lookup false destination false = .ok key)
    (hInside : r.lookup false (Path.trimSlashes (clean source)) false = .ok inside)
    (hApart : Path.trimSlashes key.real ≠ Path.trimSlashes inside.real)
    (hAdd : r.aliases.add (Path.trimSlashes key.real) (Path.trimSlashes (clean source)) =
      .ok table) :
    (r.addAlias source destination).run.Ends (.ok { r with aliases := table }) := by
  have hNonempty : ¬ (source = [] ∨ destination = []) := by
    rintro (rfl | rfl)
    · cases hSource
    · cases hDestination
  unfold addAlias
  rw [if_neg hNonempty, hSource, hDestination]
  refine Attempt.ends_bind (ends_find hKey) ?_
  refine Attempt.ends_bind (ends_find hInside) ?_
  rw [if_neg hApart, hAdd]
  refine Attempt.ends_bind (.done _) ?_
  exact .note (.done _)

/-- **Every path that a resolver keeps is canonical.** -/
theorem Reachable.canonical (h : r.Reachable) : r.Canonical := by
  induction h with
  | new limits => exact ⟨nofun, Path.trimmed_root, nofun, nofun⟩
  | setBase base _ hBase ih => exact ih.setBase hBase
  | clearBase _ ih => exact { ih with base := nofun }
  | setCwd cwd _ hCwd ih => exact ih.setCwd hCwd
  | resetCwd _ ih => exact { ih with cwd := Path.trimmed_root }
  | setLimits limits _ ih => exact { ih with }
  | addAlias source destination _ hEnds ih =>
    exact (ih.addAlias (C := fun _ => True) source destination).ends hEnds _ rfl
  | clearAliases _ ih => exact { ih with key := nofun, source := nofun }
  | reorder table _ hPerm ih =>
    exact { ih with
      key := fun entry hEntry => ih.key entry (hPerm.mem_iff.mp hEntry)
      source := fun entry hEntry => ih.source entry (hPerm.mem_iff.mp hEntry) }

/-- The base of a resolver that comes about is made of names. -/
theorem Reachable.baseNames (h : r.Reachable) : ∃ names, BaseNames r names :=
  exists_baseNames h.canonical.base

-- ---------------------------------------------------------------------------
-- Lookups without aliases
-- ---------------------------------------------------------------------------

/-- A lookup without aliases, for a resolver that comes about. -/
theorem lookup_false_eq_placement (hReach : r.Reachable) (path : Text) :
    r.lookup false path false = (r.placement path).map fun real => ⟨real, none⟩ := by
  obtain ⟨names, hNames⟩ := hReach.baseNames
  rw [lookup_false, confine_eq_placement hNames]

/-- No path is refused because it climbs. -/
theorem placement_ne_denied (r : Resolver) (path reason : Text) :
    r.placement path ≠ .error (.permissionDenied reason) := by
  simp only [placement, placed]
  repeat' split
  all_goals simp [Error.emptyPath]

/--
**Lookups without aliases, in closed form.** Whatever operations the resolver went through, and for
every text: the walk gives what `placement` says. It never meets a `..` that it would have to
refuse, and a path with a slash in front lands at the base or below it.
-/
theorem lookup_unaliased (hReach : r.Reachable) (path : Text) :
    r.lookup false path false = (r.placement path).map (fun real => ⟨real, none⟩) ∧
      (∀ reason, r.lookup false path false ≠ .error (.permissionDenied reason)) ∧
      ∀ resolved, isAbsolute path = true → r.lookup false path false = .ok resolved →
        r.baseRoot <+: resolved.real := by
  have hClosed := lookup_false_eq_placement hReach path
  refine ⟨hClosed, fun reason hDenied => ?_, fun resolved hPath hLookup => ?_⟩
  · rw [hClosed] at hDenied
    cases hPlacement : r.placement path with
    | error e =>
      rw [hPlacement] at hDenied
      obtain rfl := Except.error.inj hDenied
      exact placement_ne_denied r path reason hPlacement
    | ok real =>
      rw [hPlacement] at hDenied
      cases hDenied
  · obtain ⟨names, hNames⟩ := hReach.baseNames
    rw [← source_of_absolute (r := r) hPath] at hPath
    exact baseRoot_prefix_of_confine hNames hPath (confine_of_lookup_false hLookup)

/-- A resolver with a base comes about. -/
theorem reachable_store : Reachable { base := some "/store".toList } :=
  .setBase "/store/".toList (.new {}) <| setBase_eq_ok_iff.mpr
    ⟨rfl, by rw [Path.clean_eq_normal]; decide, by rw [Path.clean_eq_normal]; rfl⟩

theorem lookup_unaliased_store :
    Reachable { base := some "/store".toList } ∧
      lookup { base := some "/store".toList } false "/store/../pub".toList false =
        .ok ⟨"/store/pub".toList, none⟩ := by
  refine ⟨reachable_store, ?_⟩
  rw [(lookup_unaliased reachable_store _).1, placement, Path.clean_eq_normal]
  rfl

end PathJail.Resolver
