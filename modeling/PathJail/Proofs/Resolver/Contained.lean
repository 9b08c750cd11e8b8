import PathJail.Proofs.Resolver.Crossing

/-!
# Where a real path may lie

A path for the host lies below the base, or it went through an alias and lies at that alias's real
path or below it. Lookups stay inside, if only the path that is looked up has a slash in front; and
the virtual path of a link's target always has one.

* `Beneath`, `Contained`       — the places that a session may reach.
* `contained_of_lookup`        — the outcome of a lookup is one of them.
* `isAbsolute_of_virtualPath?` — seen as a virtual path, a real path keeps its slash in front.
-/

namespace PathJail.Resolver

open PathJail.Path (Tidy Trimmed isAbsolute clean)

variable {r : Resolver}

-- ---------------------------------------------------------------------------
-- The places
-- ---------------------------------------------------------------------------

/-- The path lies below the directory; below the root lies every absolute path. -/
def Beneath (dir path : Text) : Prop :=
  if dir = ['/'] then isAbsolute path = true else dir ++ ['/'] <+: path

/-- A path that the host may be given: tidy, and below the base, or at an alias's real path or below
it. -/
structure Contained (r : Resolver) (path : Text) : Prop where
  tidy : Tidy path
  place : (∃ base, r.base = some base ∧ Beneath base path) ∨
    ∃ entry ∈ r.aliases.entries, path = entry.2 ∨ Beneath entry.2 path

/-- A tidy path that begins with the base and a slash is the base or lies below it. -/
theorem beneath_of_baseRoot_prefix {base path : Text} (hBase : r.base = some base)
    (hTrimmed : Trimmed base) (hPath : Tidy path) (h : r.baseRoot <+: path) :
    Beneath base path := by
  rw [Beneath]
  split
  · exact hPath.absolute
  · rename_i hRoot
    rwa [baseRoot, baseText_eq hBase, if_neg (hTrimmed.no_slash.resolve_left hRoot)] at h

/-- What is appended behind a slash lies below. -/
theorem beneath_append {dir tail : Text} : Beneath dir (dir ++ '/' :: tail) := by
  rw [Beneath]
  split
  · rename_i hRoot
    rw [hRoot]
    rfl
  · exact ⟨tail, by simp⟩

/-- What an alias leads to is tidy, and lies at its real path or below it. -/
theorem through_contained {key source rest : Text} (hSource : Trimmed source)
    (hPath : Tidy (key ++ rest)) (hRest : rest = [] ∨ isAbsolute rest = true) :
    Tidy (through source rest) ∧
      (through source rest = source ∨ Beneath source (through source rest)) := by
  rcases hRest with rfl | hRest
  · have hHere : through source [] = source := by simp [through, isAbsolute]
    rw [hHere]
    exact ⟨hSource.tidy, Or.inl rfl⟩
  obtain ⟨tail, rfl⟩ := Path.isAbsolute_iff.mp hRest
  have hTail : Tidy ('/' :: tail) := Path.tidy_of_append hPath
  obtain ⟨names, hNames, rfl⟩ := Path.trimmed_iff.mp hSource
  by_cases hRoot : names = []
  · -- the root of the host: its slash is the one that `rest` begins with
    subst hRoot
    exact ⟨hTail, Or.inr rfl⟩
  · have hPlain : through (Path.trimmedPath names) ('/' :: tail) =
        Path.rooted names ++ '/' :: tail := by
      rw [through, Path.trimmedPath, if_neg hRoot, if_neg fun h => Path.getLast?_rooted hNames h.1]
    rw [hPlain, Path.trimmedPath, if_neg hRoot]
    exact ⟨Path.tidy_rooted_append hNames hTail, Or.inr beneath_append⟩

-- ---------------------------------------------------------------------------
-- Lookups
-- ---------------------------------------------------------------------------

/-- What is left of a path behind one at or above it is nothing, or absolute. -/
theorem rest_of_atOrAbove {key rest : Text} (h : AtOrAbove key (key ++ rest)) :
    rest = [] ∨ isAbsolute rest = true := by
  rcases h with hHere | ⟨-, hAbove⟩
  · exact Or.inl (List.self_eq_append_right.mp hHere)
  · right
    obtain ⟨tail, hTail⟩ := (List.prefix_append_right_inj key).mp hAbove
    rw [← hTail]
    rfl

/-- **Lookups stay inside**, of every path with a slash in front, whether aliases are followed or
not. -/
theorem contained_of_lookup (h : r.Canonical) (hBase : r.base.isSome) {raised follow : Bool}
    {path : Text} (hPath : isAbsolute (r.source path) = true) {resolved : Resolved}
    (hLookup : r.lookup raised path follow = .ok resolved) : r.Contained resolved.real := by
  obtain ⟨names, hNames⟩ := h.baseNames
  obtain ⟨base, hBase⟩ := Option.isSome_iff_exists.mp hBase
  have hInside : ∀ placed, r.confine raised path = .ok placed → r.Contained placed := by
    intro placed hPlaced
    have hTidy := tidy_of_confine hNames hPlaced
    have hPrefix := baseRoot_prefix_of_confine hNames hPath hPlaced
    exact ⟨hTidy, Or.inl ⟨base, hBase,
      beneath_of_baseRoot_prefix hBase (h.base base hBase) hTidy hPrefix⟩⟩
  cases follow with
  | false => exact hInside _ (confine_of_lookup_false hLookup)
  | true =>
    cases hPlaced : r.confine raised path with
    | error e =>
      rw [lookup, hPlaced] at hLookup
      cases hLookup
    | ok placed =>
      rw [lookup_true_of_confine hPlaced] at hLookup
      cases hCrossing : r.crossing? placed with
      | none =>
        rw [hCrossing] at hLookup
        rw [← Except.ok.inj hLookup]
        exact hInside placed hPlaced
      | some real =>
        have hTidy := tidy_of_confine hNames hPlaced
        obtain ⟨key, source, rest, hNearest, rfl⟩ := crossing?_eq_some h hTidy hCrossing
        have hEntry := mem_of_get? hNearest.entry
        have hAbove := hNearest.above
        rw [hNearest.split] at hTidy hAbove
        obtain ⟨hThrough, hPlace⟩ :=
          through_contained (h.source _ hEntry) hTidy (rest_of_atOrAbove hAbove)
        rw [hCrossing] at hLookup
        simp only at hLookup
        split at hLookup
        · cases hLookup
        · rw [← Except.ok.inj hLookup]
          exact ⟨hThrough, Or.inr ⟨(key, source), hEntry, hPlace⟩⟩

-- ---------------------------------------------------------------------------
-- Real paths seen as virtual ones
-- ---------------------------------------------------------------------------

/-- An absolute path is absolute as seen from the base. -/
theorem isAbsolute_stripBase {path : Text} (h : isAbsolute path = true) :
    isAbsolute (r.stripBase path) = true := by
  unfold stripBase
  split
  · split
    · rfl
    · rename_i rest hNotNil hBelow
      exact (Path.isAbsolute_of_below? hBelow).resolve_left hNotNil
    · exact h
  · exact h

/-- A fold that at each entry keeps what it has or takes the entry ends with one of the entries. -/
theorem mem_of_foldl_eq_some {α β : Type} {step : Option (α × β) → α → Option (α × β)}
    (hStep : ∀ best a, step best a = best ∨ ∃ b, step best a = some (a, b)) {as : List α}
    {found : α × β} : ∀ {best : Option (α × β)}, as.foldl step best = some found →
      best = some found ∨ found.1 ∈ as := by
  induction as with
  | nil => exact fun h => Or.inl h
  | cons a as ih =>
    intro best h
    rcases ih h with hBest | hLater
    · rcases hStep best a with hKept | ⟨b, hTaken⟩
      · exact Or.inl (hKept.symm.trans hBest)
      · obtain rfl := Option.some.inj (hTaken.symm.trans hBest)
        exact Or.inr List.mem_cons_self
    · exact Or.inr (List.mem_cons_of_mem a hLater)

/-- The alias that a real path is found through is one of the table. -/
theorem mem_of_nearest? {real : Text} {entries : List AliasEntry} {found : AliasEntry × Text}
    (h : virtualPath?.nearest? real entries = some found) : found.1 ∈ entries := by
  unfold virtualPath?.nearest? at h
  refine (mem_of_foldl_eq_some (fun best entry => ?_) h).resolve_left nofun
  split
  · exact Or.inl rfl
  · exact Or.inr ⟨_, rfl⟩
  · split
    · exact Or.inr ⟨_, rfl⟩
    · exact Or.inl rfl

/-- What a real path becomes through an alias is absolute. -/
theorem isAbsolute_of_virtualPath? (h : r.Canonical) {real virtual : Text}
    (hVirtual : r.virtualPath? real = some virtual) : isAbsolute virtual = true := by
  obtain ⟨found, hFound, rfl⟩ := Option.map_eq_some_iff.mp hVirtual
  have hKey := h.key _ (mem_of_nearest? hFound)
  obtain ⟨tail, hTail⟩ := Path.isAbsolute_iff.mp (isAbsolute_stripBase (r := r) hKey.tidy.absolute)
  rw [hTail]
  rfl

end PathJail.Resolver
