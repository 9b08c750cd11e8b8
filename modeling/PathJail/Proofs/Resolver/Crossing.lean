import PathJail.Proofs.Resolver.Reachable

/-!
# The nearest alias

A lookup cuts the placed path before its slashes, from the end on, and takes the first cut that the
table knows. Seen from the table: of all aliases at the path or above it the one with the longest
virtual path takes over, whatever else the table holds. The root is above nothing but itself.

* `AtOrAbove`, `NearestAlias` — the position of an alias, and the alias that takes over.
* `through`                   — the path through an alias.
* `crossing?_eq_none_iff`, `crossing?_eq_some` — the search finds the nearest alias.
* `lookup_nearest_alias`      — what a lookup makes of it.
-/

namespace PathJail.Resolver

open PathJail.Path (Tidy Trimmed isAbsolute clean)

variable {r : Resolver}

-- ---------------------------------------------------------------------------
-- The aliases of a path
-- ---------------------------------------------------------------------------

/-- The virtual path is the path itself or a directory above it, the root excepted. -/
def AtOrAbove (key path : Text) : Prop := key = path ∨ key ≠ ['/'] ∧ key ++ ['/'] <+: path

/-- Of the aliases at `path` or above it, `key` is the one with the longest virtual path. It stands
for `source`, and `rest` is what `path` has behind it. -/
structure NearestAlias (table : AliasTable) (path key source rest : Text) : Prop where
  entry : table.get? key = some source
  split : path = key ++ rest
  above : AtOrAbove key path
  longest : ∀ other ∈ table.keys, AtOrAbove other path → Text.byteLength other ≤ Text.byteLength key

/-- The path through an alias: of two slashes between `source` and `rest` only one stays. -/
def through (source rest : Text) : Text :=
  (if source.getLast? = some '/' ∧ isAbsolute rest then source.dropLast else source) ++ rest

/-- How a source and what lies behind it are joined: both ways come to the same. -/
theorem joinReal_eq_through (source rest : Text) : joinReal source rest = through source rest := by
  rw [joinReal, through]
  cases hFront : Text.before? ['/'] source with
  | none =>
    have hLast : source.getLast? ≠ some '/' := by
      intro hLast
      obtain ⟨front, rfl⟩ := List.getLast?_eq_some_iff.mp hLast
      rw [Text.before?_eq_some_iff.mpr rfl] at hFront
      cases hFront
    rw [if_neg fun h => hLast h.1]
  | some front =>
    obtain rfl := Text.before?_eq_some_iff.mp hFront
    simp only [List.getLast?_concat, true_and, List.dropLast_concat]
    split <;> rfl

theorem mem_of_get? {table : AliasTable} {key source : Text} (h : table.get? key = some source) :
    (key, source) ∈ table.entries := by
  obtain ⟨before, after, hEntries, -⟩ := List.lookup_eq_some_iff.mp h
  rw [hEntries]
  exact List.mem_append_right _ List.mem_cons_self

/-- A text that does not get longer has nothing appended. -/
theorem eq_nil_of_byteLength_append {t more : Text}
    (h : Text.byteLength (t ++ more) = Text.byteLength t) : more = [] := by
  have hLength := Text.length_le_byteLength more
  rw [Text.byteLength_append] at h
  exact List.eq_nil_of_length_eq_zero (by omega)

/-- There is at most one nearest alias: all aliases at a path or above it begin that path, so two of
one length are the same. -/
theorem NearestAlias.unique {table : AliasTable} {path key source rest key' source' rest' : Text}
    (h : NearestAlias table path key source rest)
    (h' : NearestAlias table path key' source' rest') :
    key = key' ∧ source = source' ∧ rest = rest' := by
  have hKey : key ∈ table.keys := List.mem_map_of_mem (mem_of_get? h.entry)
  have hKey' : key' ∈ table.keys := List.mem_map_of_mem (mem_of_get? h'.entry)
  have hLength : Text.byteLength key = Text.byteLength key' :=
    Nat.le_antisymm (h'.longest key hKey h.above) (h.longest key' hKey' h'.above)
  have hSplit : key ++ rest = key' ++ rest' := h.split.symm.trans h'.split
  obtain rfl : key = key' := by
    rcases List.append_eq_append_iff.mp hSplit with ⟨more, rfl, -⟩ | ⟨more, rfl, -⟩
    · rw [eq_nil_of_byteLength_append hLength.symm, List.append_nil]
    · rw [eq_nil_of_byteLength_append hLength, List.append_nil]
  exact ⟨rfl, Option.some.inj (h.entry.symm.trans h'.entry), List.append_cancel_left hSplit⟩

/-- Every key of the table leads somewhere. -/
theorem exists_get?_of_mem_keys {table : AliasTable} {key : Text} (h : key ∈ table.keys) :
    ∃ source, table.get? key = some source := by
  cases hSource : table.get? key with
  | none => exact absurd h (AliasTable.get?_eq_none_iff.mp hSource)
  | some source => exact ⟨source, rfl⟩

-- ---------------------------------------------------------------------------
-- The cuts of a path
-- ---------------------------------------------------------------------------

/-- The cuts of a path are its beginnings in front of a slash. -/
theorem mem_cuts {path key rest : Text} :
    (key, rest) ∈ cuts path ↔ path = key ++ rest ∧ isAbsolute rest = true := by
  induction path generalizing key with
  | nil =>
    rw [cuts]
    constructor
    · exact fun h => absurd h List.not_mem_nil
    · rintro ⟨hSplit, hRest⟩
      obtain ⟨-, rfl⟩ := List.append_eq_nil_iff.mp hSplit.symm
      cases hRest
  | cons c cs ih =>
    rw [cuts, List.mem_append, List.mem_map]
    cases key with
    | nil =>
      constructor
      · rintro (⟨cut, -, hCut⟩ | hHere)
        · cases hCut
        · split at hHere
          · rename_i hSlash
            simp only [List.mem_singleton, Prod.mk.injEq, true_and] at hHere
            rw [hHere, hSlash]
            exact ⟨rfl, rfl⟩
          · exact absurd hHere List.not_mem_nil
      · rintro ⟨rfl, hRest⟩
        have hSlash : c = '/' := by simpa [isAbsolute] using hRest
        right
        rw [if_pos hSlash]
        exact List.mem_singleton.mpr rfl
    | cons d key =>
      constructor
      · rintro (⟨⟨key', rest'⟩, hCut, hEq⟩ | hHere)
        · cases hEq
          obtain ⟨rfl, hRest⟩ := ih.mp hCut
          exact ⟨rfl, hRest⟩
        · split at hHere <;> simp at hHere
      · rintro ⟨hSplit, hRest⟩
        obtain ⟨rfl, hTail⟩ := List.cons.inj hSplit
        exact Or.inl ⟨(key, rest), ih.mpr ⟨hTail, hRest⟩, rfl⟩

/-- The cuts come by descending length. -/
theorem pairwise_cuts (path : Text) :
    (cuts path).Pairwise fun a b => b.1.length < a.1.length := by
  induction path with
  | nil => exact .nil
  | cons c cs ih =>
    rw [cuts, List.pairwise_append]
    refine ⟨?_, ?_, ?_⟩
    · rw [List.pairwise_map]
      exact ih.imp fun h => Nat.succ_lt_succ h
    · split
      · exact List.pairwise_singleton _ _
      · exact .nil
    · intro a ha b hb
      obtain ⟨cut, -, rfl⟩ := List.mem_map.mp ha
      split at hb
      · obtain rfl := List.mem_singleton.mp hb
        exact Nat.succ_pos _
      · exact absurd hb List.not_mem_nil

/-- Where an alias is looked for: the path itself, and its beginnings in front of a slash that are
some text. -/
theorem mem_ancestors {path key rest : Text} : (key, rest) ∈ ancestors path ↔
    path = key ++ rest ∧ (rest = [] ∨ key ≠ [] ∧ isAbsolute rest = true) := by
  rw [ancestors, List.mem_cons, List.mem_filter, mem_cuts, Prod.mk.injEq, decide_eq_true_eq]
  constructor
  · rintro (⟨rfl, rfl⟩ | ⟨⟨hSplit, hRest⟩, hKey⟩)
    · exact ⟨(List.append_nil _).symm, Or.inl rfl⟩
    · exact ⟨hSplit, Or.inr ⟨hKey, hRest⟩⟩
  · rintro ⟨hSplit, rfl | ⟨hKey, hRest⟩⟩
    · exact Or.inl ⟨by rw [hSplit, List.append_nil], rfl⟩
    · exact Or.inr ⟨⟨hSplit, hRest⟩, hKey⟩

/-- The longest is looked for first. -/
theorem pairwise_ancestors (path : Text) :
    (ancestors path).Pairwise fun a b => b.1.length < a.1.length := by
  rw [ancestors, List.pairwise_cons]
  refine ⟨?_, (pairwise_cuts path).filter _⟩
  rintro ⟨key, rest⟩ hCut
  obtain ⟨hSplit, hRest⟩ := mem_cuts.mp (List.mem_filter.mp hCut).1
  obtain ⟨tail, rfl⟩ := Path.isAbsolute_iff.mp hRest
  simp only [hSplit, List.length_append, List.length_cons]
  omega

/-- A tidy path has no two slashes in a row, so the root is cut from itself only. -/
theorem atOrAbove_of_mem_ancestors {path key rest : Text} (hPath : Tidy path)
    (h : (key, rest) ∈ ancestors path) : AtOrAbove key path := by
  obtain ⟨hSplit, rfl | ⟨hKey, hRest⟩⟩ := mem_ancestors.mp h
  · exact Or.inl (by rw [hSplit, List.append_nil])
  · right
    obtain ⟨tail, rfl⟩ := Path.isAbsolute_iff.mp hRest
    subst hSplit
    refine ⟨?_, tail, by simp⟩
    rintro rfl
    exact absurd (Path.tidy_slash_cons hPath).1 (by simp [isAbsolute])

/-- Whatever lies at the path or above it is looked for. -/
theorem exists_mem_ancestors {path key : Text} (hKey : key ≠ []) (h : AtOrAbove key path) :
    ∃ rest, (key, rest) ∈ ancestors path := by
  rcases h with rfl | ⟨-, tail, rfl⟩
  · exact ⟨[], mem_ancestors.mpr ⟨(List.append_nil _).symm, Or.inl rfl⟩⟩
  · refine ⟨'/' :: tail, mem_ancestors.mpr ⟨?_, Or.inr ⟨hKey, rfl⟩⟩⟩
    rw [List.append_assoc]
    rfl

-- ---------------------------------------------------------------------------
-- The search
-- ---------------------------------------------------------------------------

/-- No alias is kept under the empty path. -/
theorem Canonical.key_ne_nil (h : r.Canonical) {key : Text} (hKey : key ∈ r.aliases.keys) :
    key ≠ [] := by
  obtain ⟨entry, hEntry, rfl⟩ := List.mem_map.mp hKey
  obtain ⟨rest, hRest⟩ := (h.key entry hEntry).tidy.eq_slash_cons
  rw [hRest]
  exact List.cons_ne_nil _ _

/-- Nothing is crossed if and only if there is no alias at the path or above it. -/
theorem crossing?_eq_none_iff (h : r.Canonical) {path : Text} (hPath : Tidy path) :
    r.crossing? path = none ↔ ∀ key ∈ r.aliases.keys, ¬ AtOrAbove key path := by
  simp only [crossing?, List.findSome?_eq_none_iff, Option.map_eq_none_iff,
    AliasTable.get?_eq_none_iff]
  constructor
  · intro hNone key hKey hAbove
    obtain ⟨rest, hCut⟩ := exists_mem_ancestors (h.key_ne_nil hKey) hAbove
    exact hNone _ hCut hKey
  · rintro hNone ⟨key, rest⟩ hCut hKey
    exact hNone key hKey (atOrAbove_of_mem_ancestors hPath hCut)

/-- Of two paths above one, the shorter one has fewer bytes too. -/
theorem byteLength_le_of_atOrAbove {path key rest other rest' : Text} (hKey : path = key ++ rest)
    (hOther : path = other ++ rest') (hLength : other.length ≤ key.length) :
    Text.byteLength other ≤ Text.byteLength key := by
  have hPrefix : other <+: key :=
    List.prefix_of_prefix_length_le ⟨rest', hOther.symm⟩ ⟨rest, hKey.symm⟩ hLength
  obtain ⟨more, rfl⟩ := hPrefix
  rw [Text.byteLength_append]
  omega

/-- **The search finds the nearest alias.** The cuts come by descending length, and every alias at
the path or above it is among them. -/
theorem crossing?_eq_some (h : r.Canonical) {path real : Text} (hPath : Tidy path)
    (hReal : r.crossing? path = some real) : ∃ key source rest,
      NearestAlias r.aliases path key source rest ∧ real = through source rest := by
  obtain ⟨before, ⟨key, rest⟩, after, hCuts, hFound, hMissed⟩ := List.findSome?_eq_some_iff.mp hReal
  obtain ⟨source, hSource, rfl⟩ := Option.map_eq_some_iff.mp hFound
  have hCut : (key, rest) ∈ ancestors path := by
    rw [hCuts]
    exact List.mem_append_right _ List.mem_cons_self
  have hSplit := (mem_ancestors.mp hCut).1
  refine ⟨key, source, rest,
    ⟨hSource, hSplit, atOrAbove_of_mem_ancestors hPath hCut, fun other hOther hAbove => ?_⟩,
    joinReal_eq_through source rest⟩
  obtain ⟨rest', hCut'⟩ := exists_mem_ancestors (h.key_ne_nil hOther) hAbove
  refine byteLength_le_of_atOrAbove hSplit (mem_ancestors.mp hCut').1 ?_
  -- the other alias is this one or comes later; an earlier one would have been found
  rw [hCuts, List.mem_append, List.mem_cons] at hCut'
  rcases hCut' with hEarlier | hHere | hLater
  · obtain ⟨source', hSource'⟩ := exists_get?_of_mem_keys hOther
    have hNone := hMissed _ hEarlier
    rw [hSource'] at hNone
    cases hNone
  · cases hHere
    exact Nat.le_refl _
  · have hSorted := pairwise_ancestors path
    rw [hCuts, List.pairwise_append, List.pairwise_cons] at hSorted
    exact Nat.le_of_lt (hSorted.2.1.1 _ hLater)

-- ---------------------------------------------------------------------------
-- Lookups that follow aliases
-- ---------------------------------------------------------------------------

/-- Without aliases nothing is crossed. -/
theorem crossing?_of_isEmpty (h : r.aliases.isEmpty = true) (path : Text) :
    r.crossing? path = none := by
  have hNone : ∀ key, r.aliases.get? key = none := fun key => by
    rw [AliasTable.get?, List.isEmpty_iff.mp h]
    rfl
  simp [crossing?, hNone]

/-- A lookup that follows aliases, behind the placing of the path. -/
theorem lookup_true_of_confine {raised : Bool} {path placed : Text}
    (h : r.confine raised path = .ok placed) : r.lookup raised path true =
      match r.crossing? placed with
      | none => .ok ⟨placed, none⟩
      | some real =>
        if r.limits.maxPathLength ≤ Text.byteLength real then
          .error (.nameTooLong (Text.byteLength real) r.limits.maxPathLength)
        else .ok ⟨real, some placed⟩ := by
  rw [lookup, h]
  simp only [bind, Except.bind, if_true]
  cases r.crossing? placed with
  | none => rfl
  | some real =>
    simp only [Limits.check]
    by_cases hLong : r.limits.maxPathLength ≤ Text.byteLength real
    · rw [if_pos hLong, if_pos hLong]
    · rw [if_neg hLong, if_neg hLong]
      rfl

/-- A search depends on what is found in the list only. -/
theorem findSome?_congr {α β : Type} {f g : α → Option β} {l : List α} (h : ∀ a ∈ l, f a = g a) :
    l.findSome? f = l.findSome? g := by
  induction l with
  | nil => rfl
  | cons a l ih =>
    rw [List.findSome?_cons, List.findSome?_cons, h a List.mem_cons_self,
      ih fun b hb => h b (List.mem_cons_of_mem a hb)]

/-- The search asks the table for paths at or above its own only. -/
theorem crossing?_congr {path : Text} (hPath : Tidy path) {table : AliasTable}
    (hTable : ∀ key, AtOrAbove key path → table.get? key = r.aliases.get? key) :
    crossing? { r with aliases := table } path = r.crossing? path := by
  rw [crossing?, crossing?]
  refine findSome?_congr ?_
  rintro ⟨key, rest⟩ hCut
  rw [hTable key (atOrAbove_of_mem_ancestors hPath hCut)]

/-- The walk pays no heed to aliases. -/
theorem confine_with_aliases (h : r.Canonical) (table : AliasTable) (path : Text) :
    confine { r with aliases := table } false path = r.confine false path := by
  obtain ⟨names, hNames⟩ := h.baseNames
  have hNames' : BaseNames { r with aliases := table } names := { hNames with }
  rw [confine_eq_placement hNames, confine_eq_placement hNames']
  rfl

/--
**The nearest alias takes over, once.** Where no alias is at the placed path or above it, the placed
path stays. Otherwise the nearest one replaces the front of the path, and the outcome is an error if
it is too long. It is not looked up again: only the aliases at the placed path or above it matter,
whatever a table says about other paths.
-/
theorem lookup_nearest_alias (hReach : r.Reachable) {path placed : Text}
    (hPlaced : r.lookup false path false = .ok ⟨placed, none⟩) :
    ((∀ key ∈ r.aliases.keys, ¬ AtOrAbove key placed) ∧
          r.lookup false path true = .ok ⟨placed, none⟩ ∨
        ∃ key source rest, NearestAlias r.aliases placed key source rest ∧
          r.lookup false path true =
            if r.limits.maxPathLength ≤ Text.byteLength (through source rest) then
              .error (.nameTooLong (Text.byteLength (through source rest)) r.limits.maxPathLength)
            else .ok ⟨through source rest, some placed⟩) ∧
      ∀ table : AliasTable,
        (∀ key, AtOrAbove key placed → table.get? key = r.aliases.get? key) →
          lookup { r with aliases := table } false path true = r.lookup false path true := by
  have hCanonical := hReach.canonical
  have hConfine : r.confine false path = .ok placed := confine_of_lookup_false hPlaced
  have hTidy : Tidy placed := hCanonical.tidy_of_lookup_false hPlaced
  constructor
  · cases hCrossing : r.crossing? placed with
    | none =>
      left
      refine ⟨(crossing?_eq_none_iff hCanonical hTidy).mp hCrossing, ?_⟩
      rw [lookup_true_of_confine hConfine, hCrossing]
    | some real =>
      right
      obtain ⟨key, source, rest, hNearest, rfl⟩ := crossing?_eq_some hCanonical hTidy hCrossing
      refine ⟨key, source, rest, hNearest, ?_⟩
      rw [lookup_true_of_confine hConfine, hCrossing]
  · intro table hTable
    have hConfine' := (confine_with_aliases hCanonical table path).trans hConfine
    rw [lookup_true_of_confine hConfine, lookup_true_of_confine hConfine',
      crossing?_congr hTidy hTable]

/-- The base `/store` with an alias of `/var/pub` at `/pub`. -/
def pubStore : Resolver where
  base := some "/store".toList
  aliases := { entries := [("/store/pub".toList, "/var/pub".toList)] }

theorem ends_addAlias_pubStore :
    (addAlias { base := some "/store".toList } "/var//pub/".toList "/pub".toList).run.Ends
      (.ok pubStore) := by
  have hKey : lookup { base := some "/store".toList } false "/pub".toList false =
      .ok ⟨"/store/pub".toList, none⟩ := by
    rw [lookup_false_eq_placement reachable_store, placement, Path.clean_eq_normal]
    rfl
  have hSource : Path.trimSlashes (clean "/var//pub/".toList) = "/var/pub".toList := by
    rw [Path.clean_eq_normal]
    rfl
  have hInside : lookup { base := some "/store".toList } false
      (Path.trimSlashes (clean "/var//pub/".toList)) false =
        .ok ⟨"/store/var/pub".toList, none⟩ := by
    rw [hSource, lookup_false_eq_placement reachable_store, placement, Path.clean_eq_normal]
    rfl
  exact ends_addAlias rfl rfl hKey hInside (by decide) (by rw [hSource]; rfl)

theorem reachable_pubStore : pubStore.Reachable :=
  .addAlias "/var//pub/".toList "/pub".toList reachable_store ends_addAlias_pubStore

/-- A file below the alias, looked up with and without aliases. -/
theorem lookup_nearest_alias_pub :
    pubStore.Reachable ∧
      pubStore.lookup false "/pub/a".toList false = .ok ⟨"/store/pub/a".toList, none⟩ ∧
      pubStore.lookup false "/pub/a".toList true =
        .ok ⟨"/var/pub/a".toList, some "/store/pub/a".toList⟩ := by
  have hPlaced :
      pubStore.lookup false "/pub/a".toList false = .ok ⟨"/store/pub/a".toList, none⟩ := by
    rw [lookup_false_eq_placement reachable_pubStore, placement, Path.clean_eq_normal]
    rfl
  refine ⟨reachable_pubStore, hPlaced, ?_⟩
  have hAbove : AtOrAbove "/store/pub".toList "/store/pub/a".toList :=
    Or.inr ⟨by decide, "a".toList, rfl⟩
  obtain ⟨key, source, rest, hNearest, hLookup⟩ :=
    (lookup_nearest_alias reachable_pubStore hPlaced).1.resolve_left
      fun hNone => hNone.1 _ (by decide) hAbove
  obtain ⟨rfl, rfl⟩ := Prod.mk.inj (List.mem_singleton.mp (mem_of_get? hNearest.entry))
  have hSplit : "/store/pub".toList ++ "/a".toList = "/store/pub".toList ++ rest := hNearest.split
  obtain rfl := List.append_cancel_left hSplit
  exact hLookup

end PathJail.Resolver
