import PathJail.Proofs.Path.Composition
import PathJail.Proofs.Resolver.Crossing

/-!
# Entries of a directory, by their names

A path in canonical form is a list of names, and so is the base. A directory lies above a path when
its names begin those of the path; a lookup takes the names of the base off those of the path, when
more are left, and puts the base in front of the others. An entry has one more name than its
directory, so it is placed where its directory is, but for one directory: the one that has exactly
the names of the base is not shortened, while its entries are.

* `entryPath`             — the path of an entry.
* `atOrAbove_iff_names`   — a directory at a path or above it.
* `confine_trimmed_iff`   — where a trimmed path is placed, and when it is short enough.
* `namesBelow`            — what a lookup leaves of the names of a path.
* `trimSlashes_of_confine`, `confine_entry` — where a path is placed, and where its entries are.
-/

namespace PathJail

open PathJail.Path (IsName Trimmed bare isAbsolute rooted segments trimSlashes trimmedPath)

namespace Path

/-- The path of the entry with this name in a directory. -/
def entryPath (dir name : Text) : Text := bare dir ++ '/' :: name

/-- The path of some names, without slashes at its end. -/
theorem bare_trimmedPath {names : List Text} (hNames : ∀ n ∈ names, IsName n) :
    bare (trimmedPath names) = rooted names := by
  rw [trimmedPath]
  split
  · rename_i hEmpty
    rw [hEmpty]
    rfl
  · exact bare_rooted hNames

/-- An entry of the directory with these names has one name more. -/
theorem entryPath_trimmedPath {names : List Text} (hNames : ∀ n ∈ names, IsName n) (name : Text) :
    entryPath (trimmedPath names) name = rooted (names ++ [name]) := by
  rw [entryPath, bare_trimmedPath hNames, rooted_concat]

/-- A path lies strictly below a directory when it has its names and more. -/
theorem rooted_slash_isPrefix_iff {dir names : List Text} (hDir : ∀ n ∈ dir, IsName n)
    (hNames : ∀ n ∈ names, IsName n) (hSome : dir ≠ []) :
    rooted dir ++ ['/'] <+: trimmedPath names ↔ dir <+: names ∧ names ≠ dir := by
  have hLength := one_lt_length_rooted hDir hSome
  constructor
  · rintro ⟨tail, hTail⟩
    have hOther : names ≠ [] := by
      rintro rfl
      have hShort := congrArg List.length hTail
      simp only [trimmedPath, if_true, List.length_append, List.length_cons,
        List.length_nil] at hShort
      omega
    rw [trimmedPath, if_neg hOther, List.append_assoc, List.singleton_append] at hTail
    have hSegments := congrArg segments hTail
    rw [segments_rooted hNames, segments_append_slash, segments_rooted hDir,
      List.cons_append] at hSegments
    refine ⟨⟨segments tail, List.tail_eq_of_cons_eq hSegments⟩, ?_⟩
    rintro rfl
    have hShort := congrArg List.length hTail
    simp only [List.length_append, List.length_cons] at hShort
    omega
  · rintro ⟨⟨more, rfl⟩, hMore⟩
    have hRest : more ≠ [] := by
      rintro rfl
      exact hMore (List.append_nil dir)
    rw [trimmedPath, if_neg (by simp [hSome]), rooted_append, rooted_eq_slash_joined hRest]
    exact ⟨joined more, by simp⟩

end Path

namespace Resolver

variable {r : Resolver} {base names : List Text}

/-- A directory at a path or above it has the first names of the path. -/
theorem atOrAbove_iff_names {dir : List Text} (hDir : ∀ n ∈ dir, IsName n)
    (hNames : ∀ n ∈ names, IsName n) (hSome : dir ≠ []) :
    AtOrAbove (rooted dir) (trimmedPath names) ↔ dir <+: names := by
  have hPath : rooted dir = trimmedPath dir := by rw [trimmedPath, if_neg hSome]
  have hRoot : rooted dir ≠ ['/'] := by
    intro hRoot
    have hLength := Path.one_lt_length_rooted hDir hSome
    rw [hRoot] at hLength
    exact absurd hLength (by decide)
  rw [AtOrAbove, and_iff_right hRoot, Path.rooted_slash_isPrefix_iff hDir hNames hSome, hPath]
  constructor
  · rintro (hSame | ⟨hPrefix, -⟩)
    · obtain rfl := Path.trimmedPath_injective hDir hNames hSame
      exact List.prefix_refl dir
    · exact hPrefix
  · intro hPrefix
    by_cases hSame : names = dir
    · exact Or.inl (by rw [hSame])
    · exact Or.inr ⟨hPrefix, hSame⟩

-- ---------------------------------------------------------------------------
-- Trimmed paths
-- ---------------------------------------------------------------------------

/-- What is left of a trimmed path without the base is trimmed. -/
theorem trimmed_withoutBase (h : BaseNames r names) {q : Text} (hq : Trimmed q) :
    Trimmed (r.withoutBase q) := by
  rw [withoutBase_eq h]
  split
  · rename_i hBelow
    obtain ⟨-, tail, rfl⟩ := hBelow
    rw [List.append_assoc] at hq ⊢
    rw [List.drop_left]
    exact Path.trimmed_of_append hq
  · exact hq

/-- A trimmed path is placed below the base, if neither it nor the outcome is too long. -/
theorem confine_trimmed_iff (h : BaseNames r names) {path placed : Text}
    (hSource : Trimmed (r.source path)) :
    r.confine false path = .ok placed ↔
      Text.byteLength (r.source path) < r.limits.maxPathLength ∧
      (r.withoutBase (r.source path) = ['/'] ∨
        Text.byteLength r.baseRoot + Text.byteLength (r.withoutBase (r.source path)) <
          r.limits.maxPathLength) ∧
      placed = r.baseRoot ++ (r.withoutBase (r.source path)).tail := by
  have hPath : path ≠ [] := by
    rintro rfl
    cases hSource.tidy.absolute
  rw [confine_eq_placement h, placement, if_neg hPath, Path.clean_of_tidy hSource.tidy,
    placed_tidy h hSource.tidy]
  generalize r.source path = q
  by_cases hLong : r.limits.maxPathLength ≤ Text.byteLength q
  · rw [if_pos hLong]
    exact ⟨fun h => (by cases h), fun h => absurd h.1 (Nat.not_lt.mpr hLong)⟩
  rw [if_neg hLong]
  have hShort : Text.byteLength q < r.limits.maxPathLength := Nat.lt_of_not_le hLong
  by_cases hRoot : r.withoutBase q = ['/']
  · simp only [hRoot, if_true, List.tail_cons, List.append_nil]
    exact ⟨fun h => ⟨hShort, Or.inl trivial, (Except.ok.inj h).symm⟩, fun h => by rw [h.2.2]⟩
  · simp only [if_neg hRoot]
    split
    · rename_i hFar
      exact ⟨fun h => (by cases h),
        fun h => absurd (h.2.1.resolve_left hRoot) (Nat.not_lt.mpr hFar)⟩
    · rename_i hNear
      exact ⟨fun h => ⟨hShort, Or.inr (Nat.lt_of_not_le hNear), (Except.ok.inj h).symm⟩,
        fun h => by rw [h.2.2]⟩

-- ---------------------------------------------------------------------------
-- The names of the base
-- ---------------------------------------------------------------------------

/-- What a lookup leaves of the names of a path: the base is taken off, when more is left then. -/
def namesBelow (base names : List Text) : List Text :=
  if base <+: names ∧ names ≠ base then names.drop base.length else names

/-- What is left of names without those of the base are names. -/
theorem isName_namesBelow (base : List Text) (hNames : ∀ n ∈ names, IsName n) :
    ∀ n ∈ namesBelow base names, IsName n := by
  rw [namesBelow]
  split
  · exact fun n hn => hNames n (List.mem_of_mem_drop hn)
  · exact hNames

/-- Taking the base off a path is to take its names off. -/
theorem withoutBase_trimmedPath (h : BaseNames r base) (hNames : ∀ n ∈ names, IsName n) :
    r.withoutBase (trimmedPath names) = trimmedPath (namesBelow base names) := by
  rw [withoutBase_eq h, namesBelow]
  by_cases hBase : base = []
  · subst hBase
    rw [if_neg fun hNarrow => h.bytes.mp hNarrow.1 rfl, List.length_nil, List.drop_zero, ite_self]
  · have hText := h.text hBase
    have hIff : (1 < Text.byteLength r.baseText ∧ r.baseText ++ ['/'] <+: trimmedPath names) ↔
        base <+: names ∧ names ≠ base := by
      rw [and_iff_right (h.bytes.mpr hBase), hText]
      exact Path.rooted_slash_isPrefix_iff h.isName hNames hBase
    by_cases hBelow : base <+: names ∧ names ≠ base
    · rw [if_pos (hIff.mpr hBelow), if_pos hBelow, hText]
      obtain ⟨⟨more, rfl⟩, hMore⟩ := hBelow
      have hRest : more ≠ [] := by
        rintro rfl
        exact hMore (List.append_nil base)
      rw [trimmedPath, if_neg (by simp [hBase]), Path.rooted_append, List.drop_left,
        List.drop_left, trimmedPath, if_neg hRest]
    · rw [if_neg fun hCut => hBelow (hIff.mp hCut), if_neg hBelow]

/-- An entry is shortened as its directory is, unless the directory has the names of the base. -/
theorem namesBelow_concat {name : Text} (hOther : names = base → base = []) :
    namesBelow base (names ++ [name]) = namesBelow base names ++ [name] := by
  rw [namesBelow, namesBelow]
  by_cases hBelow : base <+: names ∧ names ≠ base
  · have hEntry : base <+: names ++ [name] ∧ names ++ [name] ≠ base := by
      refine ⟨hBelow.1.trans (List.prefix_append _ _), ?_⟩
      rintro rfl
      have hLength := hBelow.1.length_le
      rw [List.length_append, List.length_singleton] at hLength
      omega
    rw [if_pos hBelow, if_pos hEntry, List.drop_append_of_le_length hBelow.1.length_le]
  · rw [if_neg hBelow]
    by_cases hSame : names = base
    · obtain rfl := hSame
      rw [hOther rfl, List.length_nil, List.drop_zero, ite_self]
    · rw [if_neg]
      rintro ⟨hPrefix, hMore⟩
      rcases List.prefix_concat_iff.mp hPrefix with hWhole | hPrefix
      · exact hMore hWhole.symm
      · exact hBelow ⟨hPrefix, hSame⟩

/-- A path is no longer than the base and what is left of it. -/
theorem byteLength_le_namesBelow (base names : List Text) : Text.byteLength (rooted names) ≤
    Text.byteLength (rooted base) + Text.byteLength (rooted (namesBelow base names)) := by
  rw [namesBelow]
  split
  · rename_i hBelow
    obtain ⟨⟨more, rfl⟩, -⟩ := hBelow
    exact Nat.le_of_eq (by rw [List.drop_left, Path.rooted_append, Text.byteLength_append])
  · omega

/-- The path of some names below the base. -/
theorem baseRoot_append_tail (h : BaseNames r base) (names : List Text) :
    r.baseRoot ++ (trimmedPath names).tail = rooted base ++ trimmedPath names := by
  rw [h.root, List.append_assoc, trimmedPath]
  split
  · rfl
  · rename_i hSome
    rw [Path.rooted_eq_slash_joined hSome]
    rfl

/-- Where a path was placed, slashes at the end aside. -/
theorem trimSlashes_of_confine (h : BaseNames r base) (hNames : ∀ n ∈ names, IsName n)
    {raised : Bool} {path placed : Text} (hSource : r.source path = trimmedPath names)
    (hPlaced : r.confine raised path = .ok placed) :
    trimSlashes placed = trimmedPath (base ++ namesBelow base names) := by
  have hTrimmed : Trimmed (trimmedPath names) := Path.trimmed_iff.mpr ⟨names, hNames, rfl⟩
  have hPlace := eq_of_confine h (hSource.symm ▸ hTrimmed.tidy.absolute) hPlaced
  rw [hSource, Path.clean_of_tidy hTrimmed.tidy, withoutBase_trimmedPath h hNames,
    baseRoot_append_tail h] at hPlace
  rw [hPlace]
  have hLeft := isName_namesBelow base hNames
  by_cases hEmpty : namesBelow base names = []
  · rw [hEmpty, List.append_nil]
    exact Path.trimSlashes_rooted_slash h.isName
  · have hAll : ∀ n ∈ base ++ namesBelow base names, IsName n := fun n hn =>
      (List.mem_append.mp hn).elim (h.isName n) (hLeft n)
    rw [trimmedPath, if_neg hEmpty, ← Path.rooted_append]
    exact Path.trimSlashes_rooted hAll (by simp [hEmpty])

/-- Where an entry is placed: in the place of its directory, if that is short enough, and if the
directory is another than the one that has the names of the base. -/
theorem confine_entry (h : BaseNames r base) (hNames : ∀ n ∈ names, IsName n) {name : Text}
    (hName : IsName name) (hOther : names = base → base = [])
    (hFits : Text.byteLength (Path.entryPath (trimmedPath (base ++ namesBelow base names)) name) + 1
      < r.limits.maxPathLength) :
    r.confine false (Path.entryPath (trimmedPath names) name) =
      .ok (Path.entryPath (trimmedPath (base ++ namesBelow base names)) name) := by
  have hLeft := isName_namesBelow base hNames
  have hAll : ∀ n ∈ base ++ namesBelow base names, IsName n := fun n hn =>
    (List.mem_append.mp hn).elim (h.isName n) (hLeft n)
  have hEntry : ∀ n ∈ names ++ [name], IsName n := fun n hn =>
    (List.mem_append.mp hn).elim (hNames n) fun hn => List.mem_singleton.mp hn ▸ hName
  rw [Path.entryPath_trimmedPath hAll] at hFits ⊢
  rw [Path.entryPath_trimmedPath hNames]
  -- with a name more, a path is no root
  have hSome (more : List Text) : trimmedPath (more ++ [name]) = rooted (more ++ [name]) := by
    rw [trimmedPath, if_neg (by simp)]
  have hTrimmed : Trimmed (rooted (names ++ [name])) :=
    Path.trimmed_iff.mpr ⟨_, hEntry, (hSome names).symm⟩
  have hSource : r.source (rooted (names ++ [name])) = rooted (names ++ [name]) :=
    source_of_absolute hTrimmed.tidy.absolute
  have hWithout : r.withoutBase (rooted (names ++ [name])) =
      rooted (namesBelow base names ++ [name]) := by
    rw [← hSome, withoutBase_trimmedPath h hEntry, namesBelow_concat hOther, hSome]
  have hShort := byteLength_le_namesBelow base (names ++ [name])
  rw [namesBelow_concat hOther] at hShort
  rw [List.append_assoc, Path.rooted_append, Text.byteLength_append] at hFits
  rw [confine_trimmed_iff h (hSource.symm ▸ hTrimmed), hSource, hWithout]
  refine ⟨by omega, Or.inr ?_, ?_⟩
  · have hRoot : Text.byteLength r.baseRoot = Text.byteLength (rooted base) + 1 := by
      rw [h.root, Text.byteLength_append]
      rfl
    omega
  · rw [← hSome (namesBelow base names), baseRoot_append_tail h, hSome, List.append_assoc,
      Path.rooted_append base]

end Resolver

end PathJail
