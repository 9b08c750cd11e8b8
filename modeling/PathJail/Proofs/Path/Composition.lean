import Mathlib.Data.List.Basic
import Mathlib.Data.List.Induction
import PathJail.Proofs.Path.Tidy

/-!
# One path behind another

A path that is cut in two can be made canonical in two parts: the names of the first part, and
behind them those of the second. That is right unless the second part climbs, by a `..` that would
cancel a name of the first. The parts taken alone know nothing of each other, so such a `..` is lost.

* `Climbs`              — a `..` stands where nothing is left for it to cancel.
* `settled_append_iff`  — two lists of segments can be taken in one apart from the other unless the
  second one climbs.
* `trimSlashes_clean`   — the canonical form of an absolute path, by its names.
* `Plain`               — the paths that are canonical but for slashes at their end.
* `rejoins_iff`         — two parts made canonical apart are the canonical path.
-/

namespace PathJail.Path

-- ---------------------------------------------------------------------------
-- Segments in two parts
-- ---------------------------------------------------------------------------

/-- A `..` stands where nothing is left for it to cancel. -/
def Climbs (segments : List Text) : Prop :=
  ∃ before after, segments = before ++ ['.', '.'] :: after ∧ settled before = []

/-- Without a `..` no path climbs. -/
theorem Climbs.up_mem {segments : List Text} (h : Climbs segments) : ['.', '.'] ∈ segments := by
  obtain ⟨before, after, rfl, -⟩ := h
  exact List.mem_append_right before List.mem_cons_self

/-- What a segment does to the names at the top of a stack. -/
theorem settle_append (stack : List Text) {here : List Text} {segment : Text}
    (h : segment = ['.', '.'] → here ≠ []) :
    settle (stack ++ here) segment = stack ++ settle here segment := by
  by_cases hNothing : segment = [] ∨ segment = ['.']
  · simp only [settle, if_pos hNothing]
  by_cases hUp : segment = ['.', '.']
  · rw [hUp, settle_up, settle_up, List.dropLast_append_of_ne_nil (h hUp)]
  · simp only [settle, if_neg hNothing, if_neg hUp, List.append_assoc]

/-- Induction on the segments: as long as names of their own are left, those below stay. -/
theorem foldl_settle_append (stack : List Text) {segments here : List Text}
    (h : ∀ before after, segments = before ++ ['.', '.'] :: after →
      before.foldl settle here ≠ []) :
    segments.foldl settle (stack ++ here) = stack ++ segments.foldl settle here := by
  induction segments generalizing here with
  | nil => rfl
  | cons m segments ih =>
    have hHere : m = ['.', '.'] → here ≠ [] := fun hUp => h [] segments (by rw [hUp]; rfl)
    rw [List.foldl_cons, List.foldl_cons, settle_append stack hHere]
    exact ih fun before after hSplit => h (m :: before) after (by rw [hSplit]; rfl)

/-- Induction on the segments: a `..` that finds no name of its own takes one from below. -/
theorem length_foldl_settle_le (segments stack here : List Text) :
    (segments.foldl settle (stack ++ here)).length ≤
      stack.length + (segments.foldl settle here).length := by
  induction segments generalizing stack here with
  | nil => exact Nat.le_of_eq List.length_append
  | cons m segments ih =>
    rw [List.foldl_cons, List.foldl_cons]
    by_cases hClimb : m = ['.', '.'] ∧ here = []
    · obtain ⟨rfl, rfl⟩ := hClimb
      have hBelow := ih stack.dropLast []
      rw [List.append_nil, List.length_dropLast] at hBelow
      rw [List.append_nil, settle_up, settle_up, List.dropLast_nil]
      omega
    · have hHere : m = ['.', '.'] → here ≠ [] := fun hUp hEmpty => hClimb ⟨hUp, hEmpty⟩
      rw [settle_append stack hHere]
      exact ih stack (settle here m)

/-- Segments that do not climb settle behind others as they do alone. -/
theorem settled_append_of_not_climbs {segments : List Text} (h : ¬ Climbs segments)
    (a : List Text) : settled (a ++ segments) = settled a ++ settled segments := by
  have hFold : segments.foldl settle (settled a ++ []) = settled a ++ segments.foldl settle [] :=
    foldl_settle_append (settled a)
      fun before after hSplit hEmpty => h ⟨before, after, hSplit, hEmpty⟩
  rw [List.append_nil] at hFold
  rw [settled, List.foldl_append]
  exact hFold

/-- Where the second part climbs, a name is lost. -/
theorem length_settled_append_lt {segments a : List Text} (h : Climbs segments)
    (ha : settled a ≠ []) :
    (settled (a ++ segments)).length < (settled a).length + (settled segments).length := by
  obtain ⟨before, after, rfl, hBefore⟩ := h
  have hThere := length_foldl_settle_le before (settled a) []
  rw [List.append_nil] at hThere
  have hBehind := length_foldl_settle_le after (before.foldl settle (settled a)).dropLast []
  rw [List.append_nil, List.length_dropLast] at hBehind
  have hWhole : settled (a ++ (before ++ ['.', '.'] :: after)) =
      after.foldl settle (before.foldl settle (settled a)).dropLast := by
    rw [settled, List.foldl_append, List.foldl_append, List.foldl_cons, settle_up, settled]
  have hAlone : settled (before ++ ['.', '.'] :: after) = after.foldl settle [] := by
    rw [settled, List.foldl_append, List.foldl_cons, settle_up]
    exact congrArg (fun stack => after.foldl settle stack.dropLast) hBefore
  have hSome := List.length_pos_iff.mpr ha
  have hNone : before.foldl settle [] = [] := hBefore
  rw [hNone, List.length_nil] at hThere
  rw [hWhole, hAlone]
  omega

/-- **Two parts can be taken in apart from each other unless the second one climbs.** -/
theorem settled_append_iff {a segments : List Text} (ha : settled a ≠ []) :
    settled (a ++ segments) = settled a ++ settled segments ↔ ¬ Climbs segments := by
  refine ⟨fun hApart hClimbs => ?_, fun h => settled_append_of_not_climbs h a⟩
  have hLost := length_settled_append_lt hClimbs ha
  rw [hApart, List.length_append] at hLost
  omega

-- ---------------------------------------------------------------------------
-- The names of an absolute path
-- ---------------------------------------------------------------------------

/-- What the segments of a path come to are names. -/
theorem isName_settled_segments (p : Text) : ∀ n ∈ settled (segments p), IsName n :=
  isName_of_mem_settled fun _ hn => not_mem_of_mem_segments hn

/-- What cleaning makes of an absolute path, by its names. -/
theorem clean_of_absolute {p : Text} (h : isAbsolute p = true) :
    clean p = rooted (settled (segments p)) ++ ['/'] ∨
      settled (segments p) ≠ [] ∧ clean p = rooted (settled (segments p)) := by
  have hStack : settle (settled (front p)) (final p) = settled (segments p) := by
    rw [segments_eq p, settled_concat]
  rw [clean_eq_normal, normal, h, rebuild, if_pos rfl, hStack]
  by_cases hEmpty : settled (segments p) = []
  · rw [hEmpty]
    exact Or.inl rfl
  · rw [← rooted_eq_slash_joined hEmpty]
    split
    · exact Or.inl rfl
    · exact Or.inr ⟨hEmpty, List.append_nil _⟩

/-- The canonical form of an absolute path, by its names. -/
theorem trimSlashes_clean {p : Text} (h : isAbsolute p = true) :
    trimSlashes (clean p) = trimmedPath (settled (segments p)) := by
  rcases clean_of_absolute h with hClean | ⟨hSome, hClean⟩
  · rw [hClean, trimSlashes_rooted_slash (isName_settled_segments p)]
  · rw [hClean, trimSlashes_rooted (isName_settled_segments p) hSome]

/-- A canonical path without the slash at its end is made of the names that its segments come to. -/
theorem trimSlash_clean {p : Text} (h : isAbsolute p = true) :
    trimSlash (clean p) = trimmedPath (settled (segments p)) := by
  rcases clean_of_absolute h with hClean | ⟨hSome, hClean⟩
  · rw [hClean, trimSlash_rooted_slash]
  · rw [hClean, trimSlash_rooted (isName_settled_segments p) hSome]

/-- Different names make different paths. -/
theorem trimmedPath_injective {a b : List Text} (ha : ∀ n ∈ a, IsName n)
    (hb : ∀ n ∈ b, IsName n) (h : trimmedPath a = trimmedPath b) : a = b := by
  rw [trimmedPath, trimmedPath] at h
  split at h <;> split at h
  · rename_i hEmpty hOther
    rw [hEmpty, hOther]
  · rename_i hEmpty hSome
    have hLength := one_lt_length_rooted hb hSome
    rw [← h] at hLength
    exact absurd hLength (by decide)
  · rename_i hSome hEmpty
    have hLength := one_lt_length_rooted ha hSome
    rw [h] at hLength
    exact absurd hLength (by decide)
  · have hSegments := congrArg segments h
    rw [segments_rooted ha, segments_rooted hb] at hSegments
    exact List.tail_eq_of_cons_eq hSegments

/-- Slashes at the end do not count. -/
theorem settled_segments_bare (p : Text) : settled (segments (bare p)) = settled (segments p) := by
  induction p using List.reverseRecOn with
  | nil => rfl
  | append_singleton p c ih =>
    by_cases hSlash : c = '/'
    · rw [hSlash, bare_append_slash, ih, segments_append_slash]
      exact (settled_concat (segments p) []).symm
    · rw [bare_of_getLast? (by simpa using hSlash)]

/-- A path is what is left without the slashes at its end, and those. -/
theorem exists_slashes (p : Text) : ∃ count, p = bare p ++ List.replicate count '/' := by
  induction p using List.reverseRecOn with
  | nil => exact ⟨0, rfl⟩
  | append_singleton p c ih =>
    by_cases hSlash : c = '/'
    · obtain ⟨count, hp⟩ := ih
      refine ⟨count + 1, ?_⟩
      rw [hSlash, bare_append_slash, List.replicate_succ', ← List.append_assoc, ← hp]
    · refine ⟨0, ?_⟩
      rw [bare_of_getLast? (by simpa using hSlash), List.replicate_zero, List.append_nil]

/-- There is no slash at the end of what is left. -/
theorem getLast?_bare (p : Text) : (bare p).getLast? ≠ some '/' := by
  induction p using List.reverseRecOn with
  | nil => exact nofun
  | append_singleton p c ih =>
    by_cases hSlash : c = '/'
    · rw [hSlash, bare_append_slash]
      exact ih
    · rw [bare_of_getLast? (by simpa using hSlash)]
      simpa using hSlash

-- ---------------------------------------------------------------------------
-- Paths that are canonical but for slashes at their end
-- ---------------------------------------------------------------------------

/-- The path is canonical, but for slashes at its end. -/
def Plain (p : Text) : Prop := Trimmed (trimSlashes p)

/-- A plain path is absolute. -/
theorem Plain.absolute {p : Text} (h : Plain p) : isAbsolute p = true := by
  have hAbsolute := h.tidy.absolute
  rw [trimSlashes] at hAbsolute
  split at hAbsolute
  · cases p with
    | nil => exact hAbsolute
    | cons c cs => exact hAbsolute
  · rename_i hSome
    obtain ⟨tail, hTail⟩ := bare_prefix p
    rw [← hTail, isAbsolute_append hSome]
    exact hAbsolute

/-- A plain path is its names with a slash before each, and slashes behind them. -/
theorem Plain.eq_rooted {p : Text} (h : Plain p) :
    bare p = rooted (settled (segments p)) ∧
      ∃ count, p = rooted (settled (segments p)) ++ List.replicate count '/' := by
  suffices hBare : bare p = rooted (settled (segments p)) by
    obtain ⟨count, hp⟩ := exists_slashes p
    exact ⟨hBare, count, by rw [← hBare]; exact hp⟩
  by_cases hEmpty : bare p = []
  · rw [← settled_segments_bare, hEmpty]
    rfl
  obtain ⟨names, hNames, hp⟩ := trimmed_iff.mp h
  rw [trimSlashes, if_neg hEmpty, trimmedPath] at hp
  split at hp
  · rw [hp] at hEmpty
    have hLast := getLast?_bare p
    rw [hp] at hLast
    exact absurd rfl hLast
  · rw [← settled_segments_bare, hp, segments_rooted hNames, settled_root_cons,
      settled_of_names hNames]

theorem segments_append_slashes (p : Text) (count : Nat) :
    segments (p ++ List.replicate count '/') = segments p ++ List.replicate count [] := by
  induction count with
  | zero => rw [List.replicate_zero, List.replicate_zero, List.append_nil, List.append_nil]
  | succ count ih =>
    rw [List.replicate_succ', List.replicate_succ', ← List.append_assoc, segments_append_slash, ih,
      List.append_assoc]
    rfl

/-- Nothing in a plain path climbs. -/
theorem Plain.up_not_mem {p : Text} (h : Plain p) : ['.', '.'] ∉ segments p := by
  obtain ⟨-, count, hp⟩ := h.eq_rooted
  have hNames := isName_settled_segments p
  rw [hp, segments_append_slashes, segments_rooted hNames]
  intro hUp
  rcases List.mem_append.mp hUp with hUp | hUp
  · rcases List.mem_cons.mp hUp with hNothing | hName
    · cases hNothing
    · exact (hNames _ hName).ne_up rfl
  · cases List.eq_of_mem_replicate hUp

/-- What lies before names in a canonical path is canonical. -/
theorem trimmed_of_append_rooted {root : Text} {names : List Text}
    (hRoot : isAbsolute root = true) (hLast : root.getLast? ≠ some '/')
    (h : Trimmed (root ++ rooted names)) : Trimmed root := by
  obtain ⟨tail, rfl⟩ := isAbsolute_iff.mp hRoot
  have hRooted : '/' :: tail = rooted (segments tail) := by
    rw [rooted_eq_slash_joined (segments_ne_nil tail), joined_segments]
  suffices hNames : ∀ n ∈ segments tail, IsName n by
    rw [hRooted]
    exact trimmed_iff.mpr ⟨_, hNames, by rw [trimmedPath, if_neg (segments_ne_nil tail)]⟩
  obtain ⟨all, hAll, hEq⟩ := trimmed_iff.mp h
  by_cases hEmpty : names = []
  · rw [hEmpty, rooted_nil, List.append_nil] at hEq
    have hSome : all ≠ [] := by
      rintro rfl
      exact hLast (by rw [hEq]; rfl)
    have hSegments := congrArg segments hEq
    rw [trimmedPath, if_neg hSome, segments_rooted hAll, segments_slash_cons] at hSegments
    rw [List.tail_eq_of_cons_eq hSegments]
    exact hAll
  · rw [rooted_eq_slash_joined hEmpty] at hEq
    have hSome : all ≠ [] := by
      rintro rfl
      have hLength := congrArg List.length hEq
      simp [trimmedPath] at hLength
    have hSegments := congrArg segments hEq
    rw [trimmedPath, if_neg hSome, segments_rooted hAll, segments_append_slash,
      segments_slash_cons, List.cons_append] at hSegments
    intro n hn
    refine hAll n ?_
    rw [← List.tail_eq_of_cons_eq hSegments]
    exact List.mem_append_left _ hn

-- ---------------------------------------------------------------------------
-- Paths in two parts
-- ---------------------------------------------------------------------------

/-- The text of a part that is empty or begins with a slash adds its segments. -/
theorem settled_segments_append (root : Text) {rest : Text}
    (hRest : rest = [] ∨ isAbsolute rest = true) :
    settled (segments (root ++ rest)) = settled (segments root ++ segments rest) := by
  rcases hRest with rfl | hRest
  · rw [List.append_nil]
    exact (settled_concat (segments root) []).symm
  · obtain ⟨tail, rfl⟩ := isAbsolute_iff.mp hRest
    rw [segments_append_slash, segments_slash_cons]
    have hSame := settled_append_congr (settled_concat (segments root) []) (segments tail)
    rw [List.append_assoc] at hSame
    exact hSame.symm

/-- A canonical path behind a directory: the slash of the root is dropped. -/
theorem trimSlashes_append_trimmedPath {root : Text} (hRoot : root ≠ [])
    (hLast : root.getLast? ≠ some '/') {names : List Text} (hNames : ∀ n ∈ names, IsName n) :
    trimSlashes (root ++ trimmedPath names) = root ++ rooted names := by
  by_cases hEmpty : names = []
  · subst hEmpty
    rw [trimmedPath, if_pos rfl, trimSlashes, bare_append_slash, bare_of_getLast? hLast,
      if_neg hRoot, rooted_nil, List.append_nil]
  · have hEnd : (root ++ rooted names).getLast? ≠ some '/' := by
      rw [List.getLast?_append_of_ne_nil _ (rooted_ne_nil hEmpty)]
      exact getLast?_rooted hNames
    rw [trimmedPath, if_neg hEmpty, trimSlashes, bare_of_getLast? hEnd, if_neg]
    simp [hRoot]

/-- **Two parts made canonical apart.** The second one behind the text of the first is the canonical
path, if that text is canonical and the second part does not climb, and not else. -/
theorem rejoins_iff {root rest : Text} (hRoot : isAbsolute root = true)
    (hLast : root.getLast? ≠ some '/') (hRest : rest = [] ∨ isAbsolute rest = true) :
    trimSlashes (root ++ trimmedPath (settled (segments rest))) =
        trimSlashes (clean (root ++ rest)) ↔
      Trimmed root ∧ ¬ Climbs (segments rest) := by
  have hNonempty : root ≠ [] := by
    rintro rfl
    cases hRoot
  have hAbsolute : isAbsolute (root ++ rest) = true := by
    rw [isAbsolute_append hNonempty]
    exact hRoot
  have hNames := isName_settled_segments rest
  rw [trimSlashes_append_trimmedPath hNonempty hLast hNames]
  have hCanonical := trimmed_trimSlashes (tidy_clean hAbsolute)
  -- with a canonical root both sides are paths of names
  suffices hTrimmed : Trimmed root →
      (root ++ rooted (settled (segments rest)) = trimSlashes (clean (root ++ rest)) ↔
        ¬ Climbs (segments rest)) by
    constructor
    · intro hEq
      have hWhole : Trimmed root := trimmed_of_append_rooted hRoot hLast (hEq ▸ hCanonical)
      exact ⟨hWhole, (hTrimmed hWhole).mp hEq⟩
    · rintro ⟨hWhole, hClimbs⟩
      exact (hTrimmed hWhole).mpr hClimbs
  intro hWhole
  obtain ⟨names, hRootNames, hRooted⟩ := trimmed_iff.mp hWhole
  have hSome : names ≠ [] := by
    rintro rfl
    exact hLast (by rw [hRooted]; rfl)
  rw [trimmedPath, if_neg hSome] at hRooted
  have hSettled : settled (segments root) = names := by
    rw [hRooted, segments_rooted hRootNames, settled_root_cons, settled_of_names hRootNames]
  have hSomeRoot : settled (segments root) ≠ [] := hSettled.symm ▸ hSome
  have hLeft : root ++ rooted (settled (segments rest)) =
      trimmedPath (settled (segments root) ++ settled (segments rest)) := by
    rw [hSettled, trimmedPath, if_neg (by simp [hSome]), rooted_append, ← hRooted]
  rw [hLeft, trimSlashes_clean hAbsolute, settled_segments_append root hRest,
    ← settled_append_iff hSomeRoot]
  refine ⟨fun hEq => (trimmedPath_injective ?_ ?_ hEq).symm, fun hEq => by rw [hEq]⟩
  · intro n hn
    rcases List.mem_append.mp hn with hn | hn
    · exact isName_settled_segments root n hn
    · exact hNames n hn
  · rw [← settled_segments_append root hRest]
    exact isName_settled_segments _

end PathJail.Path
