import PathJail.Proofs.Path.Tidy
import PathJail.Resolver.Lookup

/-!
# Where a path is placed

Without aliases a lookup makes the path canonical, takes off a base that it already begins with,
walks what is left down from the base, and makes the outcome canonical again. On a canonical path
that walk hardly has anything to do: it begins at the base or stands still, nothing climbs, and what
comes out needs a closed form only.

* `placement`                  — that closed form.
* `BaseNames`                  — a canonical base and the base with a slash behind it, as names.
* `confine_eq_placement`       — the walk comes to the closed form, where the base is canonical.
* `tidy_of_confine`            — the form of what comes out.
* `baseRoot_prefix_of_confine` — an absolute path lands at the base or below it.
* `stripBase_baseRoot_append`  — a path that was put behind the base, as seen from the base.
-/

namespace PathJail.Resolver

open PathJail.Path (Tidy Trimmed IsName rooted isAbsolute clean)

variable {r : Resolver}

-- ---------------------------------------------------------------------------
-- The closed form
-- ---------------------------------------------------------------------------

/-- The path that is meant: `.` stands for the working directory. -/
def source (r : Resolver) (path : Text) : Text := if path = ['.'] then r.cwd else path

/-- Where a cleaned path is placed. -/
def placed (r : Resolver) (q : Text) : Except Error Text :=
  let limit := r.limits.maxPathLength
  let root := r.baseRoot
  -- nothing is left, or one step up: the base itself
  if q = [] ∨ q = ['.', '.'] then .ok root
  else if isAbsolute q then
    -- a base that the path begins with is not put in front of it again
    let t := if 1 < Text.byteLength r.baseText ∧ r.baseText ++ ['/'] <+: q then
      q.drop r.baseText.length else q
    if t = ['/'] then .ok root
    else if limit ≤ Text.byteLength root + Text.byteLength t then
      .error (.nameTooLong (Text.byteLength root + Text.byteLength t) limit)
    else .ok (root ++ t.tail)
  else if limit ≤ 1 + Text.byteLength q then
    .error (.nameTooLong (1 + Text.byteLength q) limit)
  else .ok (if q = ['.'] then ['/'] else '/' :: q)

/-- The real path of a requested path, aliases aside. -/
def placement (r : Resolver) (path : Text) : Except Error Text :=
  let limit := r.limits.maxPathLength
  let length := Text.byteLength (r.source path)
  if path = [] then .error .emptyPath
  else if limit ≤ length then .error (.nameTooLong length limit)
  else r.placed (clean (r.source path))

/-- An absolute path is looked up as it is. -/
theorem source_of_absolute {path : Text} (h : isAbsolute path = true) : r.source path = path := by
  rw [source, if_neg]
  rintro rfl
  cases h

-- ---------------------------------------------------------------------------
-- The base as names
-- ---------------------------------------------------------------------------

theorem baseText_eq {base : Text} (hBase : r.base = some base) : r.baseText = base := by
  rw [baseText, hBase, Option.getD_some]

/-- The base is the path of `names`; without a base, and for the root, there are none. -/
structure BaseNames (r : Resolver) (names : List Text) : Prop where
  isName : ∀ n ∈ names, IsName n
  root : r.baseRoot = rooted names ++ ['/']
  text : names ≠ [] → r.baseText = rooted names
  narrows : r.narrows = true ↔ names ≠ []
  bytes : 1 < Text.byteLength r.baseText ↔ names ≠ []

/-- A canonical base, or the lack of one, has names. -/
theorem exists_baseNames (hBase : ∀ b, r.base = some b → Trimmed b) :
    ∃ names, BaseNames r names := by
  cases hr : r.base with
  | none =>
    have hText : r.baseText = [] := by simp [baseText, hr]
    exact ⟨[], by simp, by simp [baseRoot, hText], by simp, by simp [Resolver.narrows, hText],
      by simp [hText]⟩
  | some b =>
    have hText := baseText_eq hr
    obtain ⟨names, hNames, hb⟩ := Path.trimmed_iff.mp (hBase b hr)
    refine ⟨names, ?_⟩
    by_cases hEmpty : names = []
    · obtain rfl : b = ['/'] := by rw [hb, Path.trimmedPath, if_pos hEmpty]
      subst hEmpty
      exact ⟨hNames, by simp [baseRoot, hText], by simp, by simp [Resolver.narrows, hText],
        by rw [hText]; decide⟩
    · rw [Path.trimmedPath, if_neg hEmpty] at hb
      subst hb
      have hLength := Path.one_lt_length_rooted hNames hEmpty
      have hBytes := Text.length_le_byteLength (rooted names)
      refine ⟨hNames, ?_, fun _ => hText, ?_, ?_⟩
      · rw [baseRoot, hText, if_neg (Path.getLast?_rooted hNames)]
      · simp [Resolver.narrows, hText, hLength, hEmpty]
      · rw [hText]
        exact ⟨fun _ => hEmpty, fun _ => by omega⟩

theorem tidy_baseRoot {names : List Text} (h : BaseNames r names) : Tidy r.baseRoot := by
  rw [h.root]
  exact Path.tidy_rooted_slash h.isName

-- ---------------------------------------------------------------------------
-- The walk, step by step
-- ---------------------------------------------------------------------------

/-- The walk from above the base, made canonical again. -/
def walked (r : Resolver) (q : Text) : Except Error Text :=
  (r.descend [] (r.withoutBase q)).map fun out => if clean out = [] then r.baseRoot else clean out

/-- The checks in front of the walk, in their order. -/
theorem confine_eq (r : Resolver) (raised : Bool) (path : Text) :
    r.confine raised path =
      if path = [] then .error .emptyPath
      else if r.limits.maxPathLength ≤ Text.byteLength (r.source path) then
        .error (.nameTooLong (Text.byteLength (r.source path)) r.limits.maxPathLength)
      else if raised then .error .interrupted
      else r.walked (clean (r.source path)) := by
  rw [confine]
  by_cases hEmpty : path = []
  · rw [if_pos hEmpty, if_pos hEmpty]
    rfl
  rw [if_neg hEmpty, if_neg hEmpty]
  simp only [Limits.check]
  rw [show (if path = ['.'] then r.cwd else path) = r.source path from rfl]
  by_cases hLong : r.limits.maxPathLength ≤ Text.byteLength (r.source path)
  · rw [if_pos hLong, if_pos hLong]
    rfl
  rw [if_neg hLong, if_neg hLong]
  cases raised with
  | true => rfl
  | false =>
    rw [if_neg Bool.false_ne_true, walked]
    cases r.descend [] (r.withoutBase (clean (r.source path))) <;> rfl

/-- A path that was placed was walked. -/
theorem walked_of_confine {raised : Bool} {path real : Text}
    (h : r.confine raised path = .ok real) : r.walked (clean (r.source path)) = .ok real := by
  rw [confine_eq] at h
  split at h
  · cases h
  split at h
  · cases h
  split at h
  · cases h
  · exact h

/-- Text that neither climbs nor starts again at the base is appended as a whole. -/
theorem descend_rest {here rest : Text} (hNonempty : rest ≠ [])
    (hRelative : isAbsolute rest = false) (hClimb : ['.', '.'] ∉ Path.segments rest) :
    r.descend here rest =
      let length := Text.byteLength here + 1 + Text.byteLength rest
      if r.limits.maxPathLength ≤ length then .error (.nameTooLong length r.limits.maxPathLength)
      else .ok (here ++ '/' :: rest) := by
  have hUp : rest ≠ ['.', '.'] := fun h => hClimb (by rw [h]; decide)
  have hUpSlash : ∀ tail, rest ≠ '.' :: '.' :: '/' :: tail := by
    intro tail h
    refine hClimb ?_
    rw [h, Path.segments_eq, show '.' :: '.' :: '/' :: tail = ['.', '.'] ++ '/' :: tail from rfl,
      Path.front_append_slash]
    exact List.mem_append_left _ (List.mem_append_left _ (by decide))
  have hSlash : ∀ tail, rest ≠ '/' :: tail := by
    intro tail h
    rw [h] at hRelative
    exact absurd hRelative (by simp [isAbsolute])
  have hContains : ¬ (Path.segments rest).contains ['.', '.'] = true := by
    rwa [List.contains_iff_mem]
  rw [descend.eq_5 r here rest hUp hUpSlash hSlash hNonempty, if_neg hContains]
  simp only [Limits.check]
  split <;> rfl

/-- A tidy path has nothing to climb: it is appended to the base, if there is room. -/
theorem descend_tidy {here path : Text} (h : Tidy path) :
    r.descend here path =
      let length := Text.byteLength r.baseRoot + Text.byteLength path
      if path = ['/'] then .ok r.baseRoot
      else if r.limits.maxPathLength ≤ length then
        .error (.nameTooLong length r.limits.maxPathLength)
      else .ok (r.baseRoot ++ path) := by
  obtain ⟨rest, rfl⟩ := h.eq_slash_cons
  obtain ⟨hRelative, hClimb⟩ := Path.tidy_slash_cons h
  rw [descend.eq_3]
  by_cases hEmpty : rest = []
  · subst hEmpty
    rfl
  · rw [descend_rest hEmpty hRelative hClimb]
    have hByte : Text.byteLength ('/' :: rest) = 1 + Text.byteLength rest := by
      rw [Text.byteLength_cons]
      rfl
    simp only [List.cons.injEq, hEmpty, and_false, if_false, hByte, Nat.add_assoc]

/-- The base is taken off where it stands in front with a slash behind it, and where it is not the
root. -/
theorem withoutBase_eq {names : List Text} (h : BaseNames r names) (q : Text) :
    r.withoutBase q =
      if 1 < Text.byteLength r.baseText ∧ r.baseText ++ ['/'] <+: q then
        q.drop r.baseText.length else q := by
  have hNarrows : r.narrows = true ↔ 1 < Text.byteLength r.baseText := h.narrows.trans h.bytes.symm
  rw [withoutBase]
  by_cases hWide : r.narrows = true
  · rw [if_pos hWide]
    cases hAfter : Text.after? r.baseText q with
    | none =>
      refine (if_neg ?_).symm
      rintro ⟨-, tail, hTail⟩
      rw [List.append_assoc] at hTail
      rw [Text.after?_eq_some_iff.mpr hTail.symm] at hAfter
      cases hAfter
    | some rest =>
      obtain rfl := Text.after?_eq_some_iff.mp hAfter
      have hPrefix : (r.baseText ++ ['/'] <+: r.baseText ++ rest) ↔ isAbsolute rest = true := by
        rw [List.prefix_append_right_inj, Path.isAbsolute_iff]
        exact ⟨fun ⟨tail, h⟩ => ⟨tail, h.symm⟩, fun ⟨tail, h⟩ => ⟨tail, h.symm⟩⟩
      simp only [hPrefix, hNarrows.mp hWide, true_and, List.drop_left]
  · rw [if_neg hWide, if_neg fun hBoth => hWide (hNarrows.mpr hBoth.1)]

/-- The base begins with a slash, so it is no part of a relative path. -/
theorem withoutBase_of_relative {names : List Text} (h : BaseNames r names) {q : Text}
    (hRelative : isAbsolute q = false) : r.withoutBase q = q := by
  rw [withoutBase_eq h, if_neg]
  rintro ⟨hBytes, tail, rfl⟩
  have hne := h.bytes.mp hBytes
  rw [h.text hne, Path.rooted_eq_slash_joined hne] at hRelative
  exact absurd hRelative (by simp [isAbsolute])

/-- What is left of a tidy path without the base is tidy. -/
theorem tidy_withoutBase {names : List Text} (h : BaseNames r names) {q : Text} (hq : Tidy q) :
    Tidy (r.withoutBase q) := by
  rw [withoutBase_eq h]
  split
  · rename_i hBelow
    obtain ⟨-, tail, rfl⟩ := hBelow
    rw [List.append_assoc] at hq ⊢
    rw [List.drop_left]
    exact Path.tidy_of_append hq
  · exact hq

theorem up_nil (r : Resolver) : r.up [] = r.baseRoot := rfl

-- ---------------------------------------------------------------------------
-- The walk and the closed form
-- ---------------------------------------------------------------------------

/-- A tidy path below the base is tidy, the slashes between the two reduced to one. -/
theorem tidy_below_base {names : List Text} (h : BaseNames r names) {t : Text} (ht : Tidy t) :
    Tidy (r.baseRoot ++ t.tail) := by
  obtain ⟨rest, rfl⟩ := ht.eq_slash_cons
  rw [h.root, List.append_assoc]
  exact Path.tidy_rooted_append h.isName ht

/-- A tidy path behind the base is clean but for the slash between them. -/
theorem clean_below_base {names : List Text} (h : BaseNames r names) {t : Text} (ht : Tidy t) :
    clean (r.baseRoot ++ t) = r.baseRoot ++ t.tail := by
  rw [← Path.clean_of_tidy (tidy_below_base h ht), Path.clean_eq_normal, Path.clean_eq_normal]
  obtain ⟨rest, rfl⟩ := ht.eq_slash_cons
  rw [h.root, List.append_assoc, List.append_assoc]
  exact Path.normal_skip (rooted names) [] rest (Path.settled_concat _ [])

theorem clean_baseRoot {names : List Text} (h : BaseNames r names) :
    clean r.baseRoot = r.baseRoot :=
  Path.clean_of_tidy (tidy_baseRoot h)

theorem baseRoot_ne_nil {names : List Text} (h : BaseNames r names) : r.baseRoot ≠ [] := by
  rw [h.root]
  simp

/-- The closed form of a tidy path, with the base taken off as the walk does it. -/
theorem placed_tidy {names : List Text} (h : BaseNames r names) {q : Text} (hq : Tidy q) :
    r.placed q =
      let t := r.withoutBase q
      let length := Text.byteLength r.baseRoot + Text.byteLength t
      if t = ['/'] then .ok r.baseRoot
      else if r.limits.maxPathLength ≤ length then
        .error (.nameTooLong length r.limits.maxPathLength)
      else .ok (r.baseRoot ++ t.tail) := by
  obtain ⟨rest, hRest⟩ := hq.eq_slash_cons
  rw [placed, if_neg (by simp [hRest]), if_pos hq.absolute, ← withoutBase_eq h]

/-- A path with a slash in front starts again at the base. -/
theorem walked_of_absolute {names : List Text} (h : BaseNames r names) {q : Text} (hq : Tidy q) :
    r.walked q = r.placed q := by
  have ht := tidy_withoutBase h hq
  rw [walked, placed_tidy h hq, descend_tidy ht]
  generalize r.withoutBase q = t at ht ⊢
  by_cases hSlash : t = ['/']
  · simp [hSlash, Except.map, clean_baseRoot h, baseRoot_ne_nil h]
  simp only [if_neg hSlash]
  split
  · rfl
  · simp [Except.map, clean_below_base h ht, baseRoot_ne_nil h]

/-- A relative path ends up under the root of the host: the walk begins above the base, not at
it. -/
theorem walked_of_relative {names : List Text} (h : BaseNames r names) {q : Text}
    (hFixed : Path.simplify? q = none) (hRelative : isAbsolute q = false) :
    r.walked q = r.placed q := by
  rw [walked, placed, withoutBase_of_relative h hRelative, hRelative, if_neg Bool.false_ne_true]
  by_cases hEmpty : q = []
  · have hClean : clean [] = [] := by
      rw [Path.clean_eq_normal]
      rfl
    simp [hEmpty, descend, Except.map, hClean]
  by_cases hUp : q = ['.', '.']
  · subst hUp
    simp [descend, Except.map, up_nil, clean_baseRoot h, baseRoot_ne_nil h]
  rw [if_neg (not_or.mpr ⟨hEmpty, hUp⟩)]
  by_cases hDot : q = ['.']
  · subst hDot
    have hClean : clean ['/', '.'] = ['/'] := by
      rw [Path.clean_eq_normal]
      decide
    rw [descend_rest hEmpty hRelative (by decide), if_pos rfl]
    simp only [Text.byteLength_nil, Nat.zero_add, List.nil_append]
    split
    · rfl
    · simp [Except.map, hClean]
  · have ht : Tidy ('/' :: q) := Path.tidy_of_relative hFixed hRelative hDot hUp
    rw [descend_rest hEmpty hRelative (Path.tidy_slash_cons ht).2, if_neg hDot]
    simp only [Text.byteLength_nil, Nat.zero_add, List.nil_append]
    split
    · rfl
    · simp [Except.map, Path.clean_of_tidy ht]

/-- **The walk** of a cleaned path comes to its place. -/
theorem walked_clean {names : List Text} (h : BaseNames r names) (source : Text) :
    r.walked (clean source) = r.placed (clean source) := by
  cases hAbsolute : isAbsolute (clean source) with
  | true =>
    -- a relative path can become absolute on the way, so it is the outcome that is cleaned here
    have ht := Path.tidy_clean hAbsolute
    rw [Path.clean_clean] at ht
    exact walked_of_absolute h ht
  | false => exact walked_of_relative h (Path.simplify?_clean source) hAbsolute

/-- **The walk comes to the closed form.** The base is canonical here, or there is none. -/
theorem confine_eq_placement {names : List Text} (h : BaseNames r names) (path : Text) :
    r.confine false path = r.placement path := by
  rw [confine_eq, placement, if_neg Bool.false_ne_true, walked_clean h]

-- ---------------------------------------------------------------------------
-- What comes out
-- ---------------------------------------------------------------------------

/-- What an absolute path comes to is the base with what is left of the path behind it. -/
theorem placed_absolute {names : List Text} (h : BaseNames r names) {q real : Text} (hq : Tidy q)
    (hReal : r.placed q = .ok real) : real = r.baseRoot ++ (r.withoutBase q).tail := by
  rw [placed_tidy h hq] at hReal
  by_cases hSlash : r.withoutBase q = ['/']
  · rw [if_pos hSlash] at hReal
    rw [hSlash, List.tail_cons, List.append_nil]
    exact (Except.ok.inj hReal).symm
  · rw [if_neg hSlash] at hReal
    split at hReal
    · cases hReal
    · exact (Except.ok.inj hReal).symm

theorem tidy_of_placed {names : List Text} (h : BaseNames r names) {source real : Text}
    (hReal : r.placed (clean source) = .ok real) : Tidy real := by
  have hFixed := Path.simplify?_clean source
  have hTwice := Path.clean_clean source
  generalize clean source = q at hFixed hTwice hReal
  cases hAbsolute : isAbsolute q with
  | true =>
    have hq : Tidy q := hTwice ▸ Path.tidy_clean hAbsolute
    rw [placed_absolute h hq hReal]
    exact tidy_below_base h (tidy_withoutBase h hq)
  | false =>
    rw [placed, hAbsolute, if_neg Bool.false_ne_true] at hReal
    split at hReal
    · obtain rfl := Except.ok.inj hReal
      exact tidy_baseRoot h
    rename_i hStill
    split at hReal
    · cases hReal
    obtain rfl := Except.ok.inj hReal
    split
    · exact Path.tidy_root
    · rename_i hDot
      exact Path.tidy_of_relative hFixed hAbsolute hDot (not_or.mp hStill).2

/-- Every real path is tidy. -/
theorem tidy_of_confine {names : List Text} (h : BaseNames r names) {raised : Bool}
    {path real : Text} (hReal : r.confine raised path = .ok real) : Tidy real := by
  have hWalked := walked_of_confine hReal
  rw [walked_clean h] at hWalked
  exact tidy_of_placed h hWalked

/-- The place of an absolute path is what is left of it behind the base. -/
theorem eq_of_confine {names : List Text} (h : BaseNames r names) {raised : Bool}
    {path real : Text} (hPath : isAbsolute (r.source path) = true)
    (hReal : r.confine raised path = .ok real) :
    real = r.baseRoot ++ (r.withoutBase (clean (r.source path))).tail := by
  have hWalked := walked_of_confine hReal
  rw [walked_clean h] at hWalked
  exact placed_absolute h (Path.tidy_clean hPath) hWalked

/-- A path with a slash in front lands at the base or below it, and so does `.` where the working
directory has one. -/
theorem baseRoot_prefix_of_confine {names : List Text} (h : BaseNames r names) {raised : Bool}
    {path real : Text} (hPath : isAbsolute (r.source path) = true)
    (hReal : r.confine raised path = .ok real) : r.baseRoot <+: real := by
  rw [eq_of_confine h hPath hReal]
  exact List.prefix_append _ _

-- ---------------------------------------------------------------------------
-- What is seen from the base
-- ---------------------------------------------------------------------------

/-- The path seen from the base is what was put behind the base. -/
theorem stripBase_baseRoot_append (h : BaseNames r names) {t : Text} (ht : isAbsolute t = true) :
    r.stripBase (r.baseRoot ++ t.tail) = t := by
  obtain ⟨rest, rfl⟩ := Path.isAbsolute_iff.mp ht
  rw [stripBase]
  by_cases hNarrow : r.narrows = true
  · have hNames := h.narrows.mp hNarrow
    have hSplit : r.baseRoot ++ rest = r.baseText ++ '/' :: rest := by
      rw [h.root, h.text hNames, List.append_assoc]
      rfl
    rw [if_pos hNarrow, List.tail_cons, hSplit, Path.below?, Text.after?_eq_some_iff.mpr rfl]
    rfl
  · have hNames : names = [] := Classical.not_not.mp fun hne => hNarrow (h.narrows.mpr hne)
    rw [if_neg hNarrow, h.root, hNames]
    rfl

/-- The test for the root by its length is one for the root. -/
theorem one_lt_byteLength_iff {base : Text} (h : Trimmed base) :
    1 < Text.byteLength base ↔ base ≠ ['/'] := by
  constructor
  · rintro hLong rfl
    exact absurd hLong (by decide)
  · intro hRoot
    obtain ⟨names, hNames, rfl⟩ := Path.trimmed_iff.mp h
    have hEmpty : names ≠ [] := by
      rintro rfl
      exact hRoot rfl
    have hLength := Path.one_lt_length_rooted hNames hEmpty
    have hBytes := Text.length_le_byteLength (Path.rooted names)
    rw [Path.trimmedPath, if_neg hEmpty]
    omega

end PathJail.Resolver
