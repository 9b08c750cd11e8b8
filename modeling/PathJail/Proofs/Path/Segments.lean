import PathJail.Path.Clean

/-!
# Paths by their segments

A path is a list of segments with a slash between each two, and most of what the rules of `clean` do
to a text is one change of that list. This module goes from the text to the segments and back.

* `joined`, `joined_segments`  — the text that segments make up; every path is that of its own.
* `front`, `final`             — all segments but the last, and the last one. The last one is apart
  because a path may end in a slash, in `.` or in `..`, and each of these leaves a slash.
* `IsName`                     — the segments that name something.
* `rooted`                     — names with a slash before each: the absolute paths without slash at
  the end, in a form that is additive over `++` (`rooted_append`).
* `isName_of_mem_front`        — a path without `//`, `/./` and `/../` has names only before its
  last segment.
-/

namespace PathJail.Path

-- ---------------------------------------------------------------------------
-- Segments and the text they make up
-- ---------------------------------------------------------------------------

theorem segments_ne_nil (p : Text) : segments p ≠ [] := List.splitOn_ne_nil '/' p

/-- A slash parts the segments in front of it from those behind it. -/
theorem segments_append_slash (a b : Text) :
    segments (a ++ '/' :: b) = segments a ++ segments b :=
  List.splitOn_append_cons_self a b

theorem segments_slash_cons (p : Text) : segments ('/' :: p) = [] :: segments p :=
  segments_append_slash [] p

/-- A text without a slash is one segment. -/
theorem segments_of_not_mem {p : Text} (h : '/' ∉ p) : segments p = [p] :=
  List.splitOn_eq_singleton h

/-- Induction along the slashes: a path has no slash, or it is a first segment, a slash, and the
rest of the path. -/
@[elab_as_elim]
theorem segmentInduction {motive : Text → Prop}
    (single : ∀ p, '/' ∉ p → motive p)
    (slash : ∀ first rest, '/' ∉ first → motive rest → motive (first ++ '/' :: rest)) (p : Text) :
    motive p := by
  by_cases hSlash : '/' ∈ p
  · obtain ⟨first, rest, hp, hFirst⟩ := List.eq_append_cons_of_mem hSlash
    rw [hp]
    exact slash first rest hFirst (segmentInduction single slash rest)
  · exact single p hSlash
termination_by p.length
decreasing_by
  rw [hp, List.length_append, List.length_cons]
  omega

/-- No slash is left inside a segment. -/
theorem not_mem_of_mem_segments {p n : Text} (h : n ∈ segments p) : '/' ∉ n := by
  induction p using segmentInduction with
  | single p hSlash =>
    rw [segments_of_not_mem hSlash, List.mem_singleton] at h
    exact h ▸ hSlash
  | slash first rest hFirst ih =>
    rw [segments_append_slash, segments_of_not_mem hFirst, List.mem_append,
      List.mem_singleton] at h
    rcases h with rfl | h
    · exact hFirst
    · exact ih h

/-- The text of segments, with a slash between each two. -/
def joined (names : List Text) : Text := ['/'].intercalate names

@[simp] theorem joined_nil : joined [] = [] := rfl

@[simp] theorem joined_singleton (n : Text) : joined [n] = n := List.intercalate_singleton

/-- A name in front of others, and a slash between them. -/
theorem joined_cons {names : List Text} (h : names ≠ []) (n : Text) :
    joined (n :: names) = n ++ '/' :: joined names := by
  simp [joined, List.intercalate_cons_of_ne_nil h]

/-- A name behind others, and a slash between them. -/
theorem joined_concat {names : List Text} (h : names ≠ []) (n : Text) :
    joined (names ++ [n]) = joined names ++ '/' :: n := by
  induction names with
  | nil => exact absurd rfl h
  | cons m names ih =>
    by_cases hNames : names = []
    · subst hNames
      simp [joined_cons]
    · rw [List.cons_append, joined_cons (by simp), joined_cons hNames, ih hNames]
      simp

/-- A path is its segments with slashes between them. -/
theorem joined_segments (p : Text) : joined (segments p) = p := List.intercalate_splitOn '/'

/-- Names with slashes between them have these names for segments. -/
theorem segments_joined {names : List Text} (hNames : ∀ n ∈ names, '/' ∉ n)
    (h : names ≠ []) : segments (joined names) = names :=
  List.splitOn_intercalate '/' hNames h

-- ---------------------------------------------------------------------------
-- The last segment and those before it
-- ---------------------------------------------------------------------------

/-- All segments of a path but the last. -/
def front (p : Text) : List Text := (segments p).dropLast

/-- The last segment of a path: what follows its last slash. -/
def final (p : Text) : Text := (segments p).getLast (segments_ne_nil p)

/-- The segments are those of the front and the last one. -/
theorem segments_eq (p : Text) : segments p = front p ++ [final p] :=
  (List.dropLast_concat_getLast (segments_ne_nil p)).symm

/-- What stands in front of a slash belongs to the front. -/
theorem front_append_slash (a b : Text) : front (a ++ '/' :: b) = segments a ++ front b := by
  rw [front, segments_append_slash, List.dropLast_append_of_ne_nil (segments_ne_nil b), front]

/-- The last segment stands behind the last slash. -/
theorem final_append_slash (a b : Text) : final (a ++ '/' :: b) = final b := by
  simp only [final, segments_append_slash]
  exact List.getLast_append_of_ne_nil _ (segments_ne_nil b)

theorem front_slash_cons (p : Text) : front ('/' :: p) = [] :: front p := front_append_slash [] p

theorem final_slash_cons (p : Text) : final ('/' :: p) = final p := final_append_slash [] p

/-- A text without a slash has no front. -/
theorem front_of_not_mem {p : Text} (h : '/' ∉ p) : front p = [] := by
  simp [front, segments_of_not_mem h]

theorem final_of_not_mem {p : Text} (h : '/' ∉ p) : final p = p := by
  simp [final, segments_of_not_mem h]

/-- There is no slash in the last segment. -/
theorem not_mem_final (p : Text) : '/' ∉ final p :=
  not_mem_of_mem_segments (List.getLast_mem (segments_ne_nil p))

/-- A path is its segments but the last, a slash, and the last one. -/
theorem eq_joined_front_slash_final {p : Text} (h : front p ≠ []) :
    p = joined (front p) ++ '/' :: final p := by
  calc p = joined (segments p) := (joined_segments p).symm
    _ = joined (front p ++ [final p]) := by rw [segments_eq]
    _ = joined (front p) ++ '/' :: final p := joined_concat h _

/-- A path without a slash is its last segment. -/
theorem eq_final {p : Text} (h : front p = []) : p = final p := by
  calc p = joined (segments p) := (joined_segments p).symm
    _ = final p := by rw [segments_eq, h, List.nil_append, joined_singleton]

-- ---------------------------------------------------------------------------
-- Names
-- ---------------------------------------------------------------------------

/-- A segment that names something: it is neither empty nor `.` nor `..`. -/
structure IsName (n : Text) : Prop where
  ne_nil : n ≠ []
  ne_dot : n ≠ ['.']
  ne_up : n ≠ ['.', '.']
  no_slash : '/' ∉ n

instance (n : Text) : Decidable (IsName n) :=
  decidable_of_iff (n ≠ [] ∧ n ≠ ['.'] ∧ n ≠ ['.', '.'] ∧ '/' ∉ n)
    ⟨fun ⟨h₁, h₂, h₃, h₄⟩ => ⟨h₁, h₂, h₃, h₄⟩, fun ⟨h₁, h₂, h₃, h₄⟩ => ⟨h₁, h₂, h₃, h₄⟩⟩

/-- Names with a slash before each. -/
def rooted (names : List Text) : Text := names.flatMap fun n => '/' :: n

@[simp] theorem rooted_nil : rooted [] = [] := rfl

@[simp] theorem rooted_cons (n : Text) (names : List Text) :
    rooted (n :: names) = '/' :: n ++ rooted names := rfl

/-- Names behind names, each with a slash in front. -/
@[simp] theorem rooted_append (a b : List Text) : rooted (a ++ b) = rooted a ++ rooted b := by
  simp [rooted]

/-- A slash in front of each name is one in front and those between them. -/
theorem rooted_eq_slash_joined {names : List Text} (h : names ≠ []) :
    rooted names = '/' :: joined names := by
  induction names with
  | nil => exact absurd rfl h
  | cons n names ih =>
    by_cases hNames : names = []
    · simp [hNames]
    · rw [rooted_cons, ih hNames, joined_cons hNames]
      rfl

/-- The path made of names has these names for segments, behind the empty one of the root. -/
theorem segments_rooted {names : List Text} (hNames : ∀ n ∈ names, IsName n) :
    segments (rooted names) = [] :: names := by
  by_cases h : names = []
  · subst h
    rfl
  · rw [rooted_eq_slash_joined h, segments_slash_cons,
      segments_joined (fun n hn => (hNames n hn).no_slash) h]

/-- Before its last segment a path has names only, if a slash before it brings about no `//`, `/./`
or `/../`. With the first segment gone, the rest and the slash before it have the same property. -/
theorem isName_of_mem_front {p : Text} (hEmpty : ¬ ['/', '/'] <:+: '/' :: p)
    (hDot : ¬ ['/', '.', '/'] <:+: '/' :: p) (hUp : ¬ ['/', '.', '.', '/'] <:+: '/' :: p) :
    ∀ n ∈ front p, IsName n := by
  induction p using segmentInduction with
  | single p hSlash => simp [front_of_not_mem hSlash]
  | slash first rest hFirst ih =>
    have hSuffix : '/' :: rest <:+: '/' :: (first ++ '/' :: rest) :=
      ⟨'/' :: first, [], by simp⟩
    intro n hn
    rw [front_append_slash, segments_of_not_mem hFirst, List.mem_append, List.mem_singleton] at hn
    rcases hn with rfl | hn
    · refine ⟨?_, ?_, ?_, hFirst⟩
      · rintro rfl
        exact hEmpty ⟨[], rest, rfl⟩
      · rintro rfl
        exact hDot ⟨[], rest, rfl⟩
      · rintro rfl
        exact hUp ⟨[], rest, rfl⟩
    · exact ih (fun h => hEmpty (h.trans hSuffix)) (fun h => hDot (h.trans hSuffix))
        (fun h => hUp (h.trans hSuffix)) n hn

end PathJail.Path
