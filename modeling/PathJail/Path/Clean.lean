import PathJail.Path.Basic

/-!
# Canonical paths

`clean` simplifies a path without asking any file system: no doubled slash, no `.` and no `..`
segment stays where text alone can remove it. It knows no base; a leading `..` is dropped here, and
what such a step may reach is decided where the base is known.

The definition is an ordered list of rules, each replacing one piece of the text. The first rule
that applies is carried out, until none does. Every rule shortens the path
(`simplify?_shortens`), so this ends, and the result is one that no rule changes
(`simplify?_clean`).

* `rules`, `simplify?` — the eight rules and the first step that one of them makes.
* `clean`              — the path when no rule is left to apply.
* `clean_clean`        — cleaning twice is cleaning once.
-/

namespace PathJail.Path

/-! ## Finding a piece -/

/-- The text before and after the first occurrence of `piece`. -/
def splitFirst (piece : Text) : Text → Option (Text × Text)
  | [] => (Text.after? piece []).map fun rest => ([], rest)
  | c :: cs =>
    match Text.after? piece (c :: cs) with
    | some rest => some ([], rest)
    | none => (splitFirst piece cs).map fun found => (c :: found.1, found.2)

theorem append_of_splitFirst {piece p before after : Text}
    (h : splitFirst piece p = some (before, after)) : p = before ++ piece ++ after := by
  induction p generalizing before after with
  | nil =>
    simp only [splitFirst, Option.map_eq_some_iff, Prod.mk.injEq] at h
    obtain ⟨rest, hrest, rfl, rfl⟩ := h
    simpa using Text.after?_eq_some_iff.mp hrest
  | cons c cs ih =>
    rw [splitFirst] at h
    split at h
    · rename_i rest hrest
      simp only [Option.some.injEq, Prod.mk.injEq] at h
      obtain ⟨rfl, rfl⟩ := h
      simpa using Text.after?_eq_some_iff.mp hrest
    · simp only [Option.map_eq_some_iff, Prod.mk.injEq] at h
      obtain ⟨found, hfound, rfl, rfl⟩ := h
      simp only [ih hfound, List.cons_append]

/-- The text up to and with the last slash. -/
def throughSlash (p : Text) : Option Text := (splitLast p).map fun found => found.1 ++ ['/']

theorem length_throughSlash {p dir : Text} (h : throughSlash p = some dir) :
    dir.length ≤ p.length := by
  simp only [throughSlash, Option.map_eq_some_iff] at h
  obtain ⟨found, hfound, rfl⟩ := h
  rw [(append_of_splitLast hfound).1]
  simp

/-! ## The rules -/

/-- `//` becomes `/`. -/
def joinSlashes (p : Text) : Option Text :=
  (splitFirst ['/', '/'] p).map fun found => found.1 ++ '/' :: found.2

/-- `/./` becomes `/`. -/
def skipDot (p : Text) : Option Text :=
  (splitFirst ['/', '.', '/'] p).map fun found => found.1 ++ '/' :: found.2

/-- `../` at the start says nothing without a base. -/
def dropLeadingUp (p : Text) : Option Text := Text.after? ['.', '.', '/'] p

/-- `/../` at the start has nothing to cancel. -/
def dropUpAtRoot (p : Text) : Option Text :=
  (Text.after? ['/', '.', '.', '/'] p).map fun rest => '/' :: rest

/-- `name/../` cancels. -/
def cancelUp (p : Text) : Option Text :=
  (splitFirst ['/', '.', '.', '/'] p).map fun found =>
    (throughSlash found.1).getD [] ++ found.2

/-- `./` at the start says nothing. -/
def dropLeadingDot (p : Text) : Option Text := Text.after? ['.', '/'] p

/-- `/.` at the end leaves the slash. -/
def dropDotAtEnd (p : Text) : Option Text :=
  (Text.before? ['/', '.'] p).map fun front => front ++ ['/']

/-- `name/..` at the end cancels and leaves the slash before it, or the root. -/
def cancelUpAtEnd (p : Text) : Option Text :=
  (Text.before? ['/', '.', '.'] p).map fun front => (throughSlash front).getD ['/']

/-- The rules, the more urgent ones first. -/
def rules : List (Text → Option Text) :=
  [joinSlashes, skipDot, dropLeadingUp, dropUpAtRoot, cancelUp, dropLeadingDot, dropDotAtEnd,
    cancelUpAtEnd]

/-- The step that the first applicable rule makes. -/
def simplify? (p : Text) : Option Text := rules.findSome? fun rule => rule p

/-! ## Every rule shortens -/

theorem length_of_splitFirst {piece p before after : Text}
    (h : splitFirst piece p = some (before, after)) :
    p.length = before.length + piece.length + after.length := by
  rw [append_of_splitFirst h, List.length_append, List.length_append]

private theorem length_of_after? {piece p rest : Text} (h : Text.after? piece p = some rest) :
    p.length = piece.length + rest.length := by
  rw [Text.after?_eq_some_iff.mp h, List.length_append]

private theorem length_of_before? {piece p front : Text} (h : Text.before? piece p = some front) :
    p.length = front.length + piece.length := by
  rw [Text.before?_eq_some_iff.mp h, List.length_append]

private theorem length_getD_throughSlash_le (front other : Text) :
    ((throughSlash front).getD other).length ≤ max front.length other.length := by
  cases h : throughSlash front with
  | none => simp only [Option.getD_none]; omega
  | some dir =>
    have := length_throughSlash h
    simp only [Option.getD_some]
    omega

theorem simplify?_shortens {p q : Text} (h : simplify? p = some q) : q.length < p.length := by
  obtain ⟨rule, hrule, hq⟩ := List.exists_of_findSome?_eq_some h
  simp only [rules, List.mem_cons, List.not_mem_nil, or_false] at hrule
  rcases hrule with rfl | rfl | rfl | rfl | rfl | rfl | rfl | rfl
  · obtain ⟨found, hf, rfl⟩ := Option.map_eq_some_iff.mp hq
    have hp := length_of_splitFirst hf
    simp only [List.length_append, List.length_cons, List.length_nil] at *
    omega
  · obtain ⟨found, hf, rfl⟩ := Option.map_eq_some_iff.mp hq
    have hp := length_of_splitFirst hf
    simp only [List.length_append, List.length_cons, List.length_nil] at *
    omega
  · have hp := length_of_after? hq
    simp only [List.length_cons, List.length_nil] at hp
    omega
  · obtain ⟨rest, hr, rfl⟩ := Option.map_eq_some_iff.mp hq
    have hp := length_of_after? hr
    simp only [List.length_cons, List.length_nil] at *
    omega
  · obtain ⟨found, hf, rfl⟩ := Option.map_eq_some_iff.mp hq
    have hp := length_of_splitFirst hf
    have := length_getD_throughSlash_le found.1 []
    simp only [List.length_append, List.length_cons, List.length_nil] at *
    omega
  · have hp := length_of_after? hq
    simp only [List.length_cons, List.length_nil] at hp
    omega
  · obtain ⟨front, hf, rfl⟩ := Option.map_eq_some_iff.mp hq
    have hp := length_of_before? hf
    simp only [List.length_append, List.length_cons, List.length_nil] at *
    omega
  · obtain ⟨front, hf, rfl⟩ := Option.map_eq_some_iff.mp hq
    have hp := length_of_before? hf
    have := length_getD_throughSlash_le front ['/']
    simp only [List.length_cons, List.length_nil] at *
    omega

/-! ## Cleaning -/

/-- The canonical form of a path: the rules applied until none is left to apply. -/
def clean (p : Text) : Text :=
  match _h : simplify? p with
  | none => p
  | some q => clean q
termination_by p.length
decreasing_by exact simplify?_shortens _h

/-- A path that no rule changes is already clean. -/
theorem clean_of_simplify?_eq_none {p : Text} (h : simplify? p = none) : clean p = p := by
  rw [clean]
  split
  · rfl
  · simp_all

theorem clean_of_simplify?_eq_some {p q : Text} (h : simplify? p = some q) :
    clean p = clean q := by
  rw [clean]
  split
  · simp_all
  · simp_all

/-- No rule changes a clean path. -/
theorem simplify?_clean (p : Text) : simplify? (clean p) = none := by
  fun_induction clean p with
  | case1 p h => exact h
  | case2 p q h ih => exact ih

theorem clean_clean (p : Text) : clean (clean p) = clean p :=
  clean_of_simplify?_eq_none (simplify?_clean p)

end PathJail.Path
