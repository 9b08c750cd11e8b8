import PathJail.Pattern.Fault
import PathJail.Text.Blank

/-!
# Reading a pattern

A pattern is read from the left. A place in it is what is still to be read; with the length of the
whole that gives the number of characters before the place. In a loose pattern white space and
comments mean nothing, except where a name or a group is being spelled.

* `Scan.bump`    — behind the next character.
* `Scan.skip`    — behind white space and comments, if the pattern is loose.
* `Scan.advance` — both, and `length_advance_lt`: that leaves less to read.
-/

namespace PathJail.Pattern

/-- A place in a pattern that is being read. -/
structure Scan where
  /-- Number of characters of the whole pattern. -/
  total : Nat
  /-- What is still to be read. -/
  rest : Text
  /-- Whether white space and comments are passed over. -/
  loose : Bool := false

/-- A fault at a piece of the pattern. -/
def fail {α : Type} (flaw : Flaw) (span : Span) : Except Fault α := .error ⟨flaw, span, none⟩

namespace Scan

/-- Number of characters before the place. -/
def offset (s : Scan) : Nat := s.total - s.rest.length

/-- The place itself, which has no characters. -/
def here (s : Scan) : Span := ⟨s.offset, s.offset⟩

/-- The next character. -/
def next (s : Scan) : Span := ⟨s.offset, s.offset + 1⟩

/-- What stands between an earlier place and this one. -/
def since (s : Scan) (start : Nat) : Span := ⟨start, s.offset⟩

/-- The same pattern with less of it to read. -/
def moveTo (s : Scan) (rest : Text) : Scan := { s with rest }

def bump (s : Scan) : Scan := s.moveTo s.rest.tail

/-- A text behind its white space and comments. A comment goes from `#` to the end of its line. -/
def dropLoose : (inComment : Bool) → Text → Text
  | _, [] => []
  | true, c :: t => dropLoose (c ≠ '\n') t
  | false, c :: t =>
    if Text.isBlank c then dropLoose false t
    else if c = '#' then dropLoose true t
    else c :: t

theorem length_dropLoose (inComment : Bool) (t : Text) :
    (dropLoose inComment t).length ≤ t.length := by
  induction t generalizing inComment with
  | nil => simp [dropLoose]
  | cons c t ih =>
    cases inComment with
    | true =>
      have := ih (c ≠ '\n')
      simp only [dropLoose, List.length_cons]
      omega
    | false =>
      have comment := ih true
      have blank := ih false
      simp only [dropLoose]
      split
      · simp only [List.length_cons]; omega
      · split
        · simp only [List.length_cons]; omega
        · exact Nat.le_refl _

def skip (s : Scan) : Scan := if s.loose then s.moveTo (dropLoose false s.rest) else s

/-- Behind the next character and what means nothing behind it. -/
def advance (s : Scan) : Scan := s.bump.skip

theorem length_advance_lt {s : Scan} (h : s.rest ≠ []) :
    s.advance.rest.length < s.rest.length := by
  have shorter : s.rest.tail.length < s.rest.length := by
    have := List.length_pos_iff.mpr h
    simp only [List.length_tail]
    omega
  unfold advance skip bump
  split
  · exact Nat.lt_of_le_of_lt (length_dropLoose _ _) shorter
  · exact shorter

/-- The characters with a property from the place on, and the place behind them. -/
def takeWhile (p : Char → Bool) (s : Scan) : Text × Scan :=
  match _h : s.rest with
  | [] => ([], s)
  | c :: _ =>
    if p c then
      let (taken, after) := s.advance.takeWhile p
      (c :: taken, after)
    else ([], s)
termination_by s.rest.length
decreasing_by
  have := length_advance_lt (s := s) (by simp [_h])
  simpa [_h] using this

end Scan

end PathJail.Pattern
