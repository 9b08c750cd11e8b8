import PathJail.Text.Basic

/-!
# Patterns

A pattern says which texts a value may be. What is held of one here is its shape, and where in the
text each piece of it stands: enough to tell whether the pattern is in order. What the pieces match
is held only where that can make the pattern wrong.

* `Span`     — a piece of the text of a pattern.
* `Atom`     — a single item, in brackets or outside.
* `ClassSet` — what stands in brackets.
* `Pattern`  — the whole.
-/

namespace PathJail

/-- A piece of a text, by the number of characters before its first and before its end. -/
structure Span where
  start : Nat
  stop : Nat
  deriving DecidableEq, Repr

namespace Pattern

/-! ## Single items -/

/-- A character that stands for itself. -/
structure Literal where
  span : Span
  char : Char
  /-- Whether it is written as `\x` and two digits, which can also mean a byte. -/
  asByte : Bool := false
  deriving DecidableEq, Repr

inductive Atom
  | literal (literal : Literal)
  /-- Any character, written as a point. -/
  | any (span : Span)
  /-- A place in the text; `word` is for those where words begin or end. -/
  | place (span : Span) (word : Bool)
  /-- Digits, white space or the characters of words, as `\d`, or all others, as `\D`. -/
  | kind (span : Span) (negated : Bool)
  /-- The characters with a property that a letter names. -/
  | property (span : Span)
  deriving DecidableEq, Repr

def Atom.span : Atom → Span
  | .literal l => l.span
  | .any span | .place span _ | .kind span _ | .property span => span

/-! ## Brackets -/

inductive ClassSet
  /-- Nothing between brackets or operators. -/
  | empty (span : Span)
  | atom (atom : Atom)
  | range (span : Span) (first last : Literal)
  /-- A set that is called by a name, as `[:alpha:]`. -/
  | named (span : Span) (negated : Bool)
  | brackets (span : Span) (negated : Bool) (inner : ClassSet)
  | union (span : Span) (members : List ClassSet)
  /-- What is in both sides, in the left alone, or in just one of them. -/
  | operation (span : Span) (left right : ClassSet)

def ClassSet.span : ClassSet → Span
  | .atom a => a.span
  | .empty span | .range span _ _ | .named span _ | .brackets span _ _ | .union span _
  | .operation span _ _ => span

end Pattern

/-! ## Patterns -/

/-- A pattern. Flags are held as they are written, with `-` before those that are taken back. -/
inductive Pattern
  | empty (span : Span)
  /-- Flags for what follows in the same group. -/
  | flags (span : Span) (flags : List Char)
  | atom (atom : Pattern.Atom)
  | brackets (set : Pattern.ClassSet)
  | repetition (span : Span) (inner : Pattern)
  | group (span : Span) (flags : List Char) (inner : Pattern)
  | sequence (span : Span) (parts : List Pattern)
  | choice (span : Span) (branches : List Pattern)

namespace Pattern

def span : Pattern → Span
  | .atom a => a.span
  | .brackets set => set.span
  | .empty span | .flags span _ | .repetition span _ | .group span _ _ | .sequence span _
  | .choice span _ => span

/-- What flags say about one of them: nothing if it is not there, and else whether it stands before
the `-`. -/
def flagValue? (flags : List Char) (flag : Char) : Option Bool :=
  if flag ∈ flags then some (flag ∈ flags.takeWhile (· ≠ '-')) else none

end Pattern

end PathJail
