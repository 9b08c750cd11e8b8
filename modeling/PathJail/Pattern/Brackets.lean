import PathJail.Pattern.Escape

/-!
# Brackets in patterns

Brackets hold characters, ranges of them, sets by name, further brackets, and between those the
operators `&&`, `--` and `~~`, all of one rank and read from the left.

* `readBrackets` — a set in brackets, up to the closing one.
-/

namespace PathJail.Pattern

/-! ## Members -/

/-- Members read so far, the last one first, and the piece that they take. -/
structure Members where
  span : Span
  reversed : List ClassSet := []

namespace Members

def push (members : Members) (set : ClassSet) : Members :=
  ⟨⟨if members.reversed.isEmpty then set.span.start else members.span.start, set.span.stop⟩,
    set :: members.reversed⟩

def toSet (members : Members) : ClassSet :=
  match members.reversed with
  | [] => .empty members.span
  | [only] => only
  | reversed => .union members.span reversed.reverse

end Members

/-- Brackets that are not closed yet. -/
structure Level where
  /-- The opening, with what belongs to it. -/
  opening : Span
  negated : Bool
  /-- What stands before the last operator. -/
  left : Option ClassSet := none
  members : Members

namespace Level

/-- All that was read between the brackets. -/
def toSet (level : Level) : ClassSet :=
  let right := level.members.toSet
  match level.left with
  | none => right
  | some left => .operation ⟨left.span.start, right.span.stop⟩ left right

def push (level : Level) (set : ClassSet) : Level :=
  { level with members := level.members.push set }

end Level

/-- A place between brackets: those around it, the innermost first. -/
structure BracketScan where
  scan : Scan
  level : Level
  outer : List Level := []

/-! ## The opening -/

/-- The hyphens at the front, which stand for themselves. -/
def readHyphens (start : Nat) (members : Members) (s : Scan) : Except Fault (Members × Scan) :=
  match _h : s.rest with
  | [] => fail .classUnclosed ⟨start, start⟩
  | c :: _ =>
    if c = '-' then
      readHyphens start (members.push (.atom (.literal ⟨s.next, '-', false⟩))) s.advance
    else .ok (members, s)
termination_by s.rest.length
decreasing_by
  have := Scan.length_advance_lt (s := s) (by simp [_h])
  simpa [_h] using this

/-- An opening bracket, with `^`, the hyphens and the closing bracket that stand for themselves
behind it; `s` is at the bracket. -/
def openBrackets (s : Scan) : Except Fault (Level × Scan) := do
  let start := s.offset
  let behind := s.advance
  if behind.rest = [] then fail .classUnclosed (behind.since start)
  let negated := behind.rest.head? = some '^'
  let front := if negated then behind.advance else behind
  if front.rest = [] then fail .classUnclosed (front.since start)
  let (members, after) ← readHyphens start ⟨front.here, []⟩ front
  if members.reversed.isEmpty && after.rest.head? = some ']' then
    let behind := after.advance
    if behind.rest = [] then fail .classUnclosed (behind.since start)
    let members := members.push (.atom (.literal ⟨after.next, ']', false⟩))
    return (⟨behind.since start, negated, none, members⟩, behind)
  return (⟨after.since start, negated, none, members⟩, after)

/-! ## Single members -/

/-- The names of sets. -/
def setNames : List String :=
  ["alnum", "alpha", "ascii", "blank", "cntrl", "digit", "graph", "lower", "print", "punct",
    "space", "upper", "word", "xdigit"]

/-- A set by its name, as `[:alpha:]`, or with `^` before the name all but it: whether that is so,
and what follows. -/
def namedSet? : Text → Option (Bool × Text)
  | '[' :: ':' :: t =>
    let negated := t.head? = some '^'
    let name := if negated then t.tail else t
    match name.dropWhile (· ≠ ':') with
    | ':' :: ']' :: rest =>
      if String.ofList (name.takeWhile (· ≠ ':')) ∈ setNames then some (negated, rest) else none
    | _ => none
  | _ => none

/-- The first character of a text that means something in a loose pattern; a comment ends only with
the first such character in it. -/
def firstMeaning (inComment : Bool) : Text → Option Char
  | [] => none
  | c :: t =>
    if Text.isBlank c then firstMeaning inComment t
    else if !inComment && c = '#' then firstMeaning true t
    else some c

/-- The character after the next one. -/
def Scan.peek (s : Scan) : Option Char :=
  if s.loose then firstMeaning false s.rest.tail else s.rest.tail.head?

/-- One end of a range, or a member. -/
def readMemberAtom (s : Scan) : Except Fault (Atom × Scan) :=
  match s.rest with
  | [] => fail .classUnclosed s.here
  | '\\' :: _ => readEscape s
  | c :: _ => return (.literal ⟨s.next, c, false⟩, s.bump)

/-- A single item as a member. -/
def Atom.toMember : Atom → Except Fault ClassSet
  | .literal l => .ok (.atom (.literal l))
  | .kind span negated => .ok (.atom (.kind span negated))
  | .property span => .ok (.atom (.property span))
  | .any span | .place span _ => fail .classEscape span

/-- A single item as the end of a range. -/
def Atom.toBound : Atom → Except Fault Literal
  | .literal l => .ok l
  | other => fail .rangeBound other.span

/-- A range, or a single item that begins none; `opening` are the brackets around it. -/
def readMember (opening : Span) (s : Scan) : Except Fault (ClassSet × Scan) := do
  let (first, after) ← readMemberAtom s
  let after := after.skip
  if after.rest = [] then fail .classUnclosed opening
  if after.rest.head? ≠ some '-' ∨ after.peek = some ']' ∨ after.peek = some '-' then
    return (← first.toMember, after)
  let second := after.advance
  if second.rest = [] then fail .classUnclosed opening
  let (last, after) ← readMemberAtom second
  let span : Span := ⟨first.span.start, last.span.stop⟩
  let low ← first.toBound
  let high ← last.toBound
  if high.char < low.char then fail .rangeOrder span
  return (.range span low high, after)

/-! ## Whole brackets -/

namespace BracketScan

def push (b : BracketScan) (set : ClassSet) (scan : Scan) : BracketScan :=
  { b with scan, level := b.level.push set }

/-- Closes the innermost brackets; `s` is at the closing one. The outermost brackets end the
reading. -/
def close (b : BracketScan) (s : Scan) : BracketScan ⊕ ClassSet × Scan :=
  let after := s.bump
  let set := .brackets (after.since b.level.opening.start) b.level.negated b.level.toSet
  match b.outer with
  | [] => .inr (set, after)
  | level :: outer => .inl ⟨after, level.push set, outer⟩

/-- Reads an operator; `s` is at it. -/
def operate (b : BracketScan) (s : Scan) : BracketScan :=
  let after := s.bump.bump
  { b with
    scan := after
    level := { b.level with left := some b.level.toSet, members := ⟨after.here, []⟩ } }

/-- Reads what stands at an opening bracket: a set by its name, or brackets. -/
def nest (b : BracketScan) (s : Scan) : Except Fault BracketScan :=
  match namedSet? s.rest with
  | some (negated, rest) =>
    let after := s.moveTo rest
    return b.push (.named (after.since s.offset) negated) after
  | none => do
    let (level, after) ← openBrackets s
    return ⟨after, level, b.level :: b.outer⟩

/-- Reads one thing between brackets. -/
def step (b : BracketScan) : Except Fault (BracketScan ⊕ ClassSet × Scan) :=
  let s := b.scan.skip
  match s.rest with
  | [] => fail .classUnclosed b.level.opening
  | c :: t =>
    if c = ']' then return b.close s
    else if c = '[' then .inl <$> b.nest s
    else if c ∈ ['&', '-', '~'] ∧ t.head? = some c then return .inl (b.operate s)
    else do
      let (set, after) ← readMember b.level.opening s
      return .inl (b.push set after)

/-- Reads up to the last closing bracket. Every step reads something. -/
def finish (b : BracketScan) : Except Fault (ClassSet × Scan) := do
  match ← b.step with
  | .inr found => return found
  | .inl next =>
    if _h : next.scan.rest.length < b.scan.rest.length then next.finish
    else fail .classUnclosed b.level.opening
termination_by b.scan.rest.length

end BracketScan

/-- A set in brackets; `s` is at the opening one. -/
def readBrackets (s : Scan) : Except Fault (ClassSet × Scan) := do
  let (level, after) ← openBrackets s
  BracketScan.finish ⟨after, level, []⟩

end PathJail.Pattern
