import PathJail.Pattern.Brackets
import PathJail.Text.Alphanumeric

/-!
# Reading patterns

A pattern is a choice of sequences, with groups in round brackets, and an operator of repetition
stands behind what it repeats. Groups may have names, no two the same, or flags.

* `Pattern.read` — the pattern that a text spells, or the first fault in it.
-/

namespace PathJail.Pattern

/-! ## Layers -/

/-- What was read of a group, or outside all groups. -/
structure Layer where
  /-- Where its first sequence begins. -/
  start : Nat
  /-- The sequences that are complete, the last one first. -/
  branches : List Pattern := []
  /-- Where the sequence begins that is being read. -/
  branchStart : Nat
  /-- The parts of that, the last one first. -/
  parts : List Pattern := []

namespace Layer

def beginAt (start : Nat) : Layer := { start, branchStart := start }

def push (layer : Layer) (part : Pattern) : Layer := { layer with parts := part :: layer.parts }

/-- The sequence that is being read, as one that ends. -/
def branch (layer : Layer) (stop : Nat) : Pattern :=
  match layer.parts with
  | [] => .empty ⟨layer.branchStart, stop⟩
  | [only] => only
  | parts => .sequence ⟨layer.branchStart, stop⟩ parts.reverse

/-- Goes on to the next sequence of a choice. -/
def split (layer : Layer) (stop next : Nat) : Layer :=
  { layer with branches := layer.branch stop :: layer.branches, branchStart := next, parts := [] }

/-- All that was read. -/
def finish (layer : Layer) (stop : Nat) : Pattern :=
  match layer.branches with
  | [] => layer.branch stop
  | branches => .choice ⟨layer.start, stop⟩ (branches.reverse ++ [layer.branch stop])

end Layer

/-- A group that is not closed yet, and what it interrupted. -/
structure OpenGroup where
  opening : Span
  flags : List Char
  /-- Whether the pattern around it is loose. -/
  loose : Bool
  around : Layer

/-- A place in a pattern: the groups around it, the innermost first, and the names given before. -/
structure GroupScan where
  scan : Scan
  layer : Layer
  outer : List OpenGroup := []
  names : List (Text × Span) := []

/-! ## Repetitions -/

/-- The last part of a layer and the layer without it, if the part can be repeated. -/
def Layer.last? (layer : Layer) : Option (Pattern × Layer) :=
  match layer.parts with
  | [] | .empty _ :: _ | .flags _ _ :: _ => none
  | part :: parts => some (part, { layer with parts })

/-- Repeats the last part; `s` is at the operator, which a question mark may follow. -/
def GroupScan.repeatLast (g : GroupScan) (s : Scan) : Except Fault GroupScan :=
  match g.layer.last? with
  | none => fail .nothingRepeated s.here
  | some (part, layer) =>
    let after := if s.bump.rest.head? = some '?' then s.bump.bump else s.bump
    return { g with
      scan := after, layer := layer.push (.repetition (after.since part.span.start) part) }

/-- The largest count of a repetition. -/
def maxCount : Nat := 0xffffffff

/-- What is wrong with a count in braces: it does not end. `s` is at the opening brace. -/
def countFault (s : Scan) : Fault :=
  let front := s.advance
  if front.rest = [] then ⟨.countUnclosed, front.since s.offset, none⟩
  else
    let first := front.moveTo (front.rest.dropWhile Text.isBlank)
    let (digits, behind) := first.takeWhile Char.isDigit
    let after := (behind.takeWhile Text.isBlank).2
    if after.rest = [] then ⟨.countUnclosed, after.since s.offset, none⟩
    else if digits = [] then ⟨.countEmpty, behind.since first.offset, none⟩
    else if maxCount < Text.natOfDigits digits then
      ⟨.countTooLarge, behind.since first.offset, none⟩
    else ⟨.countUnclosed, after.since s.offset, none⟩

/-! ## The beginning of a group -/

/-- Whether a character may stand in the name of a group. -/
def isNameChar (first : Bool) (c : Char) : Bool :=
  c = '_' || (if first then Text.isAlphabetic c
    else c ∈ ['.', '[', ']'] || Text.isAlphanumeric c)

/-- The name of a group and the place behind its `>`; `s` is at the name. -/
def readName (names : List (Text × Span)) (s : Scan) : Except Fault (Text × Span × Scan) := do
  let name := s.rest.takeWhile (· ≠ '>')
  let behind := s.moveTo (s.rest.dropWhile (· ≠ '>'))
  match name.zipIdx.find? fun (c, i) => !isNameChar (i = 0) c with
  | some (_, i) => fail .nameCharacter ⟨s.offset + i, s.offset + i + 1⟩
  | none => pure ()
  if behind.rest = [] then fail .nameUnfinished behind.here
  if name = [] then fail .nameEmpty s.here
  let span := behind.since s.offset
  match names.lookup name with
  | some earlier => throw ⟨.nameTwice, span, some earlier⟩
  | none => return (name, span, behind.bump)

/-- The flags there are. -/
def flagLetters : List Char := ['i', 'm', 's', 'U', 'u', 'R', 'x']

/-- Flags up to a colon or a closing bracket, and that with what follows it. Each is given with the
number of characters before it; those read already stand in `flags`, the last one first. -/
def readFlags (flags : List (Char × Nat)) (offset : Nat) :
    Text → Except Fault (List (Char × Nat) × Text)
  | [] => fail .flagsUnfinished ⟨offset, offset⟩
  | c :: t =>
    if c = ':' ∨ c = ')' then
      match flags with
      | ('-', i) :: _ => fail .flagsDangling ⟨i, i + 1⟩
      | _ => return (flags.reverse, c :: t)
    else if c ≠ '-' ∧ c ∉ flagLetters then fail .flagUnknown ⟨offset, offset + 1⟩
    else match flags.lookup c with
      | some i =>
        throw ⟨if c = '-' then .negationTwice else .flagTwice, ⟨offset, offset + 1⟩,
          some ⟨i, i + 1⟩⟩
      | none => readFlags ((c, offset) :: flags) (offset + 1) t

/-- What the beginnings of groups that look around have behind the bracket. -/
def lookArounds : List Text :=
  [['?', '='], ['?', '!'], ['?', '<', '='], ['?', '<', '!']]

namespace GroupScan

/-- Goes into a group that begins at `start`. -/
def enter (g : GroupScan) (start : Nat) (flags : List Char) (after : Scan) : GroupScan :=
  let opened : OpenGroup := ⟨⟨start, start + 1⟩, flags, after.loose, g.layer⟩
  let loose := (flagValue? flags 'x').getD after.loose
  { g with
    scan := { after with loose }, layer := .beginAt after.offset, outer := opened :: g.outer }

/-- Reads flags, for a group of their own or for what follows in this one; `s` is at the question
mark. -/
def readFlagGroup (g : GroupScan) (start : Nat) (s : Scan) : Except Fault GroupScan := do
  let first := s.bump
  if first.rest = [] then fail .groupUnclosed ⟨start, start + 1⟩
  let (given, rest) ← readFlags [] first.offset first.rest
  let after := first.moveTo rest.tail
  let letters := given.map Prod.fst
  if rest.head? = some ':' then return g.enter start letters after
  if letters = [] then fail .nothingRepeated s.here
  let loose := (flagValue? letters 'x').getD after.loose
  return { g with
    scan := { after with loose }, layer := g.layer.push (.flags (after.since start) letters) }

/-- Reads the beginning of a group; `s` is at its bracket. -/
def readGroup (g : GroupScan) (s : Scan) : Except Fault GroupScan := do
  let start := s.offset
  let first := s.advance
  match lookArounds.findSome? fun front => Text.after? front first.rest with
  | some rest => fail .lookAround ((first.moveTo rest).since start)
  | none => pure ()
  let named? := (Text.after? ['?', 'P', '<'] first.rest).or (Text.after? ['?', '<'] first.rest)
  match named? with
  | some rest =>
    let (name, span, after) ← readName g.names (first.moveTo rest)
    return { g with names := (name, span) :: g.names }.enter start [] after
  | none =>
    if first.rest.head? = some '?' then g.readFlagGroup start first
    else return g.enter start [] first

/-! ## Whole patterns -/

/-- Closes the innermost group; `s` is at the bracket. -/
def close (g : GroupScan) (s : Scan) : Except Fault GroupScan :=
  match g.outer with
  | [] => fail .groupUnopened s.next
  | opened :: outer =>
    let after := { s.bump with loose := opened.loose }
    let inner := g.layer.finish s.offset
    let closed := .group (after.since opened.opening.start) opened.flags inner
    return { g with scan := after, layer := opened.around.push closed, outer }

/-- Reads one thing, of which `c` is the first character. -/
def step (g : GroupScan) (c : Char) (s : Scan) : Except Fault GroupScan :=
  if c = '(' then g.readGroup s
  else if c = ')' then g.close s
  else if c = '|' then
    return { g with scan := s.bump, layer := g.layer.split s.offset s.bump.offset }
  else if c = '[' then do
    let (set, after) ← readBrackets s
    return { g with scan := after, layer := g.layer.push (.brackets set) }
  else if c ∈ ['?', '*', '+'] then g.repeatLast s
  else if c = '{' then
    match g.layer.last? with
    | none => fail .nothingRepeated s.here
    | some _ => .error (countFault s)
  else do
    let (item, after) ← readAtom c s
    return { g with scan := after, layer := g.layer.push (.atom item) }

/-- Reads up to the end, where no group may be open. Every step reads something. -/
def finish (g : GroupScan) : Except Fault Pattern := do
  let s := g.scan.skip
  match s.rest, g.outer with
  | [], [] => return g.layer.finish s.offset
  | [], opened :: _ => fail .groupUnclosed opened.opening
  | c :: _, _ =>
    let next ← g.step c s
    if _h : next.scan.rest.length < g.scan.rest.length then next.finish
    else fail .groupUnclosed s.here
termination_by g.scan.rest.length

end GroupScan

/-- The pattern that a text spells. -/
def read (text : Text) : Except Fault Pattern :=
  GroupScan.finish ⟨⟨text.length, text, false⟩, .beginAt 0, [], []⟩

end PathJail.Pattern
