import PathJail.Pattern.Reader

/-!
# Patterns in order

A pattern that can be spelled may still not be usable. Its brackets may be nested too deep; with the
flags that are set at a place, an item may stand for something that is no text, or for something
that only tables of Unicode tell, which are not at hand; and where words of all scripts begin and
end cannot be found by the machine that a pattern is made into.

* `Pattern.tooDeep?` — the first piece inside too many others.
* `Pattern.survey`   — goes through a pattern with the flags that are set.
* `Pattern.problem?` — what is wrong with the text of a pattern, if anything is.
-/

namespace PathJail.Pattern

/-! ## Depth

Brackets of both kinds, repetitions, sequences and choices all count. `room` is how many more may
stand inside one another. -/

/-- How many pieces may stand inside one another. -/
def maxDepth : Nat := 250

mutual

/-- The first piece of a set for which there is no room. -/
def ClassSet.tooDeep? (room : Nat) : ClassSet → Option Span
  | .empty _ | .atom _ | .range _ _ _ | .named _ _ => none
  | .brackets span _ inner => if room = 0 then some span else inner.tooDeep? (room - 1)
  | .union span members => if room = 0 then some span else ClassSet.anyTooDeep? (room - 1) members
  | .operation span left right =>
    if room = 0 then some span
    else (left.tooDeep? (room - 1)).or (right.tooDeep? (room - 1))

/-- The first piece of several sets for which there is no room. -/
def ClassSet.anyTooDeep? (room : Nat) : List ClassSet → Option Span
  | [] => none
  | set :: sets => (set.tooDeep? room).or (ClassSet.anyTooDeep? room sets)

end

mutual

/-- The first piece of a pattern for which there is no room. -/
def tooDeep? (room : Nat) : Pattern → Option Span
  | .empty _ | .flags _ _ | .atom _ => none
  | .brackets set => set.tooDeep? room
  | .repetition span inner | .group span _ inner =>
    if room = 0 then some span else inner.tooDeep? (room - 1)
  | .sequence span parts | .choice span parts =>
    if room = 0 then some span else anyTooDeep? (room - 1) parts

/-- The first piece of several patterns for which there is no room. -/
def anyTooDeep? (room : Nat) : List Pattern → Option Span
  | [] => none
  | part :: parts => (part.tooDeep? room).or (anyTooDeep? room parts)

end

/-! ## Flags -/

/-- The flags that decide what items stand for. -/
structure Mode where
  ignoreCase : Bool := false
  /-- Whether characters are matched, or else bytes. -/
  unicode : Bool := true

def Mode.set (mode : Mode) (flags : List Char) : Mode :=
  { ignoreCase := (flagValue? flags 'i').getD mode.ignoreCase
    unicode := (flagValue? flags 'u').getD mode.unicode }

/-! ## Items

A text is valid UTF-8, so where bytes are matched nothing may stand for a byte beyond ASCII. -/

/-- A character written as a byte, where bytes are matched. -/
def Literal.check (mode : Mode) (l : Literal) : Except Fault Unit :=
  if !mode.unicode && l.asByte && 0x80 ≤ l.char.toNat then fail .invalidUtf8 l.span else .ok ()

/-- A set of digits, white space or characters of words. -/
def checkKind (mode : Mode) (span : Span) (negated : Bool) : Except Fault Unit :=
  if mode.unicode then fail .kindUnavailable span
  else if negated then fail .invalidUtf8 span
  else .ok ()

def checkProperty (mode : Mode) (span : Span) : Except Fault Unit :=
  fail (if mode.unicode then .propertyUnknown else .unicodeHere) span

/-- A single item outside brackets. -/
def Atom.check (mode : Mode) : Atom → Except Fault Unit
  | .literal l =>
    if mode.unicode && mode.ignoreCase then fail .caseUnavailable l.span else l.check mode
  | .any span => if mode.unicode then .ok () else fail .invalidUtf8 span
  | .place _ _ => .ok ()
  | .kind span negated => checkKind mode span negated
  | .property span => checkProperty mode span

/-- A character in brackets. -/
def Literal.checkMember (mode : Mode) (l : Literal) : Except Fault Unit := do
  l.check mode
  if !mode.unicode && 0x80 ≤ l.char.toNat then fail .unicodeHere l.span

/-! ## Sets

Where case is ignored a set takes in the other cases of its characters. That happens to brackets, to
sets by name and to the sides of an operator, and can be done to a set without characters alone. -/

/-- Whether characters were met whose other cases are not taken in yet; takes them in. -/
def takeCases (mode : Mode) (span : Span) (open? : Bool) : Except Fault Bool :=
  if mode.unicode && mode.ignoreCase then
    if open? then fail .caseUnavailable span else .ok false
  else .ok open?

/-- Brackets or a name around a set, which may turn it into all that is not in it. -/
def enclose (mode : Mode) (span : Span) (negated open? : Bool) : Except Fault Bool :=
  if !mode.unicode && negated then fail .invalidUtf8 span else takeCases mode span open?

mutual

/-- Goes through a set: whether characters were met whose other cases are not taken in. -/
def ClassSet.survey (mode : Mode) : ClassSet → Except Fault Bool
  | .empty _ => .ok false
  | .atom (.literal l) => do
    l.checkMember mode
    return true
  | .atom a => do
    a.check mode
    return true
  | .range _ first last => do
    first.checkMember mode
    last.checkMember mode
    return true
  | .named span negated => enclose mode span negated true
  | .brackets span negated inner => do enclose mode span negated (← inner.survey mode)
  | .union _ members => ClassSet.surveyAll mode members
  | .operation _ left right => do
    let inLeft ← left.survey mode
    let inRight ← right.survey mode
    let inRight ← takeCases mode right.span inRight
    let inLeft ← takeCases mode left.span inLeft
    return inLeft || inRight

/-- Goes through several sets. -/
def ClassSet.surveyAll (mode : Mode) : List ClassSet → Except Fault Bool
  | [] => .ok false
  | set :: sets => do
    let first ← set.survey mode
    let others ← ClassSet.surveyAll mode sets
    return first || others

end

/-! ## Patterns -/

/-- What is known where a pattern was gone through. -/
structure Survey where
  mode : Mode := {}
  /-- Whether the ends of words of all scripts are asked for. -/
  wordEnds : Bool := false

mutual

/-- Goes through a pattern. Flags hold up to the end of the group that they are set in. -/
def survey (s : Survey) : Pattern → Except Fault Survey
  | .empty _ => .ok s
  | .flags _ given => .ok { s with mode := s.mode.set given }
  | .atom (.place _ word) => .ok { s with wordEnds := s.wordEnds || (word && s.mode.unicode) }
  | .atom a => do
    a.check s.mode
    return s
  | .brackets set => do
    let _ ← set.survey s.mode
    return s
  | .repetition _ inner => inner.survey s
  | .group _ given inner => do
    let after ← inner.survey { s with mode := s.mode.set given }
    return { after with mode := s.mode }
  | .sequence _ parts | .choice _ parts => surveyAll s parts

/-- Goes through several patterns. -/
def surveyAll (s : Survey) : List Pattern → Except Fault Survey
  | [] => .ok s
  | part :: parts => do surveyAll (← part.survey s) parts

end

/-! ## Texts -/

/-- What is wrong with the text of a pattern. -/
inductive Problem
  | faulty (fault : Fault)
  /-- It asks for the ends of words of all scripts. -/
  | wordEnds
  deriving DecidableEq, Repr

/-- The problem of a text, and what it comes from. -/
def Problem.causes (text : Text) : Problem → List Text
  | .faulty fault =>
    ["error building NFA".toList, "error parsing regex".toList, fault.report text]
  | .wordEnds =>
    ["unsupported regex feature for DFAs: cannot build DFAs for regexes with Unicode word ".toList
      ++ "boundaries; switch to ASCII word boundaries, or heuristically enable Unicode word ".toList
      ++ "boundaries or use a different regex engine".toList]

/-- Reads a pattern and goes through it. -/
def surveyText (text : Text) : Except Fault Survey := do
  let pattern ← read text
  match pattern.tooDeep? maxDepth with
  | some span => fail (.nestedTooDeep maxDepth) span
  | none => pattern.survey {}

/-- What is wrong with the text of a pattern, if anything is. -/
def problem? (text : Text) : Option Problem :=
  match surveyText text with
  | .error fault => some (.faulty fault)
  | .ok s => if s.wordEnds then some .wordEnds else none

end PathJail.Pattern
