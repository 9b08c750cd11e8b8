import PathJail.Pattern.Scan

/-!
# Escapes in patterns

A backslash takes the meaning from a character that has one, or gives one to a letter. A pattern
comes from a place where neither a closing brace nor a comma can be written, so an escape that goes
on in braces is never complete.

* `readEscape` — the item that an escape stands for.
* `readAtom`   — a single item outside brackets.
-/

namespace PathJail.Pattern

/-- Characters with a meaning of their own. -/
def metaCharacters : List Char := "\\.+*?()|[]\x7b\x7d^$#&-~".toList

/-- Whether a backslash makes a character stand for itself: a mark of ASCII does not need one, but
may have one. -/
def isEscapable (c : Char) : Bool :=
  c ∈ metaCharacters || (c.toNat < 0x80 && !c.isAlphanum && c ≠ '<' && c ≠ '>')

/-- Letters that stand for control characters. -/
def controlLetters : List (Char × Char) :=
  [('a', '\x07'), ('f', '\x0c'), ('t', '\t'), ('n', '\n'), ('r', '\r'), ('v', '\x0b')]

/-! ## Characters by number -/

/-- A number of hexadecimal digits, added to the value of those before. -/
def readHexDigits : (count value : Nat) → Scan → Except Fault (Nat × Scan)
  | 0, value, s => .ok (value, s)
  | count + 1, value, s =>
    match s.rest with
    | [] => fail .escapeUnfinished s.here
    | c :: _ =>
      match Text.hexDigit? c with
      | none => fail .hexDigit s.next
      | some digit => readHexDigits count (16 * value + digit) s.advance

/-- What is wrong with a number in braces, read from the opening one on: it does not end. -/
def hexBraceFault (s : Scan) : Fault :=
  let digitsEnd := (s.advance.takeWhile fun c => (Text.hexDigit? c).isSome).2
  if digitsEnd.rest = [] then ⟨.escapeUnfinished, digitsEnd.since s.offset, none⟩
  else ⟨.hexDigit, digitsEnd.next, none⟩

/-- How many digits a letter asks for. -/
def hexCount (letter : Char) : Nat := if letter = 'x' then 2 else if letter = 'u' then 4 else 8

/-- A character by its number; `s` is at the letter. -/
def readHex (start : Nat) (letter : Char) (s : Scan) : Except Fault (Atom × Scan) := do
  let digits := s.advance
  if digits.rest.head? = some '{' then throw (hexBraceFault digits)
  let (value, after) ← readHexDigits (hexCount letter) 0 digits
  if value < 0xd800 ∨ 0xdfff < value ∧ value < 0x110000 then
    return (.literal ⟨after.since start, Char.ofNat value, letter = 'x'⟩, after)
  else fail .hexValue (after.since digits.offset)

/-! ## Other escapes -/

/-- A property by its letter; `s` is at the `p`. -/
def readProperty (start : Nat) (s : Scan) : Except Fault (Atom × Scan) :=
  let name := s.advance
  match name.rest with
  | [] => fail .escapeUnfinished name.here
  | '{' :: _ => fail .escapeUnfinished (name.moveTo []).here
  | '\\' :: _ => fail .propertyName name.next
  | _ =>
    let after := name.advance
    return (.property (after.since start), after)

/-- What is wrong with `\b` and a brace behind it, if the brace does not begin a count; `s` is at
the brace. -/
def boundaryFault? (start : Nat) (s : Scan) : Option Fault :=
  let isName := fun c : Char => c.isAlpha || c = '-'
  let name := s.advance
  match name.rest with
  | [] => some ⟨.boundaryUnfinished, name.since start, none⟩
  | c :: _ =>
    if isName c then some ⟨.boundaryUnclosed, (name.takeWhile isName).2.since s.offset, none⟩
    else none

/-- An escape of one character, which `s` is behind. -/
def readShortEscape (start : Nat) (c : Char) (s : Scan) : Except Fault (Atom × Scan) :=
  let span := s.since start
  if isEscapable c then .ok (.literal ⟨span, c, false⟩, s)
  else match controlLetters.lookup c with
    | some control => .ok (.literal ⟨span, control, false⟩, s)
    | none =>
      if c = 'A' ∨ c = 'z' then .ok (.place span false, s)
      else if c = 'B' ∨ c = '<' ∨ c = '>' then .ok (.place span true, s)
      else if c = 'b' then
        let fault? := if s.rest.head? = some '{' then boundaryFault? start s else none
        match fault? with
        | some fault => .error fault
        | none => .ok (.place span true, s)
      else fail .escapeUnknown span

/-- The item that an escape stands for; `s` is at the backslash. -/
def readEscape (s : Scan) : Except Fault (Atom × Scan) :=
  let start := s.offset
  let letter := s.bump
  match letter.rest with
  | [] => fail .escapeUnfinished (letter.since start)
  | c :: _ =>
    if c.isDigit then fail .backreference ⟨start, letter.offset + 1⟩
    else if c ∈ ['x', 'u', 'U'] then readHex start c letter
    else if c ∈ ['p', 'P'] then readProperty start letter
    else if c ∈ ['d', 's', 'w', 'D', 'S', 'W'] then
      let after := letter.bump
      return (.kind (after.since start) c.isUpper, after)
    else readShortEscape start c letter.bump

/-- A single item outside brackets, of which `c` is the first character. -/
def readAtom (c : Char) (s : Scan) : Except Fault (Atom × Scan) :=
  if c = '\\' then readEscape s
  else if c = '.' then return (.any s.next, s.bump)
  else if c = '^' ∨ c = '$' then return (.place s.next false, s.bump)
  else return (.literal ⟨s.next, c, false⟩, s.bump)

end PathJail.Pattern
