import PathJail.Json.Number

/-!
# Reading the start of a JSON value

A JSON text is read from the left, and reading something leaves a rest that is shorter than what
was read from. `Rest t` carries the proof, so that whoever reads on can see an end coming.

`head` reads a whole `null`, truth value, number or string, and of an array or an object the opening
bracket alone. It is `none` where the text is no JSON.

* `stringBody` — the characters up to the closing quote, escapes resolved.
* `numeral`    — the longest numeral.
* `head`       — the first piece of a value, behind any blanks.
-/

namespace PathJail

/-- What is left of `t` after something was read off its front. -/
abbrev Rest (t : Text) := { r : Text // r.length < t.length }

namespace Rest

variable {t : Text}

/-- The rest that one character leaves. -/
def tail (c : Char) (t : Text) : Rest (c :: t) := ⟨t, by simp⟩

/-- The rest that is left when reading goes on in a rest. -/
def andThen (r : Rest t) (q : Rest r.val) : Rest t := ⟨q.val, Nat.lt_trans q.property r.property⟩

/-- The rest that is left when a character stood before the text. -/
def behind (c : Char) (r : Rest t) : Rest (c :: t) := (tail c t).andThen r

end Rest

namespace Json

/-! ## Blanks -/

/-- Space, tab and the line ends. -/
def isBlank (c : Char) : Bool := c = ' ' || c = '\t' || c = '\n' || c = '\r'

/-- A text without the blanks at its front. -/
def skipBlanks (t : Text) : Text := t.dropWhile isBlank

theorem length_skipBlanks (t : Text) : (skipBlanks t).length ≤ t.length :=
  (List.dropWhile_suffix isBlank).length_le

/-- The rest of a text, read from behind its blanks. -/
def afterBlanks {t : Text} (r : Rest (skipBlanks t)) : Rest t :=
  ⟨r.val, Nat.lt_of_lt_of_le r.property (length_skipBlanks t)⟩

/-! ## Strings -/

/-- The value of four hexadecimal digits. -/
def hexFour? (a b c d : Char) : Option Nat := do
  let digit := Text.hexDigit?
  return (((← digit a) * 16 + (← digit b)) * 16 + (← digit c)) * 16 + (← digit d)

/-- Four hexadecimal digits. -/
def hexUnit : (t : Text) → Option (Nat × Rest t)
  | a :: b :: c :: d :: t => (hexFour? a b c d).map fun unit => (unit, ⟨t, by simp; omega⟩)
  | _ => none

/-- The second half of a character beyond 16 bits, written as an escape of its own. -/
def lowHalf : (t : Text) → Option (Nat × Rest t)
  | '\\' :: 'u' :: t => do
    let (unit, rest) ← hexUnit t
    if 0xdc00 ≤ unit ∧ unit ≤ 0xdfff then some (unit, (rest.behind 'u').behind '\\') else none
  | _ => none

/-- The character of an escape by number, after `\u`. A character beyond 16 bits is written as two
escapes, and neither half stands alone. -/
def numberEscape (t : Text) : Option (Char × Rest t) := do
  let (unit, rest) ← hexUnit t
  if unit < 0xd800 ∨ 0xdfff < unit then some (Char.ofNat unit, rest)
  else if 0xdc00 ≤ unit then none
  else do
    let (low, last) ← lowHalf rest.val
    some (Char.ofNat ((unit - 0xd800) * 0x400 + (low - 0xdc00) + 0x10000), rest.andThen last)

/-- The character of an escape, after the backslash. -/
def escaped : (t : Text) → Option (Char × Rest t)
  | 'u' :: t => do
    let (c, rest) ← numberEscape t
    return (c, rest.behind 'u')
  | c :: t =>
    let plain (d : Char) := some (d, Rest.tail c t)
    if c = '"' ∨ c = '\\' ∨ c = '/' then plain c
    else if c = 'b' then plain '\x08'
    else if c = 'f' then plain '\x0c'
    else if c = 'n' then plain '\n'
    else if c = 'r' then plain '\r'
    else if c = 't' then plain '\t'
    else none
  | [] => none

/-- The characters of a string after its opening quote, up to and with the closing one. -/
def stringBody : (t : Text) → Option (Text × Rest t)
  | [] => none
  | '"' :: t => some ([], Rest.tail '"' t)
  | '\\' :: t => do
    let (c, rest) ← escaped t
    let (more, last) ← stringBody rest.val
    return (c :: more, (rest.behind '\\').andThen last)
  | c :: t =>
    if c.toNat < 0x20 then none
    else do
      let (more, rest) ← stringBody t
      return (c :: more, rest.behind c)
termination_by t => t.length
decreasing_by
  · have := rest.property
    simp only [List.length_cons]
    omega
  · simp

/-! ## Numbers -/

/-- The digits at the front, and what follows them. -/
def digits (t : Text) : Text × Text := (t.takeWhile Char.isDigit, t.dropWhile Char.isDigit)

theorem length_digits (t : Text) : (digits t).2.length ≤ t.length :=
  (List.dropWhile_suffix Char.isDigit).length_le

/-- A fraction, if a point follows; a point needs a digit behind it. -/
def fraction : (t : Text) → Option (Option Text × { r : Text // r.length ≤ t.length })
  | '.' :: t =>
    if (digits t).1 = [] then none
    else some (some (digits t).1, ⟨(digits t).2, Nat.le_succ_of_le (length_digits t)⟩)
  | t => some (none, ⟨t, Nat.le_refl _⟩)

/-- The sign of an exponent, and what follows it. -/
def exponentSign : Text → Bool × Text
  | '-' :: t => (true, t)
  | '+' :: t => (false, t)
  | t => (false, t)

theorem length_exponentSign (t : Text) : (exponentSign t).2.length ≤ t.length := by
  unfold exponentSign
  split <;> simp

theorem length_exponentDigits (t : Text) :
    (digits (exponentSign t).2).2.length ≤ t.length :=
  Nat.le_trans (length_digits _) (length_exponentSign t)

/-- An exponent, if an `e` follows; it needs a digit. -/
def exponent : (t : Text) → Option (Option Int × { r : Text // r.length ≤ t.length })
  | [] => some (none, ⟨[], Nat.le_refl _⟩)
  | c :: t =>
    if c = 'e' ∨ c = 'E' then
      let (negative, unsigned) := exponentSign t
      if (digits unsigned).1 = [] then none
      else
        let n := Int.ofNat (Text.natOfDigits (digits unsigned).1)
        some (some (if negative then -n else n),
          ⟨(digits (exponentSign t).2).2, Nat.le_succ_of_le (length_exponentDigits t)⟩)
    else some (none, ⟨c :: t, Nat.le_refl _⟩)

/-- The digits of a whole number: a zero, or digits that do not begin with one. -/
def wholeDigits : (t : Text) → Option (Text × Rest t)
  | [] => none
  | '0' :: t => if t.head?.any Char.isDigit then none else some (['0'], Rest.tail '0' t)
  | c :: t =>
    if c.isDigit then some (c :: (digits t).1, ⟨(digits t).2, Nat.lt_succ_of_le (length_digits t)⟩)
    else none

/-- The numeral at the front, its sign already read. -/
def numeral (negative : Bool) (t : Text) : Option (Numeral × Rest t) := do
  let (whole, rest) ← wholeDigits t
  let (fraction, behindPoint) ← fraction rest.val
  let (exponent, last) ← exponent behindPoint.val
  return (⟨negative, whole, fraction, exponent⟩,
    ⟨last.val, Nat.lt_of_le_of_lt (Nat.le_trans last.property behindPoint.property) rest.property⟩)

/-! ## The first piece of a value -/

/-- The first piece of a value. -/
inductive Head
  | null
  | bool (value : Bool)
  | number (value : JsonNumber)
  | string (value : Text)
  | arrayStart
  | objectStart

/-- A word at the front. -/
def word (expected : Text) (h : expected ≠ []) (t : Text) : Option (Rest t) :=
  match hr : Text.after? expected t with
  | some rest => some ⟨rest, by
      rw [Text.after?_eq_some_iff.mp hr, List.length_append]
      have := List.length_pos_iff.mpr h
      omega⟩
  | none => none

/-- The number at the front, its sign already read. -/
def numberHead (negative : Bool) (t : Text) : Option (Head × Rest t) := do
  let (n, rest) ← numeral negative t
  return (.number (← n.value), rest)

/-- The first piece of a value that begins with the first character. -/
def bareHead : (t : Text) → Option (Head × Rest t)
  | [] => none
  | 'n' :: t => (word ['n', 'u', 'l', 'l'] (by simp) ('n' :: t)).map fun rest => (.null, rest)
  | 't' :: t => (word ['t', 'r', 'u', 'e'] (by simp) ('t' :: t)).map fun rest => (.bool true, rest)
  | 'f' :: t =>
    (word ['f', 'a', 'l', 's', 'e'] (by simp) ('f' :: t)).map fun rest => (.bool false, rest)
  | '"' :: t => (stringBody t).map fun found => (.string found.1, found.2.behind '"')
  | '[' :: t => some (.arrayStart, Rest.tail '[' t)
  | '{' :: t => some (.objectStart, Rest.tail '{' t)
  | '-' :: t => (numberHead true t).map fun found => (found.1, found.2.behind '-')
  | c :: t => numberHead false (c :: t)

/-- The first piece of a value, behind any blanks. -/
def head (t : Text) : Option (Head × Rest t) :=
  (bareHead (skipBlanks t)).map fun found => (found.1, afterBlanks found.2)

end Json

end PathJail
