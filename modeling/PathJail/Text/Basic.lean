/-!
# Text

Paths, names and logged values are finite sequences of Unicode characters. Every limit and every
length that the library compares or prints is a number of UTF-8 bytes, so `byteLength` stands next
to the type.

* `byteLength`  — length in UTF-8 bytes, additive over `++` (`byteLength_append`).
* `dropBytes`, `takeBytes` — a text cut at a number of bytes.
* `isBoundary`, `cutAt` — where a text can be cut between two characters.
* `after?`, `before?` — what is left when a given text is taken off the front, or off the end.
* `isControl`   — the characters that may not reach a log line.
* `insertName`  — insertion into a strictly ascending list of names; folding it over any list of
  names sorts the list and drops repetitions (`ascending`).
-/

namespace PathJail

/-- A piece of text, character by character. -/
abbrev Text := List Char

namespace Text

/-! ## Length -/

/-- Length in UTF-8 bytes. -/
def byteLength : Text → Nat
  | [] => 0
  | c :: t => c.utf8Size + byteLength t

@[simp] theorem byteLength_nil : byteLength [] = 0 := rfl

@[simp] theorem byteLength_cons (c : Char) (t : Text) :
    byteLength (c :: t) = c.utf8Size + byteLength t := rfl

@[simp] theorem byteLength_append (a b : Text) :
    byteLength (a ++ b) = byteLength a + byteLength b := by
  induction a with
  | nil => simp
  | cons c a ih => simp [ih, Nat.add_assoc]

theorem length_le_byteLength (t : Text) : t.length ≤ byteLength t := by
  induction t with
  | nil => exact Nat.le_refl 0
  | cons c t ih =>
    have := c.utf8Size_pos
    rw [List.length_cons, byteLength_cons]
    omega

/-- A text without as many bytes at its front. Of a character that only some of them belong to,
nothing is left. -/
def dropBytes : Nat → Text → Text
  | 0, t => t
  | _ + 1, [] => []
  | n + 1, c :: t => dropBytes (n + 1 - c.utf8Size) t

/-- As many bytes at the front of a text, and the whole of the last character they belong to. -/
def takeBytes : Nat → Text → Text
  | 0, _ => []
  | _ + 1, [] => []
  | n + 1, c :: t => c :: takeBytes (n + 1 - c.utf8Size) t

/-- Whether so many bytes at the front of a text are whole characters. -/
def isBoundary : Nat → Text → Bool
  | 0, _ => true
  | _ + 1, [] => false
  | n + 1, c :: t => c.utf8Size ≤ n + 1 && isBoundary (n + 1 - c.utf8Size) t

/-- The nearest place where a text can be cut, looked for from a number of bytes on backwards. -/
def cutAt (t : Text) : Nat → Nat
  | 0 => 0
  | n + 1 => if isBoundary (n + 1) t then n + 1 else cutAt t n

/-! ## Taking off a piece -/

/-- What follows `front` at the start of a text. -/
def after? : Text → Text → Option Text
  | [], t => some t
  | _ :: _, [] => none
  | a :: front, c :: t => if a = c then after? front t else none

theorem after?_eq_some_iff {front t rest : Text} :
    after? front t = some rest ↔ t = front ++ rest := by
  induction front generalizing t with
  | nil => simp [after?]
  | cons a front ih =>
    cases t with
    | nil => simp [after?]
    | cons c t =>
      simp only [after?, List.cons_append, List.cons.injEq]
      split
      · rename_i h
        simp [h, ih]
      · rename_i h
        simp [Ne.symm h]

/-- What precedes `back` at the end of a text. -/
def before? (back t : Text) : Option Text := (after? back.reverse t.reverse).map List.reverse

theorem before?_eq_some_iff {back t rest : Text} :
    before? back t = some rest ↔ t = rest ++ back := by
  simp only [before?, Option.map_eq_some_iff, after?_eq_some_iff]
  constructor
  · rintro ⟨r, hr, rfl⟩
    simpa using congrArg List.reverse hr
  · rintro rfl
    exact ⟨rest.reverse, by simp, by simp⟩

/-! ## Characters -/

/-- The control characters: `U+0000` to `U+001F` and `U+007F` to `U+009F`. -/
def isControl (c : Char) : Bool := c.val < 0x20 || (0x7f ≤ c.val && c.val < 0xa0)

/-- Hexadecimal digits of a number, lower case, without leading zeros. -/
def hex (n : Nat) : Text := Nat.toDigits 16 n

/-- The value of a hexadecimal digit. -/
def hexDigit? (c : Char) : Option Nat :=
  if '0' ≤ c ∧ c ≤ '9' then some (c.toNat - '0'.toNat)
  else if 'a' ≤ c ∧ c ≤ 'f' then some (c.toNat - 'a'.toNat + 10)
  else if 'A' ≤ c ∧ c ≤ 'F' then some (c.toNat - 'A'.toNat + 10)
  else none

/-- Decimal digits of a natural number. -/
def ofNat (n : Nat) : Text := Nat.toDigits 10 n

/-- The value of a decimal digit. -/
def digitValue (c : Char) : Nat := c.toNat - '0'.toNat

/-- The number that decimal digits stand for. -/
def natOfDigits (digits : Text) : Nat := digits.foldl (fun n c => 10 * n + digitValue c) 0

/-- Decimal digits of an integer, after a `-` when it is negative. -/
def ofInt (i : Int) : Text := if i < 0 then '-' :: ofNat i.natAbs else ofNat i.natAbs

/-! ## Ordered names

Texts are ordered by their characters' code points, which is also the order of their UTF-8 bytes. -/

/-- Insertion into a strictly ascending list; a name that is already there is not repeated. -/
def insertName (n : Text) : List Text → List Text
  | [] => [n]
  | m :: ms => if n < m then n :: m :: ms else if n = m then m :: ms else m :: insertName n ms

/-- The names of a list in ascending order, each once. -/
def ascending (names : List Text) : List Text := names.foldr insertName []

@[simp] theorem mem_insertName {x n : Text} {ms : List Text} :
    x ∈ insertName n ms ↔ x = n ∨ x ∈ ms := by
  induction ms with
  | nil => simp [insertName]
  | cons m ms ih =>
    simp only [insertName]
    split
    · simp
    · split
      · rename_i h
        simp [h]
      · simp only [List.mem_cons, ih]
        constructor
        · rintro (h | h | h) <;> simp [h]
        · rintro (h | h | h) <;> simp [h]

@[simp] theorem mem_ascending {x : Text} {names : List Text} :
    x ∈ ascending names ↔ x ∈ names := by
  induction names with
  | nil => simp [ascending]
  | cons n names ih => simpa [ascending] using or_congr_right ih

end Text

end PathJail
