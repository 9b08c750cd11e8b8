import PathJail.Text.Basic

/-!
# Bytes shown as text

A file system's names are bytes, and not all of them are UTF-8. To be shown, such a name is read as
far as it is UTF-8, and each piece of it that is not has the replacement character in its place. A
piece is what could be the beginning of a character, up to the first byte that cannot go on with it,
or else a single byte.

* `Begun` — what has been read of a character of several bytes.
* `feed`  — the machine: what one byte shows, and what has been read behind it.
* `lossy` — all bytes, one after the other.
-/

namespace PathJail.Text

/-- Shown in the place of what is no text. -/
def replacement : Char := '\uFFFD'

/-- What has been read of a character of several bytes. -/
structure Begun where
  /-- The number that its bits come to so far. -/
  value : Nat
  /-- The bytes that can come next, from `low` to `high`. -/
  low : Nat
  high : Nat
  /-- How many bytes there are behind the next one. -/
  more : Nat
  /-- No byte that is a character by itself can come next. -/
  late : 0x80 ≤ low

/-- What a byte shows that does not go on with a character, and what it begins. The first byte of a
character tells its length. The bounds of the second byte leave out what a shorter encoding, a
surrogate or too large a number would begin with. -/
def start (b : UInt8) : Text × Option Begun :=
  let n := b.toNat
  if n < 0x80 then ([Char.ofNat n], none)
  else if n < 0xC2 then ([replacement], none)
  else if n < 0xE0 then ([], some ⟨n - 0xC0, 0x80, 0xBF, 0, Nat.le_refl _⟩)
  else if n < 0xF0 then
    ([], some ⟨n - 0xE0, if n = 0xE0 then 0xA0 else 0x80, if n = 0xED then 0x9F else 0xBF, 1,
      by split <;> decide⟩)
  else if n < 0xF5 then
    ([], some ⟨n - 0xF0, if n = 0xF0 then 0x90 else 0x80, if n = 0xF4 then 0x8F else 0xBF, 2,
      by split <;> decide⟩)
  else ([replacement], none)

/-- What one byte shows, and what has been read behind it. -/
def feed (b : UInt8) : Option Begun → Text × Option Begun
  | none => start b
  | some begun =>
    if begun.low ≤ b.toNat ∧ b.toNat ≤ begun.high then
      let value := begun.value * 64 + (b.toNat - 0x80)
      match begun.more with
      | 0 => ([Char.ofNat value], none)
      | more + 1 => ([], some ⟨value, 0x80, 0xBF, more, Nat.le_refl _⟩)
    else (replacement :: (start b).1, (start b).2)

/-- What bytes show behind what has been read. At the end, what was begun is no character. -/
def lossyFrom : Option Begun → List UInt8 → Text
  | begun, [] => (begun.map fun _ => replacement).toList
  | begun, b :: rest => (feed b begun).1 ++ lossyFrom (feed b begun).2 rest

/-- Bytes as text, with the replacement character for each piece that is no UTF-8. -/
def lossy (raw : List UInt8) : Text := lossyFrom none raw

end PathJail.Text
