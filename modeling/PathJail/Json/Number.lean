import PathJail.Text.Basic

/-!
# JSON numbers

A numeral is text: a sign, digits, perhaps a fraction and an exponent. Its value is exact for
integers of 64 bits. Any other numeral is a floating-point number, made in two roundings: the digits
that fit into 64 bits are taken as an integer, and that is multiplied or divided by the power of ten
that is left. A numeral too large for a floating-point number has no value.

* `Numeral`       — a numeral, taken apart.
* `Numeral.value` — its value.
-/

namespace PathJail

/-- The value of a numeral. -/
inductive JsonNumber
  | natural (n : Nat)
  /-- The number `-n`, with `n` not zero. -/
  | negative (n : Nat)
  | floating (x : Float)

/-- A numeral, taken apart. -/
structure Numeral where
  negative : Bool
  /-- Digits before the point, at least one. -/
  whole : Text
  /-- Digits after the point, if there is one. -/
  fraction : Option Text
  /-- The exponent, if one is written. -/
  exponent : Option Int
  deriving DecidableEq, Repr

namespace Numeral

/-- As many of the digits as keep `n` within 64 bits, put behind `n`; and the digits left over. -/
def absorb (n : Nat) : Text → Nat × Text
  | [] => (n, [])
  | c :: digits =>
    let more := 10 * n + Text.digitValue c
    if more < UInt64.size then absorb more digits else (n, c :: digits)

/-- The power of ten with a given exponent, rounded to a floating-point number. -/
def power (e : Nat) : Float := Float.ofScientific 1 false e

/-- A number divided by a power of ten, in steps that stay within the range of powers. -/
def shrink (x : Float) (e : Nat) : Float :=
  if e ≤ 308 then x / power e
  else if x == 0 then x
  else shrink (x / power 308) (e - 308)
termination_by e

/-- A number times a power of ten, if that is finite. -/
def scale (x : Float) (e : Int) : Option Float :=
  if e < 0 then some (shrink x (-e).toNat)
  else if 308 < e then if x == 0 then some x else none
  else
    let y := x * power e.toNat
    if y.isInf then none else some y

/-- The floating-point number that a numeral stands for. -/
def toFloat (n : Numeral) : Option Float :=
  let (significand, dropped) := absorb 0 n.whole
  let fraction := n.fraction.getD []
  let (significand, ignored) := absorb significand fraction
  let taken := fraction.length - ignored.length
  let exponent := Int.ofNat dropped.length - Int.ofNat taken + n.exponent.getD 0
  (scale significand.toUInt64.toFloat exponent).map fun x => if n.negative then -x else x

/-- The value of a numeral. An integer of 64 bits keeps its value; there is no integer `-0`. -/
def value (n : Numeral) : Option JsonNumber :=
  let whole := Text.natOfDigits n.whole
  if n.fraction.isSome ∨ n.exponent.isSome then n.toFloat.map .floating
  else if !n.negative ∧ whole < UInt64.size then some (.natural whole)
  else if n.negative ∧ 0 < whole ∧ whole ≤ UInt64.size / 2 then some (.negative whole)
  else n.toFloat.map .floating

end Numeral

end PathJail
