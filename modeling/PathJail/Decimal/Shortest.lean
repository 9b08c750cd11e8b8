import PathJail.Text.Basic

/-!
# Shortest decimals

A binary floating-point number stands for every real number that rounds to it. Its text shows the
fewest decimal digits that lie in that interval, and of several such decimals the nearest.

The number is taken apart into `m · 2 ^ q`. The ends of its interval are the midpoints to its two
neighbours, and they belong to it when `m` is even. For one digit, two digits and so on, only the
two points of the decimal grid next to the number can be the nearest, so these two are tried, in
exact arithmetic on natural numbers.

* `Decimal`           — digits and the power of ten of the first of them.
* `shortest`          — the shortest decimal of `m · 2 ^ q`.
* `Decimal.text`      — positional from `1e-5` up to below `1e16`, and with an exponent beyond.
* `Text.ofFloat`      — the text of a floating-point number.
-/

namespace PathJail

/-- The number `d.ddd… · 10 ^ exponent`. -/
structure Decimal where
  digits : Text
  exponent : Int
  deriving DecidableEq, Repr

namespace Decimal

/-- The significand of a normal number is at least this, and less than twice this. -/
def leastNormal : Nat := 1 <<< 52

/-- A ratio of natural numbers times a power of ten, as numerator and denominator. -/
def scaled (n d : Nat) (power : Int) : Nat × Nat :=
  if 0 ≤ power then (n * Nat.pow 10 power.toNat, d) else (n, d * Nat.pow 10 (-power).toNat)

/-- The power of ten of the first digit of `n / d`, searched downwards from `start`. -/
def leading (n d : Nat) : Nat → Int → Int
  | 0, start => start
  | steps + 1, start =>
    let (a, b) := scaled n d (-start)
    if b ≤ a then start else leading n d steps (start - 1)

/-- An interval of reals around a number, in units of `1 / d`. -/
structure Interval where
  low : Nat
  middle : Nat
  high : Nat
  unit : Nat
  /-- Whether the ends belong to the interval. -/
  closed : Bool

namespace Interval

/-- The reals that round to `m · 2 ^ q`. Below a power of two the neighbours are twice as near, save
where they are as near as they can be. -/
def ofBinary (m : Nat) (q : Int) : Interval :=
  let below := if m = leastNormal ∧ -1074 < q then 1 else 2
  let shift := q - 2
  let up := if 0 ≤ shift then 1 <<< shift.toNat else 1
  let unit := if 0 ≤ shift then 1 else 1 <<< (-shift).toNat
  ⟨(4 * m - below) * up, 4 * m * up, (4 * m + 2) * up, unit, m % 2 = 0⟩

/-- Whether `k · 10 ^ power` lies in the interval. -/
def contains (i : Interval) (k : Nat) (power : Int) : Bool :=
  let (a, b) := scaled k 1 power
  let x := a * i.unit
  if i.closed then i.low * b ≤ x && x ≤ i.high * b else i.low * b < x && x < i.high * b

/-- How far `k · 10 ^ power` is from the middle, up to a factor that does not depend on `k`. -/
def distance (i : Interval) (k : Nat) (power : Int) : Nat :=
  let (a, b) := scaled k 1 power
  let x := a * i.unit
  let y := i.middle * b
  if x ≤ y then y - x else x - y

/-- The multiple of `10 ^ power` in the interval that is nearest to the middle; of two as near, the
even one. -/
def nearest? (i : Interval) (power : Int) : Option Nat :=
  let (a, b) := scaled i.middle i.unit (-power)
  let k := a / b
  match i.contains k power, i.contains (k + 1) power with
  | true, false => some k
  | false, true => some (k + 1)
  | false, false => none
  | true, true =>
    let near := i.distance k power
    let far := i.distance (k + 1) power
    if near < far ∨ (near = far ∧ k % 2 = 0) then some k else some (k + 1)

end Interval

/-- Digits without zeros at the end. -/
def trimZeros (digits : Text) : Text :=
  let kept := (digits.reverse.dropWhile (· = '0')).reverse
  if kept = [] then ['0'] else kept

/-- The decimal `k · 10 ^ power`. -/
def ofScaled (k : Nat) (power : Int) : Decimal :=
  let digits := Text.ofNat k
  ⟨trimZeros digits, power + digits.length - 1⟩

/-- The shortest decimal of `m · 2 ^ q`, trying `left` more lengths from `count` digits on. -/
def search (i : Interval) (first : Int) : Nat → Nat → Decimal
  | 0, _ => ofScaled 0 0
  | left + 1, count =>
    let power := first - count + 1
    match i.nearest? power with
    | some k => ofScaled k power
    | none => search i first left (count + 1)

/-- The shortest decimal that rounds to `m · 2 ^ q`. Seventeen digits always suffice. -/
def shortest (m : Nat) (q : Int) : Decimal :=
  let i := Interval.ofBinary m q
  search i (leading i.middle i.unit 640 309) 17 1

/-! ## Layout -/

def zeros (n : Nat) : Text := List.replicate n '0'

/-- The decimal in writing; a number without a fraction gets `.0`. -/
def text (d : Decimal) : Text :=
  let count : Int := d.digits.length
  if d.exponent < -5 ∨ 15 < d.exponent then
    let fraction := match d.digits.drop 1 with
      | [] => []
      | more => '.' :: more
    d.digits.take 1 ++ fraction ++ 'e' :: (if d.exponent < 0 then '-' else '+')
      :: Text.ofNat d.exponent.natAbs
  else if d.exponent < 0 then
    ['0', '.'] ++ zeros ((-d.exponent).toNat - 1) ++ d.digits
  else if count ≤ d.exponent + 1 then
    d.digits ++ zeros (d.exponent + 1 - count).toNat ++ ['.', '0']
  else
    let whole := (d.exponent + 1).toNat
    d.digits.take whole ++ '.' :: d.digits.drop whole

end Decimal

/-- The text of a finite floating-point number. -/
def Text.ofFloat (x : Float) : Text :=
  let bits := x.toBits.toNat
  let sign := if bits >>> 63 = 1 then ['-'] else []
  let exponent : Nat := (bits >>> 52) % 2048
  let fraction : Nat := bits % Decimal.leastNormal
  if exponent = 0 ∧ fraction = 0 then sign ++ "0.0".toList
  else if exponent = 0 then sign ++ (Decimal.shortest fraction (-1074)).text
  else sign ++ (Decimal.shortest (Decimal.leastNormal + fraction) (Int.ofNat exponent - 1075)).text

end PathJail
