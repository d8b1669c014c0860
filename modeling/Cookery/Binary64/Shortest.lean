import Cookery.Binary64.Decimal

/-!
# The shortest decimal that reads back

A finite number that is not zero stands for all reals that round to it. Among the decimals in that
interval `shortest` takes one with the fewest digits, and of those the nearest to the number itself.

The search goes through the decimal grids from coarse to fine. On each grid only the two points next
to the number have to be tried: if any point of the grid lies in the interval, so does one of these.
Seventeen digits always suffice.

`text` writes the result the way messages and the target languages want it: positional between
`10 ^ -4` and `10 ^ 16`, always with a fraction, and in scientific notation outside.
-/

namespace Cookery.Binary64

/-- A decimal `digits · 10 ^ exponent`. -/
structure Decimal where
  digits : Nat
  exponent : Int
deriving DecidableEq

/-- The reals that round to a number, as two fractions over one denominator. The ends belong to the
interval exactly when the significand is even. -/
structure Interval where
  low : Nat
  value : Nat
  high : Nat
  den : Nat
  closed : Bool

/-- The interval of a finite number that is not zero. Below a power of two the spacing is halved. -/
def interval (x : Binary64) : Interval :=
  let m := x.significand
  let (n, d) := fractionOf 1 x.scale
  let below := if m = Nat.pow 2 52 ∧ 0 < x.scale then 1 else 2
  { low := (4 * m - below) * n, value := 4 * m * n, high := (4 * m + 2) * n, den := 4 * d,
    closed := m % 2 = 0 }

/-- Whether the fraction `num / den` lies in the interval. -/
def Interval.contains (i : Interval) (num den : Nat) : Bool :=
  if i.closed then i.low * den ≤ num * i.den && num * i.den ≤ i.high * den
  else i.low * den < num * i.den && num * i.den < i.high * den

/-- The exponent of the first digit of `num / den`. -/
def decimalOrder (num den : Nat) : Int :=
  let s : Int := (digitCount num : Int) - digitCount den
  let reaches := if 0 ≤ s then den * Nat.pow 10 s.toNat ≤ num else den ≤ num * Nat.pow 10 s.natAbs
  if reaches then s else s - 1

/-- The point of the grid of multiples of `10 ^ exponent` in the interval that is nearest to its
value; a tie goes up. -/
def Interval.onGrid? (i : Interval) (exponent : Int) : Option Decimal :=
  let (num, unit) :=
    if 0 ≤ exponent then (i.value, i.den * Nat.pow 10 exponent.toNat)
    else (i.value * Nat.pow 10 exponent.natAbs, i.den)
  let q := num / unit
  let r := num % unit
  let fits (n : Nat) : Bool :=
    if 0 ≤ exponent then i.contains (n * Nat.pow 10 exponent.toNat) 1
    else i.contains n (Nat.pow 10 exponent.natAbs)
  match fits q, fits (q + 1) with
  | true, true => some ⟨if 2 * r < unit then q else q + 1, exponent⟩
  | true, false => some ⟨q, exponent⟩
  | false, true => some ⟨q + 1, exponent⟩
  | false, false => none

/-- The first grid with a point in the interval, from the given number of digits on. -/
def Interval.search (i : Interval) (order : Int) : Nat → Decimal
  | 0 => (i.onGrid? (order - 16)).getD ⟨0, 0⟩
  | n + 1 => (i.onGrid? (order - (16 - (n + 1)))).getD (i.search order n)

/-- The shortest decimal that reads back as a finite number other than zero. -/
def shortest (x : Binary64) : Decimal :=
  let i := x.interval
  i.search (decimalOrder i.value i.den) 16

/-! ## Notation -/

/-- Removes the zeros at the end of a list of digits. -/
def dropTrailingZeros (ds : List Char) : List Char :=
  (ds.reverse.dropWhile (· == '0')).reverse

/-- Digits with a point after the first `point` of them, padded with zeros on either side, and with
at least one digit after the point. -/
def positional (ds : List Char) (point : Int) : List Char :=
  if point ≤ 0 then '0' :: '.' :: List.replicate point.natAbs '0' ++ ds
  else
    let n := point.toNat
    let padded := ds ++ List.replicate (n - ds.length) '0'
    let frac := padded.drop n
    padded.take n ++ '.' :: (if frac.isEmpty then ['0'] else frac)

/-- Digits with a point after the first and the exponent of the first. -/
def scientific (ds : List Char) (order : Int) : List Char :=
  let mantissa := match ds with
    | [] => []
    | [d] => [d]
    | d :: rest => d :: '.' :: rest
  let sign := if order < 0 then ['-'] else []
  mantissa ++ 'e' :: sign ++ Nat.toDigits 10 order.natAbs

/-- The magnitude of a finite number. -/
def magnitudeChars (x : Binary64) : List Char :=
  if x.significand = 0 then ['0', '.', '0']
  else
    let d := x.shortest
    let all := Nat.toDigits 10 d.digits
    let point := d.exponent + all.length
    let ds := dropTrailingZeros all
    if -4 < point ∧ point ≤ 16 then positional ds point else scientific ds (point - 1)

/-- A number as messages and literals write it. -/
def text (x : Binary64) : String :=
  if x.isNaN then "NaN"
  else
    let sign := if x.isNegative then "-" else ""
    if x.isInfinite then sign ++ "inf" else sign ++ String.ofList x.magnitudeChars

end Cookery.Binary64
