/-!
# Double-precision numbers

A number of the IEEE 754 binary64 format is its 64-bit word. Everything about it is read off the
word in exact arithmetic on natural numbers, so that two numbers are equal exactly when their words
are, and every statement about printing or rounding can be proved from integer arithmetic.

A finite number is `± significand · 2 ^ (scale - 1074)`, where `scale` is `0` for the subnormal
numbers and for the smallest normal ones. The magnitude of a finite number is also available as a
fraction, which is what rounding and printing work with.
-/

namespace Cookery

/-- A double-precision number, as its word. -/
structure Binary64 where
  bits : UInt64
deriving DecidableEq, Inhabited

namespace Binary64

/-! ## The fields of the word -/

/-- The sign bit. -/
def isNegative (x : Binary64) : Bool :=
  Nat.pow 2 63 ≤ x.bits.toNat

/-- The eleven exponent bits. -/
def exponentField (x : Binary64) : Nat :=
  x.bits.toNat / Nat.pow 2 52 % 2048

/-- The fifty-two fraction bits. -/
def fraction (x : Binary64) : Nat :=
  x.bits.toNat % Nat.pow 2 52

/-- Neither infinite nor "not a number". -/
def isFinite (x : Binary64) : Bool :=
  x.exponentField != 2047

def isNaN (x : Binary64) : Bool :=
  x.exponentField == 2047 && x.fraction != 0

def isInfinite (x : Binary64) : Bool :=
  x.exponentField == 2047 && x.fraction == 0

/-! ## The magnitude of a finite number -/

/-- The integer factor of the magnitude. -/
def significand (x : Binary64) : Nat :=
  if x.exponentField = 0 then x.fraction else Nat.pow 2 52 + x.fraction

/-- The exponent of two of the magnitude, counted from `-1074`. -/
def scale (x : Binary64) : Nat :=
  x.exponentField - 1

/-- The fraction `n · 2 ^ (scale - 1074)`, as numerator and denominator. -/
def fractionOf (n scale : Nat) : Nat × Nat :=
  if 1074 ≤ scale then (n * Nat.pow 2 (scale - 1074), 1) else (n, Nat.pow 2 (1074 - scale))

/-- The magnitude of a finite number, as numerator and denominator. -/
def magnitude (x : Binary64) : Nat × Nat :=
  fractionOf x.significand x.scale

/-! ## Rounding -/

/-- The number with the given sign and the remaining 63 bits. -/
def ofMagnitudeBits (negative : Bool) (n : Nat) : Binary64 :=
  ⟨UInt64.ofNat (if negative then Nat.pow 2 63 + n else n)⟩

def zero (negative : Bool) : Binary64 :=
  ofMagnitudeBits negative 0

def infinity (negative : Bool) : Binary64 :=
  ofMagnitudeBits negative (2047 * Nat.pow 2 52)

/-- The quiet "not a number". -/
def nan (negative : Bool) : Binary64 :=
  ofMagnitudeBits negative (4095 * Nat.pow 2 51)

/-- The quotient of `num` by `den`, rounded to the nearest integer; a half goes to the even one. -/
def roundDiv (num den : Nat) : Nat :=
  let q := num / den
  let r := num % den
  if 2 * r < den then q else if den < 2 * r then q + 1 else q + q % 2

/-- The scale at which `num / den` has a significand of 53 bits, or `0` if it is subnormal. -/
def scaleOf (num den : Nat) : Nat :=
  let s := num.log2 + 1074 - (den.log2 + 52)
  if s = 0 then 0
  else
    let (n, d) := fractionOf 1 s
    if num * d / (den * n) < Nat.pow 2 52 then s - 1 else s

/-- The double-precision number nearest to `num / den`; of two that are equally near, the one with
an even significand. Too large a quotient gives an infinity. -/
def ofRatio (negative : Bool) (num den : Nat) : Binary64 :=
  if num = 0 then zero negative
  else
    let s := scaleOf num den
    let (n, d) := fractionOf 1 s
    let q := roundDiv (num * d) (den * n)
    ofMagnitudeBits negative (min (s * Nat.pow 2 52 + q) (2047 * Nat.pow 2 52))

/-- The number nearest to an integer. -/
def ofInt (i : Int) : Binary64 :=
  ofRatio (i < 0) i.natAbs 1

/-! ## Arithmetic with positive factors -/

/-- The product of two finite numbers, rounded. -/
def mul (x y : Binary64) : Binary64 :=
  let (n, d) := x.magnitude
  let (n', d') := y.magnitude
  ofRatio (x.isNegative != y.isNegative) (n * n') (d * d')

/-- The quotient of two finite numbers, rounded; the divisor is not zero. -/
def div (x y : Binary64) : Binary64 :=
  let (n, d) := x.magnitude
  let (n', d') := y.magnitude
  ofRatio (x.isNegative != y.isNegative) (n * d') (d * n')

/-- The number with the opposite sign. -/
def neg (x : Binary64) : Binary64 :=
  ofMagnitudeBits (!x.isNegative) (x.bits.toNat % Nat.pow 2 63)

end Binary64

end Cookery
