import Cookery.Json.Basic

/-!
# Numbers of JSON

An integer that has 64 bits, with or without sign, is read exactly. Every other number is a float,
and `-0` is one too, since an integer cannot keep the sign.

A float is read in one pass: the digits are collected in a 64-bit word until it is full, digits
after that only move the exponent, and the word is then scaled by powers of ten in double
precision. The result is correctly rounded for up to fifteen digits and moderate exponents, and may
be off by a few units in the last place beyond. Too large a number is refused.
-/

namespace Cookery.Json

/-- A word of digits and the power of ten that scales it. -/
structure Scaled where
  digits : Nat
  exponent : Int
deriving DecidableEq

/-- The value of a decimal digit. -/
def digit (c : Char) : Nat :=
  c.toNat - 48

/-- Whether another digit fits into the word. -/
def hasRoom (n : Nat) (c : Char) : Bool :=
  n * 10 + digit c < UInt64.size

/-- Collects the digits before the point. Once one does not fit, the rest only counts. -/
def collectWhole (n : Nat) : List Char → Scaled
  | [] => ⟨n, 0⟩
  | c :: cs => if hasRoom n c then collectWhole (n * 10 + digit c) cs else ⟨n, cs.length + 1⟩

/-- Collects the digits after the point. Once one does not fit, the rest is dropped. -/
def collectFraction (s : Scaled) : List Char → Scaled
  | [] => s
  | c :: cs =>
    if hasRoom s.digits c then collectFraction ⟨s.digits * 10 + digit c, s.exponent - 1⟩ cs else s

/-- A power of ten in double precision, up to the largest. -/
def powerOfTen (n : Nat) : Binary64 :=
  .ofRatio false (Nat.pow 10 n) 1

/-- Divides by powers of ten. An exponent beyond the largest power takes several steps, and two of
them leave nothing of a 64-bit word. -/
def scaleDown (x : Binary64) (n : Nat) : Binary64 :=
  if n ≤ 308 then x.div (powerOfTen n)
  else if n ≤ 616 then (x.div (powerOfTen 308)).div (powerOfTen (n - 308))
  else .zero false

/-- The float that a word of digits and an exponent stand for, unless it is too large. -/
def Scaled.toFloat? (s : Scaled) : Option Binary64 :=
  let x := Binary64.ofInt s.digits
  if s.digits = 0 then some x
  else if s.exponent < 0 then some (scaleDown x s.exponent.natAbs)
  else if 308 < s.exponent then none
  else
    let y := x.mul (powerOfTen s.exponent.toNat)
    if y.isFinite then some y else none

/-- A number that has a sign, digits, and perhaps a fraction and an exponent. -/
structure NumberText where
  negative : Bool
  whole : List Char
  fraction : Option (List Char)
  exponent : Option Int

/-- The value of a number. -/
def NumberText.value? (t : NumberText) : Option Json :=
  let s := collectWhole 0 t.whole
  if t.fraction.isNone && t.exponent.isNone && s.exponent == 0 &&
      (if t.negative then 0 < s.digits && s.digits ≤ Nat.pow 2 63 else true) then
    some (.int (if t.negative then -(s.digits : Int) else s.digits))
  else
    let s := collectFraction s (t.fraction.getD [])
    let s : Scaled := ⟨s.digits, s.exponent + t.exponent.getD 0⟩
    s.toFloat?.map fun x ↦ .float (if t.negative then x.neg else x)

end Cookery.Json
