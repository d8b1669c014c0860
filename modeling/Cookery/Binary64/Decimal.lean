import Cookery.Binary64.Basic

/-!
# Reading decimals

`ofDecimal` gives the number nearest to `digits · 10 ^ exponent`. Exponents far outside the range of
the format are settled first, so that the powers of ten stay small.

`readDecimal?` reads the usual notation: an optional sign, digits with at most one point among them,
and an optional exponent. At least one digit is needed before the exponent and one in it.
-/

namespace Cookery.Binary64

/-- The number of decimal digits of `n`, which is `1` for zero. -/
def digitCount (n : Nat) : Nat :=
  (Nat.toDigits 10 n).length

/-- The number nearest to `± digits · 10 ^ exponent`. -/
def ofDecimal (negative : Bool) (digits : Nat) (exponent : Int) : Binary64 :=
  if digits = 0 then zero negative
  else
    let order := exponent + digitCount digits
    if 310 < order then infinity negative
    else if order < -330 then zero negative
    else if 0 ≤ exponent then ofRatio negative (digits * Nat.pow 10 exponent.toNat) 1
    else ofRatio negative digits (Nat.pow 10 exponent.natAbs)

/-- The number that a list of decimal digits writes; the empty list writes zero. -/
def readNat (cs : List Char) : Nat :=
  cs.foldl (fun n c ↦ n * 10 + (c.toNat - 48)) 0

/-- An optional sign and what follows it; `true` is the minus sign. -/
def splitSign : List Char → Bool × List Char
  | '-' :: cs => (true, cs)
  | '+' :: cs => (false, cs)
  | cs => (false, cs)

/-- The exponent that follows the digits: nothing, or `e` and an integer. -/
def readExponent? : List Char → Option Int
  | [] => some 0
  | c :: cs =>
    if c = 'e' ∨ c = 'E' then
      let (negative, ds) := splitSign cs
      if ds.isEmpty || !ds.all Char.isDigit then none
      else some (if negative then -(readNat ds : Int) else readNat ds)
    else none

/-- The number nearest to a decimal, if the text is one. -/
def readDecimal? (text : List Char) : Option Binary64 :=
  let (negative, cs) := splitSign text
  let whole := cs.takeWhile Char.isDigit
  let rest := cs.dropWhile Char.isDigit
  let (frac, rest) := match rest with
    | '.' :: rest => (rest.takeWhile Char.isDigit, rest.dropWhile Char.isDigit)
    | rest => ([], rest)
  if whole.isEmpty && frac.isEmpty then none
  else (readExponent? rest).map fun e ↦
    ofDecimal negative (readNat (whole ++ frac)) (e - frac.length)

end Cookery.Binary64
