import Cookery.Binary64.Decimal
import Cookery.Text.Hex
import Cookery.Yaml.Basic

/-!
# What plain scalars mean

A plain scalar is a null, a truth value, an integer, a float, or else a string. Integers may have a
sign and may be written in hexadecimal, octal or binary; decimal digits after a leading zero are a
string.

Integers beyond 64 bits are recognised up to 128 bits, where no value can hold them; decimal ones
beyond that count as floats.
-/

namespace Cookery.Yaml

/-- What a plain scalar means. -/
inductive Meaning where
  | null
  | bool (b : Bool)
  | int (i : Int)
  | float (x : Binary64)
  | string

/-! ## Nulls and truth values -/

/-- The words for null. The empty scalar is not one of them. -/
def isNullWord (s : String) : Bool :=
  s == "null" || s == "Null" || s == "NULL" || s == "~"

/-- The words for truth values. -/
def bool? (s : String) : Option Bool :=
  if s == "true" || s == "True" || s == "TRUE" then some true
  else if s == "false" || s == "False" || s == "FALSE" then some false
  else none

/-! ## Numbers -/

/-- Decimal digits after a leading zero. -/
def hasLeadingZero (cs : List Char) : Bool :=
  match (Binary64.splitSign cs).2 with
  | '0' :: c :: cs => (c :: cs).all Char.isDigit
  | _ => false

/-- The base that a prefix names, and the digits after it. -/
def splitBase : List Char → Option (Nat × List Char)
  | '0' :: 'x' :: cs => some (16, cs)
  | '0' :: 'o' :: cs => some (8, cs)
  | '0' :: 'b' :: cs => some (2, cs)
  | _ => none

/-- A magnitude without sign, in any base. -/
def magnitude? (cs : List Char) : Option Nat :=
  match splitBase cs with
  | some (base, digits) => Text.readDigits? base digits
  | none => if hasLeadingZero cs then none else Text.readDigits? 10 cs

/-- An integer of at most 128 bits. -/
def int? (cs : List Char) : Option Int :=
  match cs with
  | '-' :: cs => do
    let n ← magnitude? cs
    if n ≤ Nat.pow 2 127 then some (-(n : Int)) else none
  | '+' :: cs => do
    let n ← magnitude? cs
    if n < Nat.pow 2 128 then some n else none
  | cs => do
    let n ← magnitude? cs
    if n < Nat.pow 2 128 then some n else none

/-- The infinities and "not a number". -/
def special? (s : String) : Option Binary64 :=
  if s ∈ [".inf", ".Inf", ".INF", "+.inf", "+.Inf", "+.INF"] then some (.infinity false)
  else if s ∈ ["-.inf", "-.Inf", "-.INF"] then some (.infinity true)
  else if s ∈ [".nan", ".NaN", ".NAN"] then some (.nan false)
  else none

/-- A float. A decimal beyond the largest float is none. -/
def float? (s : String) : Option Binary64 :=
  match special? s with
  | some x => some x
  | none =>
    let cs := s.toList
    let signs := cs.takeWhile fun c ↦ c == '+' || c == '-'
    if 1 < signs.length then none
    else (Binary64.readDecimal? cs).bind fun x ↦ if x.isFinite then some x else none

/-- The meaning of a plain scalar. -/
def meaning (s : String) : Meaning :=
  if s.isEmpty || isNullWord s then .null
  else match bool? s with
    | some b => .bool b
    | none =>
      match int? s.toList with
      | some i => .int i
      | none =>
        if hasLeadingZero s.toList then .string
        else match float? s with
          | some x => .float x
          | none => .string

end Cookery.Yaml
