/-!
# Hexadecimal digits

Code points are written in lowercase hexadecimal, padded with zeros where a format fixes the number
of digits, and read back in either case.
-/

namespace Cookery.Text

/-- The lowercase hexadecimal digits of `n`, without padding. -/
def hex (n : Nat) : List Char :=
  Nat.toDigits 16 n

/-- The last four hexadecimal digits of `n`, the most significant first. -/
def hex4 (n : Nat) : List Char :=
  [Nat.digitChar (n / 4096 % 16), Nat.digitChar (n / 256 % 16), Nat.digitChar (n / 16 % 16),
    Nat.digitChar (n % 16)]

/-- The value of a digit in a base up to sixteen, read in either case. -/
def digitValue? (c : Char) : Option Nat :=
  if '0' ≤ c ∧ c ≤ '9' then some (c.toNat - 48)
  else if 'a' ≤ c ∧ c ≤ 'f' then some (c.toNat - 87)
  else if 'A' ≤ c ∧ c ≤ 'F' then some (c.toNat - 55)
  else none

/-- The number that a nonempty list of digits writes in the given base. -/
def readDigits? (base : Nat) (cs : List Char) : Option Nat :=
  if cs.isEmpty then none
  else cs.foldlM (fun n c ↦ (digitValue? c).bind fun d ↦
    if d < base then some (n * base + d) else none) 0

end Cookery.Text
