import Cookery.Text.CaseTable

/-!
# Upper and lower case

Case tests and case mappings of single characters. A mapping gives a list, because the case form of
one character may need several (`ß` is written `SS` in capitals). No mapping looks at the characters
around it, so the case form of a text is the concatenation of the forms of its characters.

ASCII is decided without the tables, which start at 128.
-/

namespace Cookery.Text

/-- Whether `c` is an uppercase letter. -/
def isUpper (c : Char) : Bool :=
  if c.toNat < 128 then c.isUpper else upperRuns.any (·.contains c.toNat)

/-- Whether `c` is a lowercase letter. -/
def isLower (c : Char) : Bool :=
  if c.toNat < 128 then c.isLower else lowerRuns.any (·.contains c.toNat)

/-- The image of `c` under a mapping that sends the listed characters to several and moves the runs
of `shifts`; every other character is its own image. -/
def mapCase (specials : List (Nat × List Nat)) (shifts : List Shift) (c : Char) : List Char :=
  match specials.lookup c.toNat with
  | some image => image.map Char.ofNat
  | none =>
    match shifts.find? (·.run.contains c.toNat) with
    | some s => [Char.ofNat (s.image + (c.toNat - s.run.first))]
    | none => [c]

/-- The uppercase form of a character. -/
def upper (c : Char) : List Char :=
  if c.toNat < 128 then [c.toUpper] else mapCase toUpperSpecials toUpperShifts c

/-- The lowercase form of a character. -/
def lower (c : Char) : List Char :=
  if c.toNat < 128 then [c.toLower] else mapCase toLowerSpecials toLowerShifts c

end Cookery.Text
