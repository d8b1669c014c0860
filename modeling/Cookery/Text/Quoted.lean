import Cookery.Text.HiddenTable
import Cookery.Text.Hex

/-!
# Text in quotation marks, for messages

Messages show a text between double quotes, on one line and without anything that a reader could
not see: quotation marks and backslashes are escaped, the common controls have a letter each, and
every other hidden character is spelled by its code point in braces.
-/

namespace Cookery.Text

/-- Whether a message spells `c` by its code point. -/
def isHidden (c : Char) : Bool :=
  if c.toNat < 128 then c.toNat < 32 || c.toNat == 127
  else hiddenRanges.any fun r ↦ r.1 ≤ c.toNat && c.toNat ≤ r.2

/-- How a message shows one character inside quotation marks. -/
def quotedChar (c : Char) : List Char :=
  match c with
  | '"' => ['\\', '"']
  | '\\' => ['\\', '\\']
  | '\n' => ['\\', 'n']
  | '\r' => ['\\', 'r']
  | '\t' => ['\\', 't']
  | '\x00' => ['\\', '0']
  | c => if isHidden c then ['\\', 'u', '\x7b'] ++ hex c.toNat ++ ['\x7d'] else [c]

/-- A text as messages show it. -/
def quoted (s : String) : String :=
  String.ofList ('"' :: s.toList.flatMap quotedChar ++ ['"'])

end Cookery.Text
