import Cookery.Text.Hex

/-!
# String literals of the target languages

The target languages share one form of string literal: double quotes, a backslash before quotes,
backslashes and the letters of the common controls, and four hexadecimal digits for the other
controls. Kotlin reads `$` in a literal as the start of a template, so its literals escape that
character as well.
-/

namespace Cookery.Text

/-- One character inside a double-quoted literal. -/
def literalChar (c : Char) : List Char :=
  match c with
  | '"' => ['\\', '"']
  | '\\' => ['\\', '\\']
  | '\n' => ['\\', 'n']
  | '\r' => ['\\', 'r']
  | '\t' => ['\\', 't']
  | c => if c.toNat < 0x20 then '\\' :: 'u' :: hex4 c.toNat else [c]

/-- A double-quoted literal for `s`. -/
def doubleQuoted (s : String) : String :=
  String.ofList ('"' :: s.toList.flatMap literalChar ++ ['"'])

/-- A double-quoted literal for `s` in which no `$` starts a template. -/
def doubleQuotedTemplate (s : String) : String :=
  String.ofList ((doubleQuoted s).toList.flatMap fun c ↦ if c = '$' then ['\\', '$'] else [c])

end Cookery.Text
