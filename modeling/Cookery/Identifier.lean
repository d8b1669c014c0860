import Cookery.Text.Case

/-!
# Names and identifiers

The names of a cookbook are free text. Bindings turn them into identifiers by changing case and by
replacing what no identifier may hold. All functions work on lists of characters; each has a
version on strings.
-/

namespace Cookery

/-! ## Case conventions -/

/-- Puts the first character into upper case: `enumArg` becomes `EnumArg`. -/
def capitalizeChars : List Char → List Char
  | [] => []
  | c :: cs => Text.upper c ++ cs

/-- Puts the first character of a name into upper case. -/
def capitalize (name : String) : String :=
  String.ofList (capitalizeChars name.toList)

/-- Whether a word starts at an uppercase letter that stands between `prev` and `next`: after a
lowercase letter or a digit, or at the last capital of a run of capitals. -/
def startsWord (prev next : Option Char) : Bool :=
  match prev with
  | none => false
  | some p =>
    if Text.isLower p || p.isDigit then true
    else if Text.isUpper p then next.any Text.isLower
    else false

/-- A character of a name as snake case writes it. -/
def smallForm (c : Char) : List Char :=
  if Text.isUpper c then Text.lower c else [c]

/-- Snake case of the characters that follow `prev`. A word is divided by `_` from what is written
before it, unless that ends with `_` already; `last` is what it ends with. -/
def snakeCaseAfter (prev last : Option Char) : List Char → List Char
  | [] => []
  | c :: cs =>
    let divided := Text.isUpper c && startsWord prev cs.head? && last != some '_'
    let part := if divided then '_' :: smallForm c else smallForm c
    part ++ snakeCaseAfter (some c) (part.getLast?.or last) cs

/-- Snake case: `enumArg` becomes `enum_arg` and `HTTPCode` becomes `http_code`. -/
def snakeCase (name : String) : String :=
  String.ofList (snakeCaseAfter none none name.toList)

/-- Snake case in capitals: `onionRings` becomes `ONION_RINGS`. -/
def upperSnakeCase (name : String) : String :=
  String.ofList ((snakeCase name).toList.flatMap Text.upper)

/-! ## Identifiers -/

/-- A letter, digit or underscore of ASCII. -/
def isWordChar (c : Char) : Bool :=
  c.isAlphanum || c == '_'

/-- The identifiers that all target languages share: `[A-Za-z_][A-Za-z0-9_]*`. -/
def isIdentifierChars : List Char → Bool
  | [] => false
  | c :: cs => (c.isAlpha || c == '_') && cs.all isWordChar

/-- Whether a name is an identifier in every target language. -/
def isIdentifier (name : String) : Bool :=
  isIdentifierChars name.toList

/-- Replaces everything that no identifier may hold by `_`, and puts `_` before a digit that would
come first. -/
def sanitizeChars (cs : List Char) : List Char :=
  match cs.map fun c ↦ if isWordChar c then c else '_' with
  | [] => ['_']
  | c :: cs => if c.isDigit then '_' :: c :: cs else c :: cs

/-- Makes an identifier of any text. Reserved words are left to the binding. -/
def sanitize (name : String) : String :=
  String.ofList (sanitizeChars name.toList)

end Cookery
