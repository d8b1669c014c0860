import Cookery.Iterate

/-!
# The text of a YAML stream

Errors, character classes, and the cursor with which the scanner walks through a text. The cursor
knows its line, its column and how many characters it has passed, because in YAML indentation
carries structure and a key must stand on one line.
-/

namespace Cookery.Yaml

/-- Why a text is not a YAML document, or not one that this tool accepts. -/
inductive Error where
  | controlCharacter
  | badStart
  | tabIndentation
  | documentIndicatorInScalar
  | unterminatedScalar
  | badEscape
  | badBlockHeader
  | badAnchor
  | badTag
  | badDirective
  | undefinedTagHandle
  | missingColon
  | unexpectedColon
  | misplacedEntry
  | misplacedKey
  | misplacedValue
  | unexpectedToken
  | missingDocumentStart
  | severalDocuments
  | unknownAnchor
  | tooDeep
  | tooManyAliases
deriving DecidableEq

/-- How a scalar is written. -/
inductive Style where
  | plain
  | singleQuoted
  | doubleQuoted
  | literal
  | folded
deriving DecidableEq

/-! ## Character classes -/

/-- A line break. -/
def isBreak (c : Char) : Bool :=
  c == '\n' || c == '\r' || c == '\x85' || c == '\u2028' || c == '\u2029'

/-- A blank inside a line. -/
def isBlank (c : Char) : Bool :=
  c == ' ' || c == '\t'

/-- A blank, a line break or the end of the text. -/
def endsWord : Option Char → Bool
  | none => true
  | some c => isBlank c || isBreak c

/-- A line break or the end of the text. -/
def endsLine : Option Char → Bool
  | none => true
  | some c => isBreak c

/-- The characters of names of anchors, directives and tag handles. -/
def isNameChar (c : Char) : Bool :=
  c.isAlphanum || c == '_' || c == '-'

/-- The brackets and commas of flow collections. -/
def isFlowIndicator (c : Char) : Bool :=
  c == ',' || c == '[' || c == ']' || c == '\x7b' || c == '\x7d'

/-- The characters that a stream may hold: no controls but tabs and line breaks. -/
def isAllowed (c : Char) : Bool :=
  let n := c.toNat
  n == 0x09 || n == 0x0A || n == 0x0D || (0x20 ≤ n && n ≤ 0x7E) || n == 0x85 ||
    (0xA0 ≤ n && n ≤ 0xD7FF) || (0xE000 ≤ n && n ≤ 0xFFFD) || 0x10000 ≤ n

/-! ## The cursor -/

/-- A place in a text: what is still to come, and where that is. -/
structure Cursor where
  rest : List Char
  /-- How many characters the whole text has. -/
  length : Nat
  line : Nat := 0
  column : Nat := 0
  index : Nat := 0

namespace Cursor

/-- The start of a text. -/
def start (chars : List Char) : Cursor where
  rest := chars
  length := chars.length

/-- How much is still to come. -/
def size (c : Cursor) : Nat :=
  c.length - c.index

/-- The next character. -/
def peek (c : Cursor) : Option Char :=
  c.rest.head?

/-- The character at a distance from the next one. -/
def peekAt (c : Cursor) (n : Nat) : Option Char :=
  c.rest[n]?

/-- Steps over characters of one line. -/
def skip (c : Cursor) (n : Nat := 1) : Cursor :=
  { c with rest := c.rest.drop n, column := c.column + n, index := c.index + n }

/-- Steps over the characters of one line that satisfy `p`. -/
def skipWhile (c : Cursor) (p : Char → Bool) : Cursor :=
  c.skip (c.rest.takeWhile p).length

/-- The characters ahead that satisfy `p`. -/
def run (c : Cursor) (p : Char → Bool) : List Char :=
  c.rest.takeWhile p

/-- Steps over a line break. -/
def skipLine (c : Cursor) : Cursor :=
  match c.rest with
  | '\r' :: '\n' :: rest =>
    { c with rest, line := c.line + 1, column := 0, index := c.index + 2 }
  | _ :: rest => { c with rest, line := c.line + 1, column := 0, index := c.index + 1 }
  | [] => c

/-- A line break as it counts in a scalar: all but the Unicode separators count as a newline. -/
def lineBreak (c : Cursor) : List Char :=
  match c.rest with
  | [] => []
  | ch :: _ =>
    if ch == '\u2028' || ch == '\u2029' then [ch] else if isBreak ch then ['\n'] else []

/-- Whether a line starts here with the mark of a document's start or end. -/
def atDocumentMark (c : Cursor) : Bool :=
  c.column == 0 && endsWord (c.peekAt 3) &&
    (c.rest.take 3 == ['-', '-', '-'] || c.rest.take 3 == ['.', '.', '.'])

/-- Runs a loop that moves a cursor forward. -/
def loop {σ α : Type} (step : σ → Cursor → Except Error ((σ × Cursor) ⊕ α)) (s : σ) (c : Cursor) :
    Except Error α :=
  iterate (fun p ↦ p.2.size) Error.unterminatedScalar (fun p ↦ step p.1 p.2) (s, c)

end Cursor

/-- Line folding: a single line break between words is a blank, and further ones are kept. -/
def foldBreaks (first more : List Char) : List Char :=
  if first == ['\n'] then if more.isEmpty then [' '] else more else first ++ more

end Cookery.Yaml
