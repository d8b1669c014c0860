import Cookery.Iterate
import Cookery.Text.Hex
import Cookery.Toml.Basic

/-!
# Reading TOML

A part of the text is read by a function that gives what it read together with the rest of the text.
A text is a sequence of lines, each with a header, a key and its value, or neither, and perhaps a
comment.
-/

namespace Cookery.Toml

/-! ## Blanks and comments -/

/-- A blank inside a line. -/
def isBlank (c : Char) : Bool :=
  c == ' ' || c == '\t'

def skipBlanks (cs : List Char) : List Char :=
  cs.dropWhile isBlank

/-- The characters of comments and strings: no controls but tabs. -/
def isTextChar (c : Char) : Bool :=
  c == '\t' || (0x20 ≤ c.toNat && c.toNat ≠ 0x7F)

/-- A line break. -/
def readBreak? : List Char → Option (List Char)
  | '\n' :: cs => some cs
  | '\r' :: '\n' :: cs => some cs
  | _ => none

/-- Steps over a comment. -/
def skipComment : List Char → List Char
  | '#' :: cs => cs.dropWhile isTextChar
  | cs => cs

/-- Steps over what may end a line. -/
def readLineEnd? (cs : List Char) : Option (List Char) :=
  match skipComment (skipBlanks cs) with
  | [] => some []
  | cs => readBreak? cs

/-- Steps over blanks, comments and line breaks. -/
def skipLines (cs : List Char) : List Char :=
  let cs' := skipComment (skipBlanks cs)
  match readBreak? cs' with
  | none => cs'
  | some rest => if rest.length < cs.length then skipLines rest else rest
termination_by cs.length

/-! ## Strings -/

/-- A character by the number of its code point, written with `n` digits. -/
def readCodePoint? (n : Nat) (cs : List Char) : Option (Char × List Char) := do
  let digits := cs.take n
  let code ← Text.readDigits? 16 digits
  if digits.length = n && code.isValidChar then some (Char.ofNat code, cs.drop n) else none

/-- What follows a backslash. -/
def readEscape? : List Char → Option (Char × List Char)
  | 'b' :: cs => some ('\x08', cs)
  | 't' :: cs => some ('\t', cs)
  | 'n' :: cs => some ('\n', cs)
  | 'f' :: cs => some ('\x0c', cs)
  | 'r' :: cs => some ('\r', cs)
  | '"' :: cs => some ('"', cs)
  | '\\' :: cs => some ('\\', cs)
  | 'u' :: cs => readCodePoint? 4 cs
  | 'U' :: cs => readCodePoint? 8 cs
  | _ => none

/-- Runs a loop that consumes characters. -/
def loop {σ α : Type} (step : σ → List Char → Option ((σ × List Char) ⊕ α)) (s : σ)
    (cs : List Char) : Option α :=
  (iterate (fun p ↦ p.2.length) () (fun p ↦ (step p.1 p.2).elim (.error ()) .ok) (s, cs)).toOption

/-- A string on one line, after its opening quote. -/
def readLineString? (quote : Char) (cs : List Char) : Option (String × List Char) :=
  loop (fun (acc : List Char) cs ↦
    match cs with
    | [] => none
    | c :: rest =>
      if c == quote then some (.inr (String.ofList acc.reverse, rest))
      else if c == '\\' && quote == '"' then
        (readEscape? rest).map fun (c, rest) ↦ .inl (c :: acc, rest)
      else if isTextChar c then some (.inl (c :: acc, rest))
      else none) [] cs

/-- Blanks up to the end of a line, then all blanks and line breaks. -/
def skipFolded? (cs : List Char) : Option (List Char) :=
  (readBreak? (skipBlanks cs)).bind fun rest ↦
    loop (fun (_ : Unit) cs ↦
      let cs' := skipBlanks cs
      match readBreak? cs' with
      | some rest => some (.inl ((), rest))
      | none => some (.inr cs')) () rest

/-- A string over several lines, after its three opening quotes. Up to two quotes may stand right
before the three closing ones. -/
def readBlockString? (quote : Char) (cs : List Char) : Option (String × List Char) :=
  loop (fun (acc : List Char) cs ↦
    match cs with
    | [] => none
    | c :: rest =>
      if c == quote then
        let run := min (cs.takeWhile (· == quote)).length 5
        if 3 ≤ run then
          some (.inr (String.ofList (acc.reverse ++ List.replicate (run - 3) quote), cs.drop run))
        else some (.inl (c :: acc, rest))
      else if c == '\\' && quote == '"' then
        match skipFolded? rest with
        | some rest => some (.inl (acc, rest))
        | none => (readEscape? rest).map fun (c, rest) ↦ .inl (c :: acc, rest)
      else match readBreak? cs with
        | some rest => some (.inl ('\n' :: acc, rest))
        | none => if isTextChar c then some (.inl (c :: acc, rest)) else none) []
    ((readBreak? cs).getD cs)

/-- A string of any kind. -/
def readString? : List Char → Option (String × List Char)
  | '"' :: '"' :: '"' :: cs => readBlockString? '"' cs
  | '\'' :: '\'' :: '\'' :: cs => readBlockString? '\'' cs
  | '"' :: cs => readLineString? '"' cs
  | '\'' :: cs => readLineString? '\'' cs
  | _ => none

/-! ## Keys -/

/-- The characters of a key without quotes. -/
def isKeyChar (c : Char) : Bool :=
  c.isAlphanum || c == '_' || c == '-'

/-- One part of a key. -/
def readKeyPart? (cs : List Char) : Option (String × List Char) :=
  match cs with
  | '"' :: rest => readLineString? '"' rest
  | '\'' :: rest => readLineString? '\'' rest
  | cs =>
    match cs.takeWhile isKeyChar with
    | [] => none
    | word => some (String.ofList word, cs.dropWhile isKeyChar)

/-- A key: parts with dots between them, given as those before the last and the last. -/
def readKey? (cs : List Char) : Option ((List String × String) × List Char) :=
  loop (fun (acc : List String) cs ↦ do
    let (part, rest) ← readKeyPart? (skipBlanks cs)
    match skipBlanks rest with
    | '.' :: rest => some (.inl (acc ++ [part], rest))
    | rest => some (.inr ((acc, part), rest))) [] cs

/-! ## Values -/

/-- A number, a truth value or a date, up to the next mark or blank. -/
def readScalar? (cs : List Char) : Option (Toml × List Char) :=
  let ends (c : Char) : Bool :=
    isBlank c || c == '\n' || c == '\r' || c == ',' || c == ']' || c == '\x7d' || c == '#'
  match cs.takeWhile (fun c ↦ !ends c) with
  | [] => none
  | word => some (.scalar (String.ofList word), cs.dropWhile (fun c ↦ !ends c))

/-- A key, an equals sign and a value. -/
def readPair? (value : List Char → Option (Toml × List Char)) (cs : List Char) :
    Option (((List String × String) × Toml) × List Char) := do
  let (key, cs) ← readKey? cs
  match cs with
  | '=' :: cs =>
    let (v, cs) ← value (skipBlanks cs)
    some ((key, v), cs)
  | _ => none

/-- The items of an array, after its opening bracket. -/
def readItems? (value : List Char → Option (Toml × List Char)) (cs : List Char) :
    Option (List Toml × List Char) :=
  loop (fun (acc : List Toml) cs ↦ do
    match skipLines cs with
    | ']' :: rest => some (.inr (acc.reverse, rest))
    | cs =>
      let (v, rest) ← value cs
      match skipLines rest with
      | ',' :: rest => some (.inl (v :: acc, rest))
      | ']' :: rest => some (.inr ((v :: acc).reverse, rest))
      | _ => none) [] cs

/-- The pairs of an inline table, after its opening bracket. -/
def readPairs? (value : List Char → Option (Toml × List Char)) (cs : List Char) :
    Option (Entries × List Char) :=
  match skipBlanks cs with
  | '\x7d' :: rest => some ([], rest)
  | cs =>
    loop (fun (acc : Entries) cs ↦ do
      let (((path, key), v), rest) ← readPair? value (skipBlanks cs)
      let acc ← addKey path key v .inline acc
      match skipBlanks rest with
      | ',' :: rest => some (.inl (acc, rest))
      | '\x7d' :: rest => some (.inr (acc, rest))
      | _ => none) [] cs

/-- A value that nests less than `depth` deep. -/
def readValue? : Nat → List Char → Option (Toml × List Char)
  | 0, _ => none
  | depth + 1, '[' :: cs =>
    (readItems? (readValue? depth) cs).map fun (vs, rest) ↦ (.array vs, rest)
  | depth + 1, '\x7b' :: cs =>
    (readPairs? (readValue? depth) cs).map fun (es, rest) ↦ (.table .inline es, rest)
  | _ + 1, '"' :: cs => (readString? ('"' :: cs)).map fun (s, rest) ↦ (.string s, rest)
  | _ + 1, '\'' :: cs => (readString? ('\'' :: cs)).map fun (s, rest) ↦ (.string s, rest)
  | _ + 1, cs => readScalar? cs

/-- How deep values may nest. -/
def maxDepth : Nat := 80

/-! ## Documents -/

/-- A document so far: its entries, and the path of the table that is open. -/
structure Builder where
  root : Entries := []
  current : List String := []

namespace Builder

/-- Adds a key and its value to the table that is open. -/
def add (b : Builder) (path : List String) (key : String) (v : Toml) : Option Builder := do
  let root ← changeAt false (addKey path key v) b.current .header b.root
  return { b with root }

/-- Reads a header, after its opening bracket. -/
def readHeader? (b : Builder) (double : Bool) (cs : List Char) : Option (Builder × List Char) := do
  let ((path, key), rest) ← readKey? cs
  let current := path ++ [key]
  match double, rest with
  | false, ']' :: rest => return ({ root := ← openTable path key b.root, current }, rest)
  | true, ']' :: ']' :: rest => return ({ root := ← openTables path key b.root, current }, rest)
  | _, _ => none

/-- Reads a header, or a key with its value. -/
def readStatement? (b : Builder) (cs : List Char) : Option (Builder × List Char) :=
  match cs with
  | '[' :: '[' :: rest => b.readHeader? true rest
  | '[' :: rest => b.readHeader? false rest
  | cs => do
    let (((path, key), v), rest) ← readPair? (readValue? maxDepth) cs
    return (← b.add path key v, rest)

end Builder

/-- Reads a whole text. -/
def parse? (text : String) : Option Entries :=
  let cs := match text.toList with
    | '\ufeff' :: rest => rest
    | cs => cs
  loop (fun (b : Builder) cs ↦ do
    match skipLines cs with
    | [] => some (.inr b.root)
    | cs =>
      let (b, rest) ← b.readStatement? cs
      some (.inl (b, ← readLineEnd? rest))) {} cs

end Cookery.Toml
