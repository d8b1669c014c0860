import Cookery.Binary64.Shortest
import Cookery.Text.Hex

/-!
# JSON values and their text

Objects are lists of pairs in the order in which they are written, and may hold a key twice: which
duplicates are errors is for the reader of a format to say. Integers and floats are kept apart.

`Json.pretty` is the layout of all files that the tool writes: two blanks of indentation for each
level, one entry on a line, and nothing but brackets for an empty list or object.
-/

namespace Cookery

/-- A JSON value. -/
inductive Json where
  | null
  | bool (b : Bool)
  | int (i : Int)
  | float (x : Binary64)
  | str (s : String)
  | arr (items : List Json)
  | obj (fields : List (String × Json))
deriving Inhabited

namespace Json

/-! ## Strings -/

/-- One character inside a JSON string. -/
def stringChar (c : Char) : List Char :=
  match c with
  | '"' => ['\\', '"']
  | '\\' => ['\\', '\\']
  | '\n' => ['\\', 'n']
  | '\r' => ['\\', 'r']
  | '\t' => ['\\', 't']
  | '\x08' => ['\\', 'b']
  | '\x0c' => ['\\', 'f']
  | c => if c.toNat < 0x20 then '\\' :: 'u' :: Text.hex4 c.toNat else [c]

/-- A JSON string. -/
def stringChars (s : String) : List Char :=
  '"' :: s.toList.flatMap stringChar ++ ['"']

/-! ## Layout -/

/-- A new line at the given depth. -/
def newline (depth : Nat) : List Char :=
  '\n' :: List.replicate (2 * depth) ' '

/-- Entries between brackets: each on a line of its own one level deeper. -/
def block (opening closing : Char) (depth : Nat) (entries : List (List Char)) : List Char :=
  match entries with
  | [] => [opening, closing]
  | entries =>
    opening :: [','].intercalate (entries.map (newline (depth + 1) ++ ·)) ++
      newline depth ++ [closing]

mutual

/-- The text of a value that starts at the given depth. -/
def prettyChars (depth : Nat) : Json → List Char
  | null => "null".toList
  | bool b => (if b then "true" else "false").toList
  | int i => (toString i).toList
  | float x => if x.isFinite then x.text.toList else "null".toList
  | str s => stringChars s
  | arr items => block '[' ']' depth (prettyItems (depth + 1) items)
  | obj fields => block '\x7b' '\x7d' depth (prettyFields (depth + 1) fields)

/-- The texts of the items of a list. -/
def prettyItems (depth : Nat) : List Json → List (List Char)
  | [] => []
  | v :: vs => prettyChars depth v :: prettyItems depth vs

/-- The texts of the fields of an object. -/
def prettyFields (depth : Nat) : List (String × Json) → List (List Char)
  | [] => []
  | (key, v) :: rest =>
    (stringChars key ++ ':' :: ' ' :: prettyChars depth v) :: prettyFields depth rest

end

/-- A value in the layout of the files that the tool writes. -/
def pretty (v : Json) : String :=
  String.ofList (prettyChars 0 v)

/-! ## Building values -/

/-- A list of strings. -/
def strings (items : List String) : Json :=
  arr (items.map str)

/-- A field that is left out when it has no value. -/
def field? (key : String) (v : Option Json) : List (String × Json) :=
  match v with
  | some v => [(key, v)]
  | none => []

end Json

end Cookery
