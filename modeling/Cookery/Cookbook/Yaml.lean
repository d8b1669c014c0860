import Cookery.Cookbook.Json
import Cookery.Yaml.Scalar
import Cookery.Yaml.Tree

/-!
# Cookbooks in YAML

`Yaml.source` says how YAML is decoded. Text is any scalar as it is written; truth values are plain;
nothing at all stands for an empty list or structure. Literals follow the meaning of plain scalars,
unless a standard tag says what they are; tags of one's own are refused there.
-/

namespace Cookery.Yaml

/-- The name of a standard tag. -/
def standardTag (name : String) : String :=
  "tag:yaml.org,2002:" ++ name

namespace Tree

/-- A scalar without text that is not quoted. -/
def isNothing : Tree → Bool
  | scalar _ .plain "" => true
  | _ => false

def text : Tree → Except DecodeError String
  | scalar _ _ s => .ok s
  | _ => .error (.expected "a string")

/-- A truth value: a plain scalar, or a literal block that is tagged as one. -/
def truth : Tree → Except DecodeError Bool
  | scalar tag style s =>
    if style = .plain || (style = .literal && tag == some (standardTag "bool")) then
      match bool? s with
      | some b => .ok b
      | none => .error (.expected "a boolean")
    else .error (.expected "a boolean")
  | _ => .error (.expected "a boolean")

def items : Tree → Except DecodeError (List Tree)
  | sequence _ items => .ok items
  | t => if t.isNothing then .ok [] else .error (.expected "a list")

def entries : Tree → Except DecodeError (List (String × Tree))
  | mapping _ entries => entries.mapM fun (k, v) ↦ do return (← k.text, v)
  | t => if t.isNothing then .ok [] else .error (.expected "a structure")

/-- A node, or nothing for a plain null. -/
def present (t : Tree) : Except DecodeError (Option Tree) :=
  match t with
  | scalar tag .plain s =>
    match tag with
    | none => .ok (if s.isEmpty || isNullWord s then none else some t)
    | some tag =>
      if tag == standardTag "null" then
        if isNullWord s then .ok none else .error (.expected "null")
      else .ok (some t)
  | t => .ok (some t)

/-! ## Literals -/

/-- Whether a tag is one of the user's own. -/
def isLocalTag (tag : Option String) : Bool :=
  tag.any (·.startsWith "!")

/-- An integer that a literal can hold: one of 64 bits, with or without sign. -/
def intLiteral (i : Int) : Except DecodeError Literal :=
  if Int64.minValue.toInt ≤ i && i < UInt64.size then .ok (Literal.ofInt i)
  else .error (.expected "a small integer")

/-- The literal of a plain scalar without tag. -/
def plainLiteral (s : String) : Except DecodeError Literal :=
  match meaning s with
  | .null => .error (.expected "a literal")
  | .bool b => .ok (.bool b)
  | .int i => intLiteral i
  | .float x => .ok (.float x)
  | .string => .ok (.string s)

/-- The literal of a scalar with a standard tag. -/
def taggedLiteral (tag s : String) : Except DecodeError Literal :=
  if tag == standardTag "bool" then
    match bool? s with
    | some b => .ok (.bool b)
    | none => .error (.expected "a boolean")
  else if tag == standardTag "int" then
    match int? s.toList with
    | some i => intLiteral i
    | none => .error (.expected "an integer")
  else if tag == standardTag "float" then
    match float? s with
    | some x => .ok (.float x)
    | none => .error (.expected "a float")
  else if tag == standardTag "null" then .error (.expected "a literal")
  else .ok (.string s)

mutual

/-- The literal of a node. -/
def literal : Tree → Except DecodeError Literal
  | scalar none .plain s => plainLiteral s
  | scalar none _ s => .ok (.string s)
  | scalar (some tag) _ s =>
    if isLocalTag (some tag) then .error (.expected "a literal") else taggedLiteral tag s
  | sequence tag items =>
    if isLocalTag tag then .error (.expected "a literal")
    else do return .list (← literals items)
  | mapping _ _ => .error (.expected "a literal")

/-- The literals of the items of a list. -/
def literals : List Tree → Except DecodeError (List Literal)
  | [] => .ok []
  | t :: ts => do return (← literal t) :: (← literals ts)

end

end Tree

/-- How YAML is decoded. -/
def source : Source Tree where
  text := Tree.text
  bool := Tree.truth
  list := Tree.items
  entries := fun _ t ↦ t.entries
  present := Tree.present
  literal := Tree.literal

end Cookery.Yaml
