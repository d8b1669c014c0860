import Cookery.Cookbook

/-!
# Types

A type is a base, arrays over it, and possibly a vararg mark:

    Type := Base ("[]")* "..."?
    Base := boolean | int | float | string | flag | the name of a declared enum

`ParamType.render` writes a type and `ParamType.parse?` reads one. Reading goes from the right: the
vararg mark first, then the array marks, and what is left must be a keyword or the name of an enum
of the cookbook. A keyword wins over an enum of the same name, and there is no array of flags.
-/

namespace Cookery

/-- The built-in scalar types. -/
inductive Primitive where
  | boolean
  | int
  | float
  | string
deriving DecidableEq, Inhabited

/-- A type without vararg mark. -/
inductive BaseType where
  | primitive (p : Primitive)
  | flag
  | enumRef (name : String)
  | array (item : BaseType)
deriving DecidableEq, Inhabited

/-- A type. A vararg takes any number of values of its base. -/
structure ParamType where
  base : BaseType
  vararg : Bool := false
deriving DecidableEq, Inhabited

/-! ## Writing -/

namespace Primitive

def keyword : Primitive → String
  | boolean => "boolean"
  | int => "int"
  | float => "float"
  | string => "string"

def ofKeyword? : String → Option Primitive
  | "boolean" => some boolean
  | "int" => some int
  | "float" => some float
  | "string" => some string
  | _ => none

end Primitive

/-- The words that name built-in types, which no enum may take. -/
def builtinKeywords : List String :=
  ["boolean", "int", "float", "string", "flag"]

def BaseType.render : BaseType → String
  | primitive p => p.keyword
  | flag => "flag"
  | enumRef name => name
  | array item => item.render ++ "[]"

def ParamType.render (t : ParamType) : String :=
  if t.vararg then t.base.render ++ "..." else t.base.render

/-! ## Reading -/

/-- Wraps a base into `depth` arrays. -/
def BaseType.nest (base : BaseType) : Nat → BaseType
  | 0 => base
  | depth + 1 => array (base.nest depth)

/-- Counts the array marks at the end of a word. The word is given in reverse, and so is what is
left of it. -/
def peelArrays : List Char → Nat × List Char
  | ']' :: '[' :: cs => ((peelArrays cs).1 + 1, (peelArrays cs).2)
  | cs => (0, cs)

/-- Takes the vararg mark off the end of a word that is given in reverse. -/
def peelVararg : List Char → Bool × List Char
  | '.' :: '.' :: '.' :: cs => (true, cs)
  | cs => (false, cs)

/-- The base that a word without marks names, under `depth` arrays. -/
def BaseType.ofWord? (cb : Cookbook) (word : String) (depth : Nat) : Option BaseType :=
  match Primitive.ofKeyword? word with
  | some p => some (primitive p)
  | none =>
    if word = "flag" then if depth = 0 then some flag else none
    else if (cb.findEnum? word).isSome then some (enumRef word)
    else none

/-- Reads a type in the context of a cookbook. -/
def ParamType.parse? (cb : Cookbook) (s : String) : Option ParamType :=
  let (vararg, cs) := peelVararg s.toList.reverse
  let (depth, word) := peelArrays cs
  (BaseType.ofWord? cb (String.ofList word.reverse) depth).map fun base ↦ ⟨base.nest depth, vararg⟩

/-- The message for a word that is no type. -/
def ParamType.unresolvedMessage (s : String) : String :=
  s!"`{s}` does not name a type"

/-! ## Views -/

/-- The enum at the bottom of a type. -/
def BaseType.enumName? : BaseType → Option String
  | enumRef name => some name
  | array item => item.enumName?
  | primitive _ => none
  | flag => none

def BaseType.isArray : BaseType → Bool
  | array _ => true
  | _ => false

namespace ParamType

/-- The type of a single string. -/
def string : ParamType := ⟨.primitive .string, false⟩

/-- The type of the members of an enum. -/
def enumRef (name : String) : ParamType := ⟨.enumRef name, false⟩

def isFlag (t : ParamType) : Bool :=
  t.base == .flag

/-- A single truth value, which accessors ask for with `is`. -/
def isBooleanLike (t : ParamType) : Bool :=
  !t.vararg && (t.base == .primitive .boolean || t.base == .flag)

/-- Whether the values of the type are lists. -/
def isSequence (t : ParamType) : Bool :=
  t.vararg || t.base.isArray

/-- The type of the items of a sequence: what a vararg repeats, or what an array holds. -/
def element? (t : ParamType) : Option ParamType :=
  if t.vararg then some ⟨t.base, false⟩
  else match t.base with
    | .array item => some ⟨item, false⟩
    | _ => none

/-- The type with a vararg turned into an array, as overloads see it. -/
def erase (t : ParamType) : ParamType :=
  if t.vararg then ⟨.array t.base, false⟩ else t

def enumName? (t : ParamType) : Option String :=
  t.base.enumName?

end ParamType

/-- The text of a list of parameter types. -/
def renderSignature (types : List ParamType) : String :=
  "(" ++ ", ".intercalate (types.map ParamType.render) ++ ")"

end Cookery
