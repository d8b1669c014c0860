import Cookery.Cookbook.Decode
import Cookery.Json.Basic

/-!
# Cookbooks as JSON

`Json.source` says how JSON is decoded: a structure is an object, or a list of its fields in
declaration order that may stop early; `null` stands for a missing value where one may be missing.
Integers that have 64 bits are integers, all other numbers are floats.

`Cookbook.toJson` is the way back. What is missing is left out, and everything else is written, also
where it equals its default.
-/

namespace Cookery

/-! ## Literals -/

namespace Literal

/-- The integer literal of an integer that has 64 bits, and the nearest float of any other. -/
def ofInt (i : Int) : Literal :=
  if Int64.minValue.toInt ≤ i && i ≤ Int64.maxValue.toInt then .int (.ofInt i)
  else .float (.ofInt i)

mutual

/-- The literal of a value. There are none for `null` and for objects. -/
def ofJson : Json → Except DecodeError Literal
  | .bool b => .ok (.bool b)
  | .int i => .ok (ofInt i)
  | .float x => .ok (.float x)
  | .str s => .ok (.string s)
  | .arr items => do return .list (← ofJsonList items)
  | .null => .error (.expected "a literal")
  | .obj _ => .error (.expected "a literal")

/-- The literals of the items of a list. -/
def ofJsonList : List Json → Except DecodeError (List Literal)
  | [] => .ok []
  | v :: vs => do return (← ofJson v) :: (← ofJsonList vs)

end

mutual

/-- The JSON value of a literal. JSON has no number for a float that is not finite, and `null`
stands in its place. -/
def toJson : Literal → Json
  | .bool b => .bool b
  | .int i => .int i.toInt
  | .float x => if x.isFinite then .float x else .null
  | .string s => .str s
  | .list items => .arr (toJsonList items)

/-- The JSON values of the items of a list. -/
def toJsonList : List Literal → List Json
  | [] => []
  | v :: vs => toJson v :: toJsonList vs

end

end Literal

/-! ## Decoding -/

namespace Json

def text : Json → Except DecodeError String
  | str s => .ok s
  | _ => .error (.expected "a string")

def truth : Json → Except DecodeError Bool
  | bool b => .ok b
  | _ => .error (.expected "a boolean")

def items : Json → Except DecodeError (List Json)
  | arr items => .ok items
  | _ => .error (.expected "a list")

/-- The entries of a structure. -/
def entries (names : List String) : Json → Except DecodeError (List (String × Json))
  | obj fields => .ok fields
  | arr items =>
    if items.length ≤ names.length then .ok (names.zip items)
    else .error (.expected "fewer elements")
  | _ => .error (.expected "a structure")

/-- How JSON is decoded. -/
def source : Source Json where
  text := text
  bool := truth
  list := items
  entries := entries
  present
    | null => .ok none
    | v => .ok (some v)
  literal := Literal.ofJson

end Json

/-- Decodes a cookbook from JSON, without validating it. -/
def Cookbook.ofJson (v : Json) : Except DecodeError Cookbook :=
  Cookbook.decode Json.source v

/-! ## Encoding -/

section Encoding

variable (literal : Literal → Json)

def EnumDef.toJson (d : EnumDef) : Json :=
  .obj [("name", .str d.name), ("values", .strings d.values)]

def Param.toJson (p : Param) : Json :=
  .obj [("name", .str p.name), ("type", .str p.type)]

def OptionalField.toJson (o : OptionalField) : Json :=
  .obj ([("name", .str o.name)] ++ Json.field? "type" (o.type.map .str) ++
    Json.field? "params" (o.params.map fun ps ↦ .arr (ps.map Param.toJson)) ++
    [("repeatable", .bool o.repeatable)])

def Initializer.toJson (i : Initializer) : Json :=
  .obj [("params", .strings i.params)]

def Required.toJsonWith (r : Required) : Json :=
  .obj ([("name", .str r.name), ("type", .str r.type)] ++
    Json.field? "default" (r.default.map literal))

def Ingredient.toJsonWith (i : Ingredient) : Json :=
  .obj [("name", .str i.name), ("keyed", .bool i.keyed),
    ("required", .arr (i.required.map (Required.toJsonWith literal))),
    ("initializers", .arr (i.initializers.map Initializer.toJson)),
    ("optionals", .arr (i.optionals.map OptionalField.toJson)),
    ("keyConstants", .strings i.keyConstants)]

/-- A cookbook as JSON, with a choice of how literals are written. -/
def Cookbook.toJsonWith (cb : Cookbook) : Json :=
  .obj [("domain", .str cb.domain),
    ("ingredients", .arr (cb.ingredients.map (Ingredient.toJsonWith literal))),
    ("enums", .arr (cb.enums.map EnumDef.toJson))]

end Encoding

/-- A cookbook as JSON. -/
def Cookbook.toJson (cb : Cookbook) : Json :=
  cb.toJsonWith Literal.toJson

end Cookery
