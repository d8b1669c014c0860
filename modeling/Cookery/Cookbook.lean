import Cookery.Literal

/-!
# Cookbooks

A cookbook is a domain name with ingredients and enums. Ingredients are the things to build: each
has required fields, initializers that each supply some of them, and optional fields. References go
by name, to the first declaration of that name, and types are kept as written: a cookbook is data
that may still be wrong, and `Cookery.Cookbook.validate` says whether it is.
-/

namespace Cookery

/-- A field that an initializer or its default must supply. -/
structure Required where
  name : String
  type : String
  default : Option Literal := none
deriving Inhabited

/-- An ordered choice of required fields. -/
structure Initializer where
  params : List String := []
deriving DecidableEq, Inhabited

/-- A typed member of a group. -/
structure Param where
  name : String
  type : String
deriving DecidableEq, Inhabited

/-- An optional field. A well-formed one sets exactly one of `type` and `params`. -/
structure OptionalField where
  name : String
  type : Option String := none
  params : Option (List Param) := none
  repeatable : Bool := false
deriving DecidableEq, Inhabited

/-- A thing to build. A keyed ingredient is addressed through one of its key constants. -/
structure Ingredient where
  name : String
  keyed : Bool := false
  required : List Required := []
  initializers : List Initializer := []
  optionals : List OptionalField := []
  keyConstants : List String := []
deriving Inhabited

/-- A named list of string values. -/
structure EnumDef where
  name : String
  values : List String := []
deriving DecidableEq, Inhabited

/-- A schema: what the generated code is called and what it builds. -/
structure Cookbook where
  domain : String := ""
  ingredients : List Ingredient := []
  enums : List EnumDef := []
deriving Inhabited

/-- What a well-formed optional field holds: one value, or a group of them. -/
inductive Shape where
  | simple (type : String)
  | compound (params : List Param)
deriving DecidableEq

namespace OptionalField

/-- An optional field that holds one value. -/
def simple (name type : String) (repeatable : Bool) : OptionalField :=
  { name, type := some type, repeatable }

/-- An optional field that holds a group of values. -/
def compound (name : String) (params : List Param) (repeatable : Bool) : OptionalField :=
  { name, params := some params, repeatable }

/-- The shape of an optional field, if it sets exactly one of `type` and `params`. -/
def shape? (o : OptionalField) : Option Shape :=
  match o.type, o.params with
  | some type, none => some (.simple type)
  | none, some params => some (.compound params)
  | _, _ => none

def isCompound (o : OptionalField) : Bool :=
  match o.shape? with
  | some (.compound _) => true
  | _ => false

end OptionalField

namespace EnumDef

def contains (d : EnumDef) (value : String) : Bool :=
  d.values.contains value

end EnumDef

namespace Ingredient

/-- The first required field of the given name. -/
def findRequired? (i : Ingredient) (name : String) : Option Required :=
  i.required.find? (·.name == name)

/-- The names of all fields, required ones first, in declaration order. -/
def fieldNames (i : Ingredient) : List String :=
  i.required.map (·.name) ++ i.optionals.map (·.name)

/-- Makes an ingredient keyed, with these constants and no others. -/
def withKeys (i : Ingredient) (constants : List String) : Ingredient :=
  { i with keyed := true, keyConstants := constants }

/-- Adds a required field, after the others. -/
def withRequired (i : Ingredient) (r : Required) : Ingredient :=
  { i with required := i.required ++ [r] }

/-- Adds an initializer, after the others. -/
def withInitializer (i : Ingredient) (params : List String) : Ingredient :=
  { i with initializers := i.initializers ++ [⟨params⟩] }

/-- Adds an optional field, after the others. -/
def withOptional (i : Ingredient) (o : OptionalField) : Ingredient :=
  { i with optionals := i.optionals ++ [o] }

end Ingredient

namespace Cookbook

/-- The first enum of the given name. -/
def findEnum? (cb : Cookbook) (name : String) : Option EnumDef :=
  cb.enums.find? (·.name == name)

/-- The first ingredient of the given name. -/
def findIngredient? (cb : Cookbook) (name : String) : Option Ingredient :=
  cb.ingredients.find? (·.name == name)

/-- Declares one more enum, after the others. -/
def withEnum (cb : Cookbook) (d : EnumDef) : Cookbook :=
  { cb with enums := cb.enums ++ [d] }

/-- Declares one more ingredient, after the others. -/
def withIngredient (cb : Cookbook) (i : Ingredient) : Cookbook :=
  { cb with ingredients := cb.ingredients ++ [i] }

end Cookbook

end Cookery
