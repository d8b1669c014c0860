import Cookery.Binding.Basic
import Cookery.Duplicate
import Cookery.Record.Basic
import Cookery.Resolve

/-!
# From a cookbook to records

`generate` maps a cookbook through a binding. It is meant for valid cookbooks, but it is defined for
all: whatever it needs and does not find is reported as validation would.

A binding may give two names of the cookbook the same identifier, by changing case, by replacing
characters or by escaping reserved words. Records with such a clash would not compile, so every list
of generated names is checked for duplicates.
-/

namespace Cookery

/-! ## Required fields -/

/-- A required field with its type and the spelling of its default. -/
structure ResolvedField where
  name : String
  type : ParamType
  default : Option String

namespace ResolvedField

/-- Reads the type of a required field and spells its default. -/
def ofRequired (b : Binding) (cb : Cookbook) (ingredient : String) (r : Required) :
    Except SchemaError ResolvedField := do
  let type ← cb.resolve (fieldSubject ingredient r.name) r.type
  let default ← r.default.mapM fun v ↦ b.mapValue cb type v
  return { name := r.name, type, default }

def toRecord (b : Binding) (f : ResolvedField) : FieldRecord where
  name := f.name
  ident := b.mapIdentifier f.name
  type := b.mapType f.type true
  schemaType := f.type.render
  default := f.default

def accessor (b : Binding) (f : ResolvedField) : AccessorRecord where
  field := f.name
  name := b.mapAccessorName f.name f.type false
  type := b.mapType f.type true
  repeatable := false

end ResolvedField

/-! ## Initializers -/

/-- The fields that an initializer takes, in its order. -/
def initializerFields (ingredient : String) (fields : List ResolvedField)
    (init : Initializer) (index : Nat) : Except SchemaError (List ResolvedField) :=
  init.params.mapM fun p ↦
    match fields.find? (·.name == p) with
    | some f => .ok f
    | none => .error (.undeclaredInitializerParam ingredient index p)

/-- The parameter types of an initializer as overloads see them. -/
def erasedSignature (fields : List ResolvedField) : List ParamType :=
  fields.map (·.type.erase)

/-- Whether an initializer whose last parameter is a vararg has to take it as an array: called
without any of the variable arguments, it could be mistaken for another initializer. -/
def takesArray (others : List (List ParamType)) (params : List ResolvedField) : Bool :=
  params.getLast?.any (·.type.vararg) && others.contains (erasedSignature params).dropLast

/-- The assignments for the fields that an initializer does not take. -/
def defaultAssignments (b : Binding) (ingredient : String) (fields : List ResolvedField)
    (init : Initializer) (index : Nat) : Except SchemaError (List AssignmentRecord) :=
  (fields.filter fun f ↦ !init.params.contains f.name).mapM fun f ↦
    match f.default with
    | some value => .ok { field := f.name, ident := b.mapIdentifier f.name, value }
    | none => .error (.missingRequiredCoverage ingredient index f.name)

/-- A parameter of an initializer. -/
def initializerParam (b : Binding) (arrayForm : Bool) (f : ResolvedField) : ParamRecord where
  name := f.name
  ident := b.mapIdentifier f.name
  type := b.mapType f.type arrayForm
  vararg := f.type.vararg && !arrayForm

/-- The record of the initializer at `index`, which takes `params`. -/
def initializerRecord (b : Binding) (ingredient : String) (fields : List ResolvedField)
    (signatures : List (List ParamType)) (init : Initializer) (index : Nat)
    (params : List ResolvedField) : Except SchemaError InitializerRecord := do
  let arrayForm := takesArray (signatures.eraseIdx index) params
  let defaults ← defaultAssignments b ingredient fields init index
  return {
    params := params.map (initializerParam b arrayForm)
    defaults
    signature := renderSignature (params.map (·.type)) }

/-- The records of all initializers of an ingredient. -/
def initializerRecords (b : Binding) (ingredient : String) (fields : List ResolvedField)
    (initializers : List Initializer) : Except SchemaError (List InitializerRecord) := do
  let taken ← initializers.zipIdx.mapM fun (init, index) ↦
    initializerFields ingredient fields init index
  let signatures := taken.map erasedSignature
  (initializers.zip taken).zipIdx.mapM fun ((init, params), index) ↦
    initializerRecord b ingredient fields signatures init index params

/-! ## Optional fields -/

/-- A parameter of a setter or a member of a group. -/
def setterParam (b : Binding) (name : String) (t : ParamType) : ParamRecord where
  name := name
  ident := b.mapIdentifier name
  type := b.mapType t false
  vararg := t.vararg

/-- What an optional field contributes to the record of its ingredient. -/
structure OptionalParts where
  setter : OptionalRecord
  accessor : AccessorRecord
  compound : Option CompoundRecord

/-- The parts of an optional field that holds a single value. A flag is set without parameter. -/
def simpleParts (b : Binding) (o : OptionalField) (t : ParamType) : OptionalParts where
  setter := {
    name := o.name
    ident := b.mapIdentifier o.name
    repeatable := o.repeatable
    flag := t.isFlag
    params := if t.isFlag then [] else [setterParam b o.name t]
    compound := none }
  accessor := {
    field := o.name
    name := b.mapAccessorName o.name t false
    type := b.mapType t true
    repeatable := o.repeatable }
  compound := none

/-- The type of the group that an optional field holds. -/
def compoundRecord (b : Binding) (optional : String) (members : List (Param × ParamType)) :
    CompoundRecord where
  optional := optional
  ident := b.mapIdentifier (capitalize optional)
  fields := members.map fun (p, t) ↦ setterParam b p.name t
  accessors := members.map fun (p, t) ↦ {
    field := p.name
    name := b.mapAccessorName p.name t true
    type := b.mapType t true
    repeatable := false }

/-- The parts of an optional field that holds a group whose first member has type `first`. -/
def compoundParts (b : Binding) (o : OptionalField) (first : ParamType) (c : CompoundRecord) :
    OptionalParts where
  setter := {
    name := o.name
    ident := b.mapIdentifier o.name
    repeatable := o.repeatable
    flag := false
    params := c.fields
    compound := some c.ident }
  accessor := {
    field := o.name
    name := b.mapAccessorName o.name first true
    type := c.ident
    repeatable := o.repeatable }
  compound := some c

/-- Maps an optional field. -/
def optionalParts (b : Binding) (cb : Cookbook) (ingredient : String) (o : OptionalField) :
    Except SchemaError OptionalParts :=
  match o.shape? with
  | none => .error (.invalidOptionalShape ingredient o.name .unshaped)
  | some (.simple type) => do
    let t ← cb.resolve (fieldSubject ingredient o.name) type
    return simpleParts b o t
  | some (.compound params) => do
    match ← cb.groupTypes ingredient o.name params with
    | [] => .error (.invalidOptionalShape ingredient o.name .emptyParams)
    | first :: rest =>
      let c := compoundRecord b o.name (params.zip (first :: rest))
      let owner := fieldSubject ingredient o.name
      ensureDistinct .field (some owner) (c.fields.map (·.ident))
      ensureDistinct .accessor (some owner) (c.accessors.map (·.name))
      return compoundParts b o first c

/-! ## Whole records -/

/-- A key constant: an identifier in capitals and the key as a string literal. -/
def constantRecord (b : Binding) (cb : Cookbook) (value : String) :
    Except SchemaError ConstantRecord := do
  let literal ← b.mapValue cb .string (.string value)
  return { value, ident := b.mapIdentifier (upperSnakeCase (sanitize value)), literal }

/-- The record of an ingredient. -/
def ingredientRecord (b : Binding) (cb : Cookbook) (i : Ingredient) :
    Except SchemaError IngredientRecord := do
  let fields ← i.required.mapM (ResolvedField.ofRequired b cb i.name)
  let initializers ← initializerRecords b i.name fields i.initializers
  let parts ← i.optionals.mapM (optionalParts b cb i.name)
  let ident := b.mapIdentifier i.name
  let required := fields.map (·.toRecord b)
  let optionals := parts.map (·.setter)
  let compounds := parts.filterMap (·.compound)
  let accessors := fields.map (·.accessor b) ++ parts.map (·.accessor)
  ensureDistinct .field (some i.name) (required.map (·.ident) ++ optionals.map (·.ident))
  ensureDistinct .accessor (some i.name) (accessors.map (·.name))
  ensureDistinct .compound (some i.name) (ident :: compounds.map (·.ident))
  let keyConstants ← i.keyConstants.mapM (constantRecord b cb)
  ensureDistinct .keyConstant (some i.name) (keyConstants.map (·.ident))
  return {
    binding := b.name, name := i.name, ident, keyed := i.keyed, keyConstants, required,
    initializers, optionals, compounds, accessors }

/-- A member of an enum, with the literal that refers to it. -/
def memberRecord (b : Binding) (cb : Cookbook) (enumName value : String) :
    Except SchemaError MemberRecord := do
  let literal ← b.mapValue cb (.enumRef enumName) (.string value)
  return { value, ident := b.mapEnumMember value, literal }

/-- The record of an enum. -/
def enumRecord (b : Binding) (cb : Cookbook) (d : EnumDef) : Except SchemaError EnumRecord := do
  let members ← d.values.mapM (memberRecord b cb d.name)
  ensureDistinct .enumMember (some d.name) (members.map (·.ident))
  return { binding := b.name, name := d.name, ident := b.mapIdentifier d.name, members }

/-- The index of a cookbook. -/
def manifestRecord (b : Binding) (cb : Cookbook) : ManifestRecord where
  binding := b.name
  language := b.language
  extension := b.extension
  domain := cb.domain
  ingredients := cb.ingredients.map (·.name)
  enums := cb.enums.map (·.name)

/-- Maps a cookbook through a binding: a record for each ingredient, one for each enum, and the
index. -/
def generate (b : Binding) (cb : Cookbook) : Except SchemaError (List ArtifactRecord) := do
  let ingredients ← cb.ingredients.mapM (ingredientRecord b cb)
  let enums ← cb.enums.mapM (enumRecord b cb)
  return ingredients.map .ingredient ++ enums.map .enum ++ [.manifest (manifestRecord b cb)]

end Cookery
