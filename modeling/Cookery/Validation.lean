import Cookery.Conformance
import Cookery.Duplicate
import Cookery.Identifier
import Cookery.Resolve

/-!
# Validation

A cookbook is valid when it passes sixteen rules. The rules are checked in a fixed order and the
first violation is reported, so a later rule may count on the earlier ones; run on its own, a rule
still gives an answer for every cookbook.

Each rule visits the cookbook in declaration order and reports the first violation it meets.
-/

namespace Cookery

/-- The validation rules. -/
inductive Rule where
  | uniqueIngredientNames
  | uniqueFieldNames
  | typesResolve
  | initializerParamsDeclared
  | requiredCoverage
  | unambiguousInitializers
  | initializerVarargLast
  | optionalShape
  | compoundParams
  | compoundVarargLast
  | uniqueEnumNames
  | enumValues
  | enumNameSyntax
  | flagPlacement
  | defaultsConform
  | keyConstants
deriving DecidableEq

namespace Rule

/-- The rules in the order in which they are checked. -/
def all : List Rule :=
  [uniqueIngredientNames, uniqueFieldNames, typesResolve, initializerParamsDeclared,
    requiredCoverage, unambiguousInitializers, initializerVarargLast, optionalShape, compoundParams,
    compoundVarargLast, uniqueEnumNames, enumValues, enumNameSyntax, flagPlacement, defaultsConform,
    keyConstants]

def name : Rule → String
  | uniqueIngredientNames => "unique-ingredient-names"
  | uniqueFieldNames => "unique-field-names"
  | typesResolve => "types-resolve"
  | initializerParamsDeclared => "initializer-params-declared"
  | requiredCoverage => "required-coverage"
  | unambiguousInitializers => "unambiguous-initializers"
  | initializerVarargLast => "initializer-vararg-last"
  | optionalShape => "optional-shape"
  | compoundParams => "compound-params"
  | compoundVarargLast => "compound-vararg-last"
  | uniqueEnumNames => "unique-enum-names"
  | enumValues => "enum-values"
  | enumNameSyntax => "enum-name-syntax"
  | flagPlacement => "flag-placement"
  | defaultsConform => "defaults-conform"
  | keyConstants => "key-constants"

end Rule

/-! ## What the rules ask of one ingredient or enum -/

namespace Ingredient

/-- The type of the first required field of a name. A name without field is reported as a parameter
of the first initializer. -/
def requiredType (cb : Cookbook) (i : Ingredient) (field : String) :
    Except SchemaError ParamType :=
  match i.findRequired? field with
  | none => .error (.undeclaredInitializerParam i.name 0 field)
  | some r => cb.resolve (fieldSubject i.name r.name) r.type

/-- The types of the parameters of an initializer. -/
def paramTypes (cb : Cookbook) (i : Ingredient) (init : Initializer) :
    Except SchemaError (List ParamType) :=
  init.params.mapM (i.requiredType cb)

/-- The initializers with their positions. -/
def indexedInitializers (i : Ingredient) : List (Initializer × Nat) :=
  i.initializers.zipIdx

def checkTypesResolve (cb : Cookbook) (i : Ingredient) : Except SchemaError Unit := do
  i.required.forM fun r ↦ discard <| cb.resolve (fieldSubject i.name r.name) r.type
  i.optionals.forM fun o ↦ do
    o.type.forM fun type ↦ discard <| cb.resolve (fieldSubject i.name o.name) type
    (o.params.getD []).forM fun p ↦
      discard <| cb.resolve (memberSubject i.name o.name p.name) p.type

def checkParamsDeclared (i : Ingredient) : Except SchemaError Unit :=
  i.indexedInitializers.forM fun (init, index) ↦
    match init.params.find? fun p ↦ (i.findRequired? p).isNone with
    | some p => .error (.undeclaredInitializerParam i.name index p)
    | none => .ok ()

def checkCoverage (i : Ingredient) : Except SchemaError Unit :=
  (i.required.filter (·.default.isNone)).forM fun r ↦
    i.indexedInitializers.forM fun (init, index) ↦
      if init.params.contains r.name then .ok ()
      else .error (.missingRequiredCoverage i.name index r.name)

/-- Compares the erased signature of each initializer with those of the earlier ones. -/
def checkSignaturesAfter (cb : Cookbook) (i : Ingredient) (seen : List (List ParamType × Nat)) :
    List (Initializer × Nat) → Except SchemaError Unit
  | [] => .ok ()
  | (init, index) :: rest => do
    let signature := (← i.paramTypes cb init).map ParamType.erase
    match seen.lookup signature with
    | some first =>
      .error (.ambiguousInitializerSignature i.name first index (renderSignature signature))
    | none => i.checkSignaturesAfter cb ((signature, index) :: seen) rest

/-- No two initializers take the same types. Varargs count as arrays, as they do when a target
language chooses between overloads. -/
def checkSignatures (cb : Cookbook) (i : Ingredient) : Except SchemaError Unit :=
  i.checkSignaturesAfter cb [] i.indexedInitializers

end Ingredient

/-- A vararg may only come last. -/
def checkVarargLast (owner : ParamOwner) : List (String × ParamType) → Except SchemaError Unit
  | [] => .ok ()
  | [_] => .ok ()
  | (name, t) :: rest =>
    if t.vararg then .error (.misplacedVararg owner name) else checkVarargLast owner rest

namespace Ingredient

def checkInitializerVarargs (cb : Cookbook) (i : Ingredient) : Except SchemaError Unit :=
  i.indexedInitializers.forM fun (init, index) ↦ do
    let types ← i.paramTypes cb init
    checkVarargLast (.initializer index i.name) (init.params.zip types)

def checkOptionalShapes (i : Ingredient) : Except SchemaError Unit :=
  i.optionals.forM fun o ↦
    match o.type, o.params with
    | some _, some _ => .error (.invalidOptionalShape i.name o.name .bothShapes)
    | none, none => .error (.invalidOptionalShape i.name o.name .noShape)
    | _, _ => .ok ()

def checkCompoundParams (cb : Cookbook) (i : Ingredient) : Except SchemaError Unit :=
  i.optionals.forM fun o ↦
    match o.shape? with
    | some (.compound []) => .error (.invalidOptionalShape i.name o.name .emptyParams)
    | some (.compound params) => do
      let types ← cb.groupTypes i.name o.name params
      if types.any ParamType.isFlag then .error (.invalidOptionalShape i.name o.name .flagParam)
    | _ => .ok ()

def checkCompoundVarargs (cb : Cookbook) (i : Ingredient) : Except SchemaError Unit :=
  i.optionals.forM fun o ↦
    match o.shape? with
    | some (.compound params) => do
      let types ← cb.groupTypes i.name o.name params
      checkVarargLast (.optional o.name i.name) ((params.map (·.name)).zip types)
    | _ => .ok ()

def checkFlags (cb : Cookbook) (i : Ingredient) : Except SchemaError Unit := do
  i.required.forM fun r ↦ do
    if (← i.requiredType cb r.name).isFlag then .error (.flagNotAllowed i.name r.name)
  i.optionals.forM fun o ↦
    match o.shape? with
    | some (.simple type) => do
      let t ← cb.resolve (fieldSubject i.name o.name) type
      if t.isFlag && t.vararg then .error (.invalidOptionalShape i.name o.name .varargFlag)
    | _ => .ok ()

def checkDefaults (cb : Cookbook) (i : Ingredient) : Except SchemaError Unit :=
  i.required.forM fun r ↦
    match r.default with
    | none => .ok ()
    | some v => do
      let subject := fieldSubject i.name r.name
      let t ← cb.resolve subject r.type
      (t.check cb v).mapError (SchemaError.ofValueError subject)

def checkKeyConstants (i : Ingredient) : Except SchemaError Unit :=
  if !i.keyed && !i.keyConstants.isEmpty then .error (.invalidKeyConstants i.name .notKeyed)
  else match firstDuplicate? i.keyConstants with
    | some c => .error (.invalidKeyConstants i.name (.duplicateConstant c))
    | none => .ok ()

end Ingredient

namespace EnumDef

def checkValues (d : EnumDef) : Except SchemaError Unit :=
  if d.values.isEmpty then .error (.invalidEnum d.name .noValues)
  else match firstDuplicate? d.values with
    | some v => .error (.invalidEnum d.name (.duplicateValue v))
    | none => .ok ()

def checkName (d : EnumDef) : Except SchemaError Unit :=
  if !isIdentifier d.name then .error (.invalidEnum d.name .notIdentifier)
  else if builtinKeywords.contains d.name then .error (.invalidEnum d.name .shadowsBuiltin)
  else .ok ()

end EnumDef

/-! ## The rules on a whole cookbook -/

/-- Checks one rule. -/
def Rule.check (cb : Cookbook) : Rule → Except SchemaError Unit
  | uniqueIngredientNames => refuseDuplicate .ingredient none (cb.ingredients.map (·.name))
  | uniqueFieldNames =>
    cb.ingredients.forM fun i ↦ refuseDuplicate .field (some i.name) i.fieldNames
  | typesResolve => cb.ingredients.forM (·.checkTypesResolve cb)
  | initializerParamsDeclared => cb.ingredients.forM (·.checkParamsDeclared)
  | requiredCoverage => cb.ingredients.forM (·.checkCoverage)
  | unambiguousInitializers => cb.ingredients.forM (·.checkSignatures cb)
  | initializerVarargLast => cb.ingredients.forM (·.checkInitializerVarargs cb)
  | optionalShape => cb.ingredients.forM (·.checkOptionalShapes)
  | compoundParams => cb.ingredients.forM (·.checkCompoundParams cb)
  | compoundVarargLast => cb.ingredients.forM (·.checkCompoundVarargs cb)
  | uniqueEnumNames => refuseDuplicate .enum none (cb.enums.map (·.name))
  | enumValues => cb.enums.forM (·.checkValues)
  | enumNameSyntax => cb.enums.forM (·.checkName)
  | flagPlacement => cb.ingredients.forM (·.checkFlags cb)
  | defaultsConform => cb.ingredients.forM (·.checkDefaults cb)
  | keyConstants => cb.ingredients.forM (·.checkKeyConstants)

/-- Checks all rules in order and reports the first violation. -/
def Cookbook.validate (cb : Cookbook) : Except SchemaError Unit :=
  Rule.all.forM fun rule ↦ rule.check cb

end Cookery
