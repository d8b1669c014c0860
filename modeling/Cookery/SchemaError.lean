/-!
# Why a cookbook is refused

Each constructor is a cause and carries what a message has to name. The wording is in `message`
alone. Subjects such as `Chop.size` name a field by its ingredient, or a member of a group by its
ingredient and optional field.
-/

namespace Cookery

/-- Why a value is not a literal of a type. -/
inductive ValueError where
  | mismatch (expected value : String)
  | notInEnum (enumName value : String)
  | unknownEnum (name : String)
deriving DecidableEq

def ValueError.message : ValueError → String
  | mismatch expected value => s!"`{value}` is not a valid `{expected}` literal"
  | notInEnum enumName value => s!"`{value}` is not a member of enum `{enumName}`"
  | unknownEnum name => s!"enum `{name}` is not declared"

/-- The lists of names that must be free of duplicates. -/
inductive NameScope where
  | ingredient
  | field
  | enum
  | enumMember
  | keyConstant
  | accessor
  | compound
deriving DecidableEq

def NameScope.noun : NameScope → String
  | ingredient => "ingredient"
  | field => "field"
  | enum => "enum"
  | enumMember => "enum member"
  | keyConstant => "key constant"
  | accessor => "accessor"
  | compound => "compound type"

/-- Where a list of parameters stands. -/
inductive ParamOwner where
  | initializer (index : Nat) (ingredient : String)
  | optional (name ingredient : String)
deriving DecidableEq

def ParamOwner.text : ParamOwner → String
  | initializer index ingredient => s!"initializer #{index} of `{ingredient}`"
  | optional name ingredient => s!"optional `{name}` of `{ingredient}`"

/-- What is wrong with an optional field. -/
inductive OptionalFlaw where
  | bothShapes
  | noShape
  | unshaped
  | emptyParams
  | flagParam
  | varargFlag
deriving DecidableEq

def OptionalFlaw.text : OptionalFlaw → String
  | bothShapes => "sets both `type` and `params`"
  | noShape => "sets neither `type` nor `params`"
  | unshaped => "is neither simple nor compound"
  | emptyParams => "has an empty `params` list"
  | flagParam => "has a `flag` param; flags cannot be grouped"
  | varargFlag => "combines `flag` with a vararg modifier"

/-- What is wrong with an enum. -/
inductive EnumFlaw where
  | noValues
  | duplicateValue (value : String)
  | notIdentifier
  | shadowsBuiltin
deriving DecidableEq

def EnumFlaw.text : EnumFlaw → String
  | noValues => "no values"
  | duplicateValue value => s!"duplicate value `{value}`"
  | notIdentifier => "name is not a valid identifier"
  | shadowsBuiltin => "name shadows a built-in type"

/-- What is wrong with the key constants of an ingredient. -/
inductive KeyFlaw where
  | notKeyed
  | duplicateConstant (value : String)
deriving DecidableEq

def KeyFlaw.text : KeyFlaw → String
  | notKeyed => "declared on an ingredient that is not keyed"
  | duplicateConstant value => s!"duplicate constant `{value}`"

/-- Why a cookbook is refused, by a validation rule or by a binding. -/
inductive SchemaError where
  | duplicateName (scope : NameScope) (name : String) (owner : Option String)
  | unknownType (subject type : String)
  | missingRequiredCoverage (ingredient : String) (initializer : Nat) (field : String)
  | undeclaredInitializerParam (ingredient : String) (initializer : Nat) (param : String)
  | ambiguousInitializerSignature (ingredient : String) (first second : Nat) (signature : String)
  | misplacedVararg (owner : ParamOwner) (param : String)
  | invalidOptionalShape (ingredient optional : String) (flaw : OptionalFlaw)
  | invalidEnum (name : String) (flaw : EnumFlaw)
  | valueNotInEnum (enumName value : String)
  | flagNotAllowed (ingredient field : String)
  | valueTypeMismatch (subject expected value : String)
  | invalidKeyConstants (ingredient : String) (flaw : KeyFlaw)
deriving DecidableEq

namespace SchemaError

/-- A value error, attributed to the field or literal it was found at. -/
def ofValueError (subject : String) : ValueError → SchemaError
  | .mismatch expected value => valueTypeMismatch subject expected value
  | .notInEnum enumName value => valueNotInEnum enumName value
  | .unknownEnum name => unknownType subject name

def message : SchemaError → String
  | duplicateName scope name owner =>
    s!"duplicate {scope.noun} name `{name}`" ++
      match owner with
      | some owner => s!" in `{owner}`"
      | none => ""
  | unknownType subject type => s!"unknown type `{type}` for `{subject}`"
  | missingRequiredCoverage ingredient initializer field =>
    s!"initializer #{initializer} of `{ingredient}` does not cover required field `{field}`, " ++
      "which has no default"
  | undeclaredInitializerParam ingredient initializer param =>
    s!"initializer #{initializer} of `{ingredient}` references `{param}`, " ++
      "which is not a required field"
  | ambiguousInitializerSignature ingredient first second signature =>
    s!"initializers #{first} and #{second} of `{ingredient}` share the signature {signature}"
  | misplacedVararg owner param =>
    s!"vararg `{param}` must be the only vararg and come last in {owner.text}"
  | invalidOptionalShape ingredient optional flaw =>
    s!"optional `{optional}` of `{ingredient}` {flaw.text}"
  | invalidEnum name flaw => s!"invalid enum `{name}`: {flaw.text}"
  | valueNotInEnum enumName value => s!"`{value}` is not a member of enum `{enumName}`"
  | flagNotAllowed ingredient field =>
    s!"required field `{field}` of `{ingredient}` cannot be a flag"
  | valueTypeMismatch subject expected value =>
    s!"`{subject}`: `{value}` is not a valid `{expected}` literal"
  | invalidKeyConstants ingredient flaw =>
    s!"invalid key constants on `{ingredient}`: {flaw.text}"

end SchemaError

end Cookery
