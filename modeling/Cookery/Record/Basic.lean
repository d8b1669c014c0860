/-!
# Records

A record says everything that a template needs to write the code for one ingredient, one enum, or
the index of a whole cookbook, in one target language. Types, identifiers, accessor names and
literals are spelled in that language; the names of the cookbook stand beside them.
-/

namespace Cookery

/-- A key constant. -/
structure ConstantRecord where
  value : String
  ident : String
  literal : String
deriving DecidableEq

/-- A required field; its type is the one it is stored with. -/
structure FieldRecord where
  name : String
  ident : String
  type : String
  schemaType : String
  default : Option String
deriving DecidableEq

/-- A parameter of an initializer, a setter or a group. -/
structure ParamRecord where
  name : String
  ident : String
  type : String
  vararg : Bool
deriving DecidableEq

/-- A field that an initializer sets from its default. -/
structure AssignmentRecord where
  field : String
  ident : String
  value : String
deriving DecidableEq

/-- One way to construct an ingredient. -/
structure InitializerRecord where
  params : List ParamRecord
  defaults : List AssignmentRecord
  signature : String
deriving DecidableEq

/-- A setter of an optional field; `compound` is the identifier of the type of its group. -/
structure OptionalRecord where
  name : String
  ident : String
  repeatable : Bool
  flag : Bool
  params : List ParamRecord
  compound : Option String
deriving DecidableEq

/-- A getter. -/
structure AccessorRecord where
  field : String
  name : String
  type : String
  repeatable : Bool
deriving DecidableEq

/-- The type of a group. -/
structure CompoundRecord where
  optional : String
  ident : String
  fields : List ParamRecord
  accessors : List AccessorRecord
deriving DecidableEq

/-- What it takes to build one ingredient. -/
structure IngredientRecord where
  binding : String
  name : String
  ident : String
  keyed : Bool
  keyConstants : List ConstantRecord
  required : List FieldRecord
  initializers : List InitializerRecord
  optionals : List OptionalRecord
  compounds : List CompoundRecord
  accessors : List AccessorRecord
deriving DecidableEq

/-- A member of an enum. -/
structure MemberRecord where
  value : String
  ident : String
  literal : String
deriving DecidableEq

/-- An enum. -/
structure EnumRecord where
  binding : String
  name : String
  ident : String
  members : List MemberRecord
deriving DecidableEq

/-- The index of everything that a binding makes of a cookbook. -/
structure ManifestRecord where
  binding : String
  language : String
  extension : String
  domain : String
  ingredients : List String
  enums : List String
deriving DecidableEq

/-- The kinds of records. -/
inductive RecordKind where
  | ingredient
  | enum
  | manifest
deriving DecidableEq

def RecordKind.text : RecordKind → String
  | ingredient => "ingredient"
  | enum => "enum"
  | manifest => "manifest"

/-- One unit of output. -/
inductive ArtifactRecord where
  | ingredient (r : IngredientRecord)
  | enum (r : EnumRecord)
  | manifest (r : ManifestRecord)
deriving DecidableEq

namespace ArtifactRecord

def kind : ArtifactRecord → RecordKind
  | ingredient _ => .ingredient
  | enum _ => .enum
  | manifest _ => .manifest

/-- The name of the ingredient or enum, and the domain of an index. -/
def name : ArtifactRecord → String
  | ingredient r => r.name
  | enum r => r.name
  | manifest r => r.domain

/-- The name of the binding. -/
def binding : ArtifactRecord → String
  | ingredient r => r.binding
  | enum r => r.binding
  | manifest r => r.binding

end ArtifactRecord

end Cookery
