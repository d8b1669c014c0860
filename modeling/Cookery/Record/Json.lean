import Cookery.Json.Basic
import Cookery.Record.Basic

/-!
# Records as JSON

Fields come in a fixed order, the kind of the record first. A missing default or group type is left
out.
-/

namespace Cookery

def ConstantRecord.toJson (r : ConstantRecord) : Json :=
  .obj [("value", .str r.value), ("ident", .str r.ident), ("literal", .str r.literal)]

def FieldRecord.toJson (r : FieldRecord) : Json :=
  .obj ([("name", .str r.name), ("ident", .str r.ident), ("ty", .str r.type),
    ("schema_type", .str r.schemaType)] ++ Json.field? "default" (r.default.map .str))

def ParamRecord.toJson (r : ParamRecord) : Json :=
  .obj [("name", .str r.name), ("ident", .str r.ident), ("ty", .str r.type),
    ("vararg", .bool r.vararg)]

def AssignmentRecord.toJson (r : AssignmentRecord) : Json :=
  .obj [("field", .str r.field), ("ident", .str r.ident), ("value", .str r.value)]

def InitializerRecord.toJson (r : InitializerRecord) : Json :=
  .obj [("params", .arr (r.params.map ParamRecord.toJson)),
    ("defaults", .arr (r.defaults.map AssignmentRecord.toJson)),
    ("signature", .str r.signature)]

def OptionalRecord.toJson (r : OptionalRecord) : Json :=
  .obj ([("name", .str r.name), ("ident", .str r.ident), ("repeatable", .bool r.repeatable),
    ("flag", .bool r.flag), ("params", .arr (r.params.map ParamRecord.toJson))] ++
    Json.field? "compound" (r.compound.map .str))

def AccessorRecord.toJson (r : AccessorRecord) : Json :=
  .obj [("field", .str r.field), ("name", .str r.name), ("ty", .str r.type),
    ("repeatable", .bool r.repeatable)]

def CompoundRecord.toJson (r : CompoundRecord) : Json :=
  .obj [("optional", .str r.optional), ("ident", .str r.ident),
    ("fields", .arr (r.fields.map ParamRecord.toJson)),
    ("accessors", .arr (r.accessors.map AccessorRecord.toJson))]

def MemberRecord.toJson (r : MemberRecord) : Json :=
  .obj [("value", .str r.value), ("ident", .str r.ident), ("literal", .str r.literal)]

/-- A record as JSON. -/
def ArtifactRecord.toJson : ArtifactRecord → Json
  | ingredient r =>
    .obj [("kind", .str RecordKind.ingredient.text), ("binding", .str r.binding),
      ("name", .str r.name), ("ident", .str r.ident), ("keyed", .bool r.keyed),
      ("key_constants", .arr (r.keyConstants.map ConstantRecord.toJson)),
      ("required", .arr (r.required.map FieldRecord.toJson)),
      ("initializers", .arr (r.initializers.map InitializerRecord.toJson)),
      ("optionals", .arr (r.optionals.map OptionalRecord.toJson)),
      ("compounds", .arr (r.compounds.map CompoundRecord.toJson)),
      ("accessors", .arr (r.accessors.map AccessorRecord.toJson))]
  | enum r =>
    .obj [("kind", .str RecordKind.enum.text), ("binding", .str r.binding), ("name", .str r.name),
      ("ident", .str r.ident), ("members", .arr (r.members.map MemberRecord.toJson))]
  | manifest r =>
    .obj [("kind", .str RecordKind.manifest.text), ("binding", .str r.binding),
      ("language", .str r.language), ("extension", .str r.extension), ("domain", .str r.domain),
      ("ingredients", .strings r.ingredients), ("enums", .strings r.enums)]

end Cookery
