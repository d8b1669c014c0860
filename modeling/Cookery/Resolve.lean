import Cookery.ParamType
import Cookery.SchemaError

/-!
# Types in their places

Reads the types that a cookbook writes at its fields and group members. A type that cannot be read
is reported with the place where it stands.
-/

namespace Cookery

/-- The place of a field of an ingredient. -/
def fieldSubject (ingredient field : String) : String :=
  s!"{ingredient}.{field}"

/-- The place of a member of a group. -/
def memberSubject (ingredient optional member : String) : String :=
  s!"{ingredient}.{optional}.{member}"

namespace Cookbook

/-- Reads the type written at `subject`. -/
def resolve (cb : Cookbook) (subject type : String) : Except SchemaError ParamType :=
  match ParamType.parse? cb type with
  | some t => .ok t
  | none => .error (.unknownType subject type)

/-- The types of the members of a group, in order. -/
def groupTypes (cb : Cookbook) (ingredient optional : String) (params : List Param) :
    Except SchemaError (List ParamType) :=
  params.mapM fun p ↦ cb.resolve (memberSubject ingredient optional p.name) p.type

end Cookbook

end Cookery
