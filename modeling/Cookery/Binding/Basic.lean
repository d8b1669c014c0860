import Cookery.Conformance
import Cookery.Identifier

/-!
# Bindings

A binding says how one target language spells types, literals, identifiers and accessor names. It is
a record of tables and spelling functions. Only the tables, the types and the syntax of literals
have to be given; names are then formed in the usual way, and a binding may give its own functions
in place of the usual ones.

Literals are the same: `Spelling.spellValue` decides which literals fit a type and hands each one to
the language when it is already known to be of its type, so that a binding only chooses syntax. A
binding that maps literals in this way is a standard one, and all that come with the tool are.
-/

namespace Cookery

/-- A literal together with what its type says about it, ready to be spelled. -/
inductive TypedLiteral where
  | bool (b : Bool)
  | int (i : Int64)
  | float (x : Binary64)
  | string (s : String)
  /-- A member of a declared enum; both names are identifiers of the binding. -/
  | enumMember (enumIdent memberIdent : String)
  /-- A list whose items have been spelled. -/
  | array (element : ParamType) (items : List String)

/-- A name with reserved words escaped. -/
def escapeReserved (reserved : List String) (escape : String → String) (name : String) : String :=
  if reserved.contains name then escape name else name

/-- How a target language spells things. -/
structure Spelling where
  /-- The name under which the binding is chosen. -/
  name : String
  language : String
  /-- The extension of source files. -/
  extension : String
  /-- Words that cannot be identifiers. -/
  reserved : List String
  /-- Accessors that every type inherits, and that no generated accessor may redefine. -/
  inheritedAccessors : List String
  /-- A type; the flag asks for the array form of a vararg. -/
  mapType : ParamType → Bool → String
  /-- A literal. -/
  spell : TypedLiteral → String
  /-- Makes an identifier of a reserved word. -/
  escape : String → String := fun name ↦ "_" ++ name
  /-- A name as an identifier of the language. -/
  mapIdentifier : String → String := escapeReserved reserved escape
  /-- The identifier of an enum member. -/
  mapEnumMember : String → String := fun value ↦ mapIdentifier (sanitize value)
  /-- Marks an accessor name that is inherited already. -/
  disambiguateAccessor : String → String := fun name ↦
    if inheritedAccessors.contains name then name ++ "_" else name
  /-- The accessor of a field, before inherited names are avoided; the flag asks for the form of a
  truth value. -/
  accessorName : Bool → String → String := fun truth field ↦
    (if truth then "is" else "get") ++ capitalize field
  /-- The accessor of a field. Truth values have a form of their own, except in and for groups; the
  flag says whether it is for one. -/
  mapAccessorName : String → ParamType → Bool → String := fun field t compound ↦
    disambiguateAccessor (accessorName (!compound && t.isBooleanLike) field)

/-! ## Literals -/

namespace Spelling

/-- The place that errors about a literal of this language name. -/
def literalSubject (b : Spelling) : String :=
  b.name ++ " literal"

/-- The error of a value whose form does not fit the type. -/
def mismatch (b : Spelling) (t : ParamType) (v : Literal) : SchemaError :=
  .valueTypeMismatch b.literalSubject t.render v.text

/-- Spells a literal of a type without vararg mark. -/
def spellBaseValue (b : Spelling) (cb : Cookbook) :
    BaseType → Literal → Except SchemaError String
  | .array item, .list items => do
    let texts ← items.mapM fun v ↦ b.spellBaseValue cb item v
    return b.spell (.array ⟨item, false⟩ texts)
  | .primitive .boolean, .bool x => .ok (b.spell (.bool x))
  | .flag, .bool x => .ok (b.spell (.bool x))
  | .primitive .int, .int i =>
    if fitsInt32 i then .ok (b.spell (.int i))
    else .error (b.mismatch ⟨.primitive .int, false⟩ (.int i))
  | .primitive .float, .float x => .ok (b.spell (.float x))
  | .primitive .float, .int i => .ok (b.spell (.float (.ofInt i.toInt)))
  | .primitive .string, .string s => .ok (b.spell (.string s))
  | .enumRef name, .string member =>
    match cb.findEnum? name with
    | none => .error (.unknownType b.literalSubject name)
    | some d =>
      if d.contains member then
        .ok (b.spell (.enumMember (b.mapIdentifier name) (b.mapEnumMember member)))
      else .error (.valueNotInEnum name member)
  | base, v => .error (b.mismatch ⟨base, false⟩ v)

/-- Spells a literal of a type, item by item for sequences. -/
def spellValue (b : Spelling) (cb : Cookbook) (t : ParamType) (v : Literal) :
    Except SchemaError String :=
  if t.vararg then
    match v with
    | .list items => do
      let texts ← items.mapM fun v ↦ b.spellBaseValue cb t.base v
      return b.spell (.array ⟨t.base, false⟩ texts)
    | v => .error (b.mismatch t v)
  else b.spellBaseValue cb t.base v

end Spelling

/-! ## Bindings -/

/-- A target language, with the way in which it maps literals. -/
structure Binding extends Spelling where
  /-- The text of a literal of a type, or why it is none. -/
  mapValue : Cookbook → ParamType → Literal → Except SchemaError String := toSpelling.spellValue

/-- Whether a binding maps literals in the usual way. -/
def Binding.IsStandard (b : Binding) : Prop :=
  b.mapValue = b.toSpelling.spellValue

end Cookery
