import Cookery.Binding.Basic
import Cookery.Text.StringLiteral

/-!
# The TypeScript binding

All numbers are `number`. A rest parameter has the type of the array it collects, so both forms of a
vararg are the same.
-/

namespace Cookery.TypeScript

/-- Reserved words, those of strict mode and the names of built-in types. -/
def reserved : List String :=
  ["break", "case", "catch", "class", "const", "continue", "debugger", "default", "delete",
    "do", "else", "enum", "export", "extends", "false", "finally", "for", "function", "if",
    "import", "in", "instanceof", "new", "null", "return", "super", "switch", "this", "throw",
    "true", "try", "typeof", "var", "void", "while", "with", "implements", "interface", "let",
    "package", "private", "protected", "public", "static", "yield", "any", "boolean",
    "number", "string", "symbol", "type", "undefined"]

/-- Members of every object. -/
def objectMembers : List String :=
  ["constructor", "hasOwnProperty", "isPrototypeOf", "propertyIsEnumerable", "toLocaleString",
    "toString", "valueOf"]

def identifier (name : String) : String :=
  escapeReserved reserved (fun name ↦ "_" ++ name) name

def baseType : BaseType → String
  | .primitive .boolean => "boolean"
  | .primitive .int => "number"
  | .primitive .float => "number"
  | .primitive .string => "string"
  | .flag => "boolean"
  | .enumRef name => identifier name
  | .array item => baseType item ++ "[]"

def mapType (t : ParamType) (_arrayForm : Bool) : String :=
  if t.vararg then baseType t.base ++ "[]" else baseType t.base

/-- Floats, with names for those that have no digits. -/
def float (x : Binary64) : String :=
  if x.isNaN then "NaN"
  else if x.isInfinite then if x.isNegative then "-Infinity" else "Infinity"
  else x.text

def spell : TypedLiteral → String
  | .bool b => if b then "true" else "false"
  | .int i => toString i.toInt
  | .float x => float x
  | .string s => Text.doubleQuoted s
  | .enumMember enumIdent memberIdent => enumIdent ++ "." ++ memberIdent
  | .array _ items => "[" ++ ", ".intercalate items ++ "]"

end Cookery.TypeScript

namespace Cookery.Binding

/-- TypeScript. -/
def typescript : Binding where
  name := "typescript"
  language := "typescript"
  extension := "ts"
  reserved := TypeScript.reserved
  inheritedAccessors := TypeScript.objectMembers
  mapType := TypeScript.mapType
  spell := TypeScript.spell

end Cookery.Binding
