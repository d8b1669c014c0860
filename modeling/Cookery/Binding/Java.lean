import Cookery.Binding.Basic
import Cookery.Text.StringLiteral

/-!
# The Java binding

Arrays are `T[]` and varargs `T...`. Array literals name their element type.
-/

namespace Cookery.Java

/-- Keywords and literals. -/
def reserved : List String :=
  ["abstract", "assert", "boolean", "break", "byte", "case", "catch", "char", "class", "const",
    "continue", "default", "do", "double", "else", "enum", "extends", "false", "final",
    "finally", "float", "for", "goto", "if", "implements", "import", "instanceof", "int",
    "interface", "long", "native", "new", "null", "package", "private", "protected", "public",
    "return", "short", "static", "strictfp", "super", "switch", "synchronized", "this", "throw",
    "throws", "transient", "true", "try", "var", "void", "volatile", "while", "yield", "record"]

/-- Methods of every object. -/
def objectMethods : List String :=
  ["getClass", "hashCode", "equals", "clone", "toString", "notify", "notifyAll", "wait",
    "finalize"]

def identifier (name : String) : String :=
  escapeReserved reserved (fun name ↦ "_" ++ name) name

def baseType : BaseType → String
  | .primitive .boolean => "boolean"
  | .primitive .int => "int"
  | .primitive .float => "double"
  | .primitive .string => "String"
  | .flag => "boolean"
  | .enumRef name => identifier name
  | .array item => baseType item ++ "[]"

def mapType (t : ParamType) (arrayForm : Bool) : String :=
  if t.vararg then baseType t.base ++ (if arrayForm then "[]" else "...") else baseType t.base

/-- Floats, with names for those that have no digits. -/
def float (x : Binary64) : String :=
  if x.isNaN then "Double.NaN"
  else if x.isInfinite then
    if x.isNegative then "Double.NEGATIVE_INFINITY" else "Double.POSITIVE_INFINITY"
  else x.text

def spell : TypedLiteral → String
  | .bool b => if b then "true" else "false"
  | .int i => toString i.toInt
  | .float x => float x
  | .string s => Text.doubleQuoted s
  | .enumMember enumIdent memberIdent => enumIdent ++ "." ++ memberIdent
  | .array element items =>
    "new " ++ mapType element true ++ "[] \x7b" ++ ", ".intercalate items ++ "\x7d"

end Cookery.Java

namespace Cookery.Binding

/-- Java. -/
def java : Binding where
  name := "java"
  language := "java"
  extension := "java"
  reserved := Java.reserved
  inheritedAccessors := Java.objectMethods
  mapType := Java.mapType
  spell := Java.spell

end Cookery.Binding
