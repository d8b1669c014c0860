import Cookery.Binding.Basic
import Cookery.Text.StringLiteral

/-!
# The Python binding

Types are annotations such as `list[int]`; a native vararg is annotated with its item type.
Accessors are in snake case and never meet an inherited name, and reserved words get a trailing
underscore.
-/

namespace Cookery.Python

/-- Keywords. -/
def reserved : List String :=
  ["False", "None", "True", "and", "as", "assert", "async", "await", "break", "class",
    "continue", "def", "del", "elif", "else", "except", "finally", "for", "from", "global",
    "if", "import", "in", "is", "lambda", "nonlocal", "not", "or", "pass", "raise", "return",
    "try", "while", "with", "yield"]

def escape (name : String) : String :=
  name ++ "_"

def identifier (name : String) : String :=
  escapeReserved reserved escape name

def baseType : BaseType → String
  | .primitive .boolean => "bool"
  | .primitive .int => "int"
  | .primitive .float => "float"
  | .primitive .string => "str"
  | .flag => "bool"
  | .enumRef name => identifier name
  | .array item => "list[" ++ baseType item ++ "]"

def mapType (t : ParamType) (arrayForm : Bool) : String :=
  if t.vararg && arrayForm then "list[" ++ baseType t.base ++ "]" else baseType t.base

def accessorName (truth : Bool) (field : String) : String :=
  (if truth then "is_" else "get_") ++ snakeCase field

/-- Floats, with a conversion for those that have no digits. -/
def float (x : Binary64) : String :=
  if x.isNaN then "float(\"nan\")"
  else if x.isInfinite then if x.isNegative then "float(\"-inf\")" else "float(\"inf\")"
  else x.text

def spell : TypedLiteral → String
  | .bool b => if b then "True" else "False"
  | .int i => toString i.toInt
  | .float x => float x
  | .string s => Text.doubleQuoted s
  | .enumMember enumIdent memberIdent => enumIdent ++ "." ++ memberIdent
  | .array _ items => "[" ++ ", ".intercalate items ++ "]"

end Cookery.Python

namespace Cookery.Binding

/-- Python. -/
def python : Binding where
  name := "python"
  language := "python"
  extension := "py"
  reserved := Python.reserved
  inheritedAccessors := []
  escape := Python.escape
  accessorName := Python.accessorName
  mapType := Python.mapType
  spell := Python.spell

end Cookery.Binding
