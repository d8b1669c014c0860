import Cookery.Binding.Basic
import Cookery.Text.StringLiteral

/-!
# The Kotlin binding

Sequences are `List<T>`. A vararg parameter is declared with the type of its items, so the native
form of a vararg is its item type. Reserved words stand between backticks.
-/

namespace Cookery.Kotlin

/-- Hard keywords. -/
def reserved : List String :=
  ["as", "break", "class", "continue", "do", "else", "false", "for", "fun", "if", "in",
    "interface", "is", "null", "object", "package", "return", "super", "this", "throw", "true",
    "try", "typealias", "typeof", "val", "var", "when", "while"]

/-- Members of every value, and `getClass`, which the virtual machine adds. -/
def anyMethods : List String :=
  ["equals", "hashCode", "toString", "getClass"]

def escape (name : String) : String :=
  "`" ++ name ++ "`"

def identifier (name : String) : String :=
  escapeReserved reserved escape name

def baseType : BaseType → String
  | .primitive .boolean => "Boolean"
  | .primitive .int => "Int"
  | .primitive .float => "Double"
  | .primitive .string => "String"
  | .flag => "Boolean"
  | .enumRef name => identifier name
  | .array item => "List<" ++ baseType item ++ ">"

def mapType (t : ParamType) (arrayForm : Bool) : String :=
  if t.vararg && arrayForm then "List<" ++ baseType t.base ++ ">" else baseType t.base

/-- Floats, with names for those that have no digits. -/
def float (x : Binary64) : String :=
  if x.isNaN then "Double.NaN"
  else if x.isInfinite then
    if x.isNegative then "Double.NEGATIVE_INFINITY" else "Double.POSITIVE_INFINITY"
  else x.text

def spell : TypedLiteral → String
  | .bool b => if b then "true" else "false"
  | .int i => toString i.toInt
  | .float x => float x
  | .string s => Text.doubleQuotedTemplate s
  | .enumMember enumIdent memberIdent => enumIdent ++ "." ++ memberIdent
  | .array element items =>
    "listOf<" ++ mapType element true ++ ">(" ++ ", ".intercalate items ++ ")"

end Cookery.Kotlin

namespace Cookery.Binding

/-- Kotlin. -/
def kotlin : Binding where
  name := "kotlin"
  language := "kotlin"
  extension := "kt"
  reserved := Kotlin.reserved
  inheritedAccessors := Kotlin.anyMethods
  escape := Kotlin.escape
  mapType := Kotlin.mapType
  spell := Kotlin.spell

end Cookery.Binding
