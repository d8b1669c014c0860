import Cookery.Binary64.Shortest
import Cookery.Text.Quoted

/-!
# Literal values

The values a cookbook may give as defaults. Integers have 64 bits; a number written with a fraction
or an exponent is a float even if it is whole.
-/

namespace Cookery

/-- A literal value. -/
inductive Literal where
  | bool (b : Bool)
  | int (i : Int64)
  | float (x : Binary64)
  | string (s : String)
  | list (items : List Literal)
deriving Inhabited

namespace Literal

/-- What kind of value it is, for messages. -/
def kindName : Literal → String
  | bool _ => "boolean"
  | int _ => "integer"
  | float _ => "float"
  | string _ => "string"
  | list _ => "list"

mutual

/-- A value as messages show it: strings in quotation marks, lists in brackets. -/
def text : Literal → String
  | bool b => if b then "true" else "false"
  | int i => toString i.toInt
  | float x => x.text
  | string s => Text.quoted s
  | list items => "[" ++ ", ".intercalate (texts items) ++ "]"

/-- The items of a list as messages show them. -/
def texts : List Literal → List String
  | [] => []
  | v :: vs => text v :: texts vs

end

end Literal

end Cookery
