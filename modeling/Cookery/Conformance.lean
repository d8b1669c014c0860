import Cookery.ParamType
import Cookery.SchemaError

/-!
# Which literals a type takes

A sequence type takes a list of literals of its item type; `int` takes 32-bit integers, `float`
takes floats and integers, and an enum takes the strings that the first enum of its name lists. The
check follows the type, so that a list is refused with the error of its first bad item, at the level
of that item.
-/

namespace Cookery

/-- Whether an integer has 32 bits. -/
def fitsInt32 (i : Int64) : Bool :=
  Int32.minValue.toInt ≤ i.toInt && i.toInt ≤ Int32.maxValue.toInt

/-- The error of a value whose form does not fit the type. -/
def ParamType.mismatch (t : ParamType) (v : Literal) : ValueError :=
  .mismatch t.render v.text

/-- Checks a literal against a type without vararg mark. -/
def BaseType.check (cb : Cookbook) : BaseType → Literal → Except ValueError Unit
  | array item, .list items => items.forM fun v ↦ item.check cb v
  | primitive .boolean, .bool _ => .ok ()
  | flag, .bool _ => .ok ()
  | primitive .int, .int i =>
    if fitsInt32 i then .ok () else .error (ParamType.mismatch ⟨primitive .int, false⟩ (.int i))
  | primitive .float, .float _ => .ok ()
  | primitive .float, .int _ => .ok ()
  | primitive .string, .string _ => .ok ()
  | enumRef name, .string member =>
    match cb.findEnum? name with
    | none => .error (.unknownEnum name)
    | some d => if d.contains member then .ok () else .error (.notInEnum name member)
  | base, v => .error (ParamType.mismatch ⟨base, false⟩ v)

/-- Checks a literal against a type. -/
def ParamType.check (cb : Cookbook) (t : ParamType) (v : Literal) : Except ValueError Unit :=
  if t.vararg then
    match v with
    | .list items => items.forM fun v ↦ t.base.check cb v
    | v => .error (t.mismatch v)
  else t.base.check cb v

end Cookery
