import Cookery.Binding.Java
import Cookery.Binding.Kotlin
import Cookery.Binding.Python
import Cookery.Binding.TypeScript

/-!
# Sets of bindings

An ordered collection of bindings with distinct names. A binding added under a name that is taken
replaces the earlier one and keeps its place.
-/

namespace Cookery

/-- Bindings, in the order in which their names were first added. -/
structure BindingSet where
  bindings : List Binding := []

namespace BindingSet

/-- The set without bindings. -/
def empty : BindingSet := ⟨[]⟩

/-- Puts `b` in the place of the first binding of its name, or at the end. -/
def insertInto (b : Binding) : List Binding → List Binding
  | [] => [b]
  | c :: cs => if c.name = b.name then b :: cs else c :: insertInto b cs

/-- Adds a binding. -/
def insert (s : BindingSet) (b : Binding) : BindingSet :=
  ⟨insertInto b s.bindings⟩

/-- The bindings that come with the tool. -/
def builtin : BindingSet :=
  [Binding.java, Binding.kotlin, Binding.typescript, Binding.python].foldl insert empty

/-- The binding of a name. -/
def get? (s : BindingSet) (name : String) : Option Binding :=
  s.bindings.find? (·.name == name)

/-- The bindings for a language, in order. -/
def forLanguage (s : BindingSet) (language : String) : List Binding :=
  s.bindings.filter (·.language == language)

/-- The bindings of the given names; fails with the first name that has none. -/
def select (s : BindingSet) (names : List String) : Except String (List Binding) :=
  names.mapM fun name ↦
    match s.get? name with
    | some b => .ok b
    | none => .error name

def names (s : BindingSet) : List String :=
  s.bindings.map (·.name)

def size (s : BindingSet) : Nat :=
  s.bindings.length

def isEmpty (s : BindingSet) : Bool :=
  s.bindings.isEmpty

end BindingSet

end Cookery
