import Cookery.Proofs.Conformance

/-!
# How languages write sequences

Every binding that comes with the tool has a spelling function for types and another for literals.
They are written out language by language, but they are alike in how they treat arrays and varargs:
the text of a sequence is made of the text of its items, by a form that depends on the language
alone. `SequenceStyle` is that form, and `Binding.Follows` says that a binding spells by it.

Below all arrays stands one word, the text of a primitive or the identifier of an enum. So the text
of a type over an enum is known from that identifier, `Binding.Follows.mapType_eq`.
-/

namespace Cookery

/-- How a language writes sequences. -/
structure SequenceStyle where
  /-- The type of an array, by the type of its items. -/
  array : String → String
  /-- The native form of a vararg, by the type of its items. -/
  native : String → String
  /-- A list, by the type of its items and their texts. -/
  literal : String → List String → String

namespace SequenceStyle

def java : SequenceStyle where
  array item := item ++ "[]"
  native item := item ++ "..."
  literal item texts := "new " ++ item ++ "[] \x7b" ++ ", ".intercalate texts ++ "\x7d"

def kotlin : SequenceStyle where
  array item := "List<" ++ item ++ ">"
  native item := item
  literal item texts := "listOf<" ++ item ++ ">(" ++ ", ".intercalate texts ++ ")"

def typescript : SequenceStyle where
  array item := item ++ "[]"
  native item := item ++ "[]"
  literal _ texts := "[" ++ ", ".intercalate texts ++ "]"

def python : SequenceStyle where
  array item := "list[" ++ item ++ "]"
  native item := item
  literal _ texts := "[" ++ ", ".intercalate texts ++ "]"

/-- The text of a base type whose innermost items are written `word`. -/
def baseOver (s : SequenceStyle) (word : String) : BaseType → String
  | .array item => s.array (s.baseOver word item)
  | _ => word

/-- The text of a type whose innermost items are written `word`; the flag asks for the array form of
a vararg. -/
def typeOver (s : SequenceStyle) (word : String) (t : ParamType) (arrayForm : Bool) : String :=
  if t.vararg then (if arrayForm then s.array else s.native) (s.baseOver word t.base)
  else s.baseOver word t.base

end SequenceStyle

/-- The bindings that come with the tool, each with the style of its language. -/
def builtinStyles : List (Binding × SequenceStyle) :=
  [(.java, .java), (.kotlin, .kotlin), (.typescript, .typescript), (.python, .python)]

namespace Binding

/-- The binding writes sequences in a style and enums by their identifiers. -/
structure Follows (b : Binding) (s : SequenceStyle) : Prop where
  standard : b.IsStandard
  mapType_array : ∀ item form,
    b.mapType ⟨.array item, false⟩ form = s.array (b.mapType ⟨item, false⟩ form)
  mapType_vararg : ∀ base form,
    b.mapType ⟨base, true⟩ form
      = (if form then s.array else s.native) (b.mapType ⟨base, false⟩ form)
  mapType_enumRef : ∀ name form, b.mapType ⟨.enumRef name, false⟩ form = b.mapIdentifier name
  mapIdentifier_eq : ∀ name, b.mapIdentifier name = escapeReserved b.reserved b.escape name
  spell_array : ∀ item texts,
    b.spell (.array item texts) = s.literal (b.mapType item true) texts
  spell_enumMember : ∀ ident member, b.spell (.enumMember ident member) = ident ++ "." ++ member

theorem follows_of_mem_builtinStyles {b : Binding} {s : SequenceStyle}
    (h : (b, s) ∈ builtinStyles) : b.Follows s := by
  simp only [builtinStyles, List.mem_cons, List.not_mem_nil, or_false, Prod.mk.injEq] at h
  rcases h with ⟨rfl, rfl⟩ | ⟨rfl, rfl⟩ | ⟨rfl, rfl⟩ | ⟨rfl, rfl⟩
  all_goals
    refine ⟨rfl, fun _ _ ↦ rfl, fun _ form ↦ ?_, fun _ _ ↦ rfl, fun _ ↦ rfl, fun _ _ ↦ rfl,
      fun _ _ ↦ rfl⟩
    cases form <;> rfl

theorem exists_mem_builtinStyles {b : Binding} (h : b ∈ BindingSet.builtin.bindings) :
    ∃ s, (b, s) ∈ builtinStyles := by
  have hfst : BindingSet.builtin.bindings = builtinStyles.map Prod.fst := rfl
  rw [hfst] at h
  obtain ⟨⟨_, s⟩, hs, rfl⟩ := List.mem_map.mp h
  exact ⟨s, hs⟩

namespace Follows

variable {b : Binding} {s : SequenceStyle} {name : String}

theorem mapIdentifier_of_mem (h : b.Follows s) (hname : name ∈ b.reserved) :
    b.mapIdentifier name = b.escape name := by
  rw [h.mapIdentifier_eq]
  exact if_pos (List.contains_iff_mem.mpr hname)

theorem mapIdentifier_of_notMem (h : b.Follows s) (hname : name ∉ b.reserved) :
    b.mapIdentifier name = name := by
  rw [h.mapIdentifier_eq]
  exact if_neg fun hcontains ↦ hname (List.contains_iff_mem.mp hcontains)

theorem mapType_base_eq (h : b.Follows s) {base : BaseType} (hbase : base.enumName? = some name)
    (form : Bool) : b.mapType ⟨base, false⟩ form = s.baseOver (b.mapIdentifier name) base := by
  induction base with
  | primitive p => exact nomatch hbase
  | flag => exact nomatch hbase
  | enumRef other =>
    obtain rfl : other = name := Option.some.inj hbase
    exact h.mapType_enumRef other form
  | array item ih => rw [h.mapType_array, ih hbase, SequenceStyle.baseOver]

/-- A type over an enum is written around the identifier of the enum. -/
theorem mapType_eq (h : b.Follows s) {t : ParamType} (ht : t.enumName? = some name)
    (form : Bool) : b.mapType t form = s.typeOver (b.mapIdentifier name) t form := by
  obtain ⟨base, vararg⟩ := t
  have hbase : b.mapType ⟨base, false⟩ form = s.baseOver (b.mapIdentifier name) base :=
    h.mapType_base_eq ht form
  cases vararg with
  | false => exact hbase
  | true =>
    rw [h.mapType_vararg, hbase]
    rfl

/-- In array form a vararg is written like the array that it counts as. -/
theorem mapType_true_eq (h : b.Follows s) (t : ParamType) :
    b.mapType t true = b.mapType ⟨t.erase.base, false⟩ true := by
  obtain ⟨base, vararg⟩ := t
  cases vararg with
  | false => rfl
  | true =>
    rw [h.mapType_vararg]
    exact (h.mapType_array base true).symm

end Follows

end Binding

end Cookery
