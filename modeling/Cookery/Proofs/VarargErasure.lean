import Cookery.Proofs.EnumReferences
import Cookery.Proofs.VarargExposure

/-!
# Varargs as arrays, in types and in literals

A vararg counts as an array wherever it is not the way to pass arguments: where overloads are
compared, in the type that a field is stored with, and in the literal of a default. That rule is
written down in four places that do not refer to each other. `ParamType.erase` turns the type
around, `ParamType.element?` says what the items are, every language has a form of the type for
storage, and every language that names types in its lists puts such a name together anew. A default
compiles only if all four agree.

They agree through the type of the items. A sequence is stored with the array type over the type of
its items, and a list is written with that same type, so that the language builds what the field
stores.
-/

namespace Cookery

/-- A binding treats varargs as arrays in storage. -/
structure Binding.ErasesVarargs (b : Binding) : Prop where
  /-- The type for storage is the type of the array, in either form. -/
  mapType_erase : ∀ t arrayForm, b.mapType t true = b.mapType t.erase arrayForm
  /-- Only varargs have a form of their own for arguments, and in TypeScript not even these. -/
  mapType_native_iff : ∀ t,
    b.mapType t false = b.mapType t true ↔ t.vararg = false ∨ b = .typescript
  /-- A vararg has the literals of the array, with the same texts. -/
  mapValue_erase_iff : ∀ cb t v text,
    b.mapValue cb t v = .ok text ↔ b.mapValue cb t.erase v = .ok text
  /-- The literal of a sequence is put together from its items, in order, and constructs what the
  type for storage says. -/
  mapValue_sequence : ∀ cb t v text, t.isSequence = true → b.mapValue cb t v = .ok text →
    ∃ element items texts, t.element? = some element ∧ v = .list items ∧
      List.Forall₂ (fun item text ↦ b.mapValue cb element item = .ok text) items texts ∧
      (b = .java → text
        = "new " ++ b.mapType t true ++ " \x7b" ++ ", ".intercalate texts ++ "\x7d") ∧
      (b = .kotlin → (∃ item, b.mapType t true = "List<" ++ item ++ ">") ∧
        ∀ item, b.mapType t true = "List<" ++ item ++ ">" →
          text = "listOf<" ++ item ++ ">(" ++ ", ".intercalate texts ++ ")")

/-! ## Items of a sequence -/

namespace ParamType

variable {t element : ParamType}

theorem isSequence_iff : t.isSequence = true ↔ ∃ element, t.element? = some element := by
  obtain ⟨base, vararg⟩ := t
  cases vararg with
  | true => simp [isSequence, element?]
  | false => cases base <;> simp [isSequence, element?, BaseType.isArray]

theorem erase_of_element? (h : t.element? = some element) :
    t.erase = ⟨.array element.base, false⟩ := by
  obtain ⟨item, rfl, rfl | rfl⟩ := element?_eq_some_iff.mp h
  · rfl
  · rfl

theorem vararg_erase (t : ParamType) : t.erase.vararg = false := by
  obtain ⟨base, vararg⟩ := t
  cases vararg <;> rfl

theorem erase_erase (t : ParamType) : t.erase.erase = t.erase := by
  rw [erase, t.vararg_erase]
  rfl

end ParamType

/-- A list is spelled item by item, at the type of the items. -/
theorem Spelling.spellValue_eq_ok_iff_of_element? {b : Spelling} {cb : Cookbook}
    {t element : ParamType} (h : t.element? = some element) {v : Literal} {text : String} :
    b.spellValue cb t v = .ok text ↔ ∃ items texts, v = .list items ∧
      List.Forall₂ (fun item text ↦ b.spellValue cb element item = .ok text) items texts ∧
        text = b.spell (.array element texts) := by
  obtain ⟨item, rfl, -⟩ := ParamType.element?_eq_some_iff.mp h
  rw [Spelling.spellValue_eq_ok_iff, ParamType.erase_of_element? h]
  exact spellBaseValue_array_eq_ok_iff

/-! ## Types of storage -/

namespace Binding

variable {b : Binding} {s : SequenceStyle}

/-- A sequence is stored as an array of its items. -/
theorem Follows.mapType_true_of_element? (hs : b.Follows s) {t element : ParamType}
    (h : t.element? = some element) : b.mapType t true = s.array (b.mapType element true) := by
  obtain ⟨item, rfl, -⟩ := ParamType.element?_eq_some_iff.mp h
  rw [hs.mapType_true_eq, ParamType.erase_of_element? h, hs.mapType_array]

/-- A text does not stand between two others in itself. -/
theorem ne_append_append {opening : String} (h : 0 < opening.length) (item closing : String) :
    item ≠ opening ++ item ++ closing := by
  intro heq
  have hlength := congrArg String.length heq
  rw [String.length_append, String.length_append] at hlength
  omega

/-- Only TypeScript writes a rest parameter with the type of the array. -/
theorem native_eq_array_iff (h : (b, s) ∈ builtinStyles) (item : String) :
    s.native item = s.array item ↔ b = .typescript := by
  have hother (hname : b.name ≠ "typescript") (hne : s.native item ≠ s.array item) :
      s.native item = s.array item ↔ b = .typescript := by
    refine iff_of_false hne fun hb ↦ hname ?_
    rw [hb]
    rfl
  simp only [builtinStyles, List.mem_cons, List.not_mem_nil, or_false, Prod.mk.injEq] at h
  rcases h with ⟨rfl, rfl⟩ | ⟨rfl, rfl⟩ | ⟨rfl, rfl⟩ | ⟨rfl, rfl⟩
  · refine hother (by decide) fun heq ↦ ?_
    have hmarks : "..." = "[]" := (String.append_right_inj item).mp heq
    exact absurd hmarks (by decide)
  · exact hother (by decide) (ne_append_append (by decide) item ">")
  · exact iff_of_true rfl rfl
  · exact hother (by decide) (ne_append_append (by decide) item "]")

theorem mapType_erase (hb : b ∈ BindingSet.builtin.bindings) (t : ParamType) (arrayForm : Bool) :
    b.mapType t true = b.mapType t.erase arrayForm := by
  obtain ⟨s, hmem⟩ := exists_mem_builtinStyles hb
  have hs := follows_of_mem_builtinStyles hmem
  rw [mapType_eq_of_vararg_eq_false hb t.vararg_erase arrayForm true, hs.mapType_true_eq t,
    hs.mapType_true_eq t.erase, t.erase_erase]

theorem mapType_false_eq_iff (h : (b, s) ∈ builtinStyles) (t : ParamType) :
    b.mapType t false = b.mapType t true ↔ t.vararg = false ∨ b = .typescript := by
  have hs := follows_of_mem_builtinStyles h
  have hb : b ∈ BindingSet.builtin.bindings := List.mem_map_of_mem (f := Prod.fst) h
  obtain ⟨base, vararg⟩ := t
  cases vararg with
  | false => exact iff_of_true (mapType_eq_of_vararg_eq_false hb rfl false true) (.inl rfl)
  | true =>
    -- Both forms are made of the same text for the items.
    have hitem := mapType_eq_of_vararg_eq_false hb (t := ⟨base, false⟩) rfl false true
    rw [hs.mapType_vararg, hs.mapType_vararg, hitem, if_neg Bool.false_ne_true, if_pos rfl,
      native_eq_array_iff h]
    simp

/-! ## Literals of storage -/

theorem follows_java : java.Follows .java :=
  follows_of_mem_builtinStyles List.mem_cons_self

theorem follows_kotlin : kotlin.Follows .kotlin :=
  follows_of_mem_builtinStyles (List.mem_cons_of_mem _ List.mem_cons_self)

section Literals

variable {t element : ParamType} (h : t.element? = some element)

include h

/-- In Java a list is written with the type that it is stored with. -/
theorem java_spell_array (texts : List String) :
    java.spell (.array element texts)
      = "new " ++ java.mapType t true ++ " \x7b" ++ ", ".intercalate texts ++ "\x7d" := by
  rw [follows_java.spell_array, follows_java.mapType_true_of_element? h]
  simp [SequenceStyle.java, String.append_assoc]

theorem kotlin_mapType_true :
    kotlin.mapType t true = "List<" ++ kotlin.mapType element true ++ ">" :=
  follows_kotlin.mapType_true_of_element? h

/-- In Kotlin a list is written with the type of items that the type for storage names. -/
theorem kotlin_spell_array {item : String}
    (hitem : kotlin.mapType t true = "List<" ++ item ++ ">") (texts : List String) :
    kotlin.spell (.array element texts)
      = "listOf<" ++ item ++ ">(" ++ ", ".intercalate texts ++ ")" := by
  rw [kotlin_mapType_true h, String.append_left_inj, String.append_right_inj] at hitem
  rw [← hitem]
  exact follows_kotlin.spell_array element texts

end Literals

end Binding

/-- **Varargs are erased alike everywhere.** In every language that comes with the tool, the type of
a vararg for storage is the type of the array that it counts as, and the form for arguments differs
from it exactly for varargs, and never in TypeScript. Vararg and array have the same literals with
the same texts. The literal of a sequence is made of the literals of its items in order, and where
the language names a type in it, in Java and in Kotlin, that is the type for storage. -/
theorem erasesVarargs_of_mem_builtin (b : Binding) (hb : b ∈ BindingSet.builtin.bindings) :
    b.ErasesVarargs := by
  obtain ⟨s, hmem⟩ := Binding.exists_mem_builtinStyles hb
  have hs := Binding.follows_of_mem_builtinStyles hmem
  refine ⟨Binding.mapType_erase hb, Binding.mapType_false_eq_iff hmem, ?_, ?_⟩
  · intro cb t v text
    rw [hs.standard, Spelling.spellValue_eq_ok_iff, Spelling.spellValue_eq_ok_iff, t.erase_erase]
  · intro cb t v text hsequence hv
    obtain ⟨element, helement⟩ := ParamType.isSequence_iff.mp hsequence
    rw [hs.standard] at hv ⊢
    obtain ⟨items, texts, hlist, hitems, rfl⟩ :=
      (Spelling.spellValue_eq_ok_iff_of_element? helement).mp hv
    refine ⟨element, items, texts, helement, hlist, hitems, ?_, ?_⟩
    · rintro rfl
      exact Binding.java_spell_array helement texts
    · rintro rfl
      refine ⟨⟨_, Binding.kotlin_mapType_true helement⟩, fun item hitem ↦ ?_⟩
      exact Binding.kotlin_spell_array helement hitem texts

/-- Arrays under a vararg in Kotlin: the list names the type of its items, which are lists, as the
type for storage does. -/
theorem erasesVarargs_of_mem_builtin_kotlin :
    let t : ParamType := ⟨.array (.primitive .int), true⟩
    let v : Literal := .list [.list [.int 3, .int 1], .list []]
    Binding.kotlin.ErasesVarargs ∧ Binding.kotlin.mapType t true = "List<List<Int>>" ∧
      Binding.kotlin.mapType t false = "List<Int>" ∧
      Binding.kotlin.mapValue {} t v
        = .ok "listOf<List<Int>>(listOf<Int>(3, 1), listOf<Int>())" := by
  have hb : Binding.kotlin ∈ BindingSet.builtin.bindings :=
    List.mem_cons_of_mem _ List.mem_cons_self
  exact ⟨erasesVarargs_of_mem_builtin .kotlin hb, rfl, rfl, rfl⟩

end Cookery
