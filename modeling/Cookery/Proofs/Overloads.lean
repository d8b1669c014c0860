import Cookery.Proofs.TypeSpelling
import Cookery.Proofs.TypeText
import Cookery.Record.Generate

/-!
# Overloads in the target language

Validation compares the initializers of an ingredient by the types of the cookbook. A language
compares them by the texts of those types, and may write two types alike. This file says when it
does, `Binding.Confuses`: two kinds of numbers in a language that has one, an enum whose name is a
type of the language and no reserved word, an enum whose name is what another enum is escaped to;
and arrays of all these. Types that are confused are written alike, and no others are. So
initializers that a valid cookbook tells apart are told apart in a language, unless it confuses the
types of their parameters.

## From texts back to types

A text is an array or a word, and only arrays have brackets. So equal texts are texts of equally
many arrays over equal words, and it remains to compare words: those of primitives, which are a
finite table, and identifiers of enums, which are names or escaped names.
-/

namespace Cookery

/-! ## Types that are written alike -/

/-- Different types that a language writes alike. -/
inductive Binding.Confuses (b : Binding) (cb : Cookbook) : BaseType → BaseType → Prop
  /-- All numbers have one type. -/
  | number (h : b.name = "typescript") : Confuses b cb (.primitive .int) (.primitive .float)
  /-- The name of an enum is a type of the language. A reserved word would be escaped. -/
  | builtin {d : EnumDef} {p : Primitive} (declared : d ∈ cb.enums) (plain : d.name ∉ b.reserved)
      (h : d.name = b.mapType ⟨.primitive p, false⟩ true) :
      Confuses b cb (.enumRef d.name) (.primitive p)
  /-- The name of an enum is what the name of another is escaped to. -/
  | escaped {d e : EnumDef} (hd : d ∈ cb.enums) (he : e ∈ cb.enums)
      (reserved : d.name ∈ b.reserved) (h : e.name = b.escape d.name) :
      Confuses b cb (.enumRef d.name) (.enumRef e.name)
  | symm {t u : BaseType} (h : Confuses b cb t u) : Confuses b cb u t
  | array {t u : BaseType} (h : Confuses b cb t u) : Confuses b cb (.array t) (.array u)

/-- With varargs counted as arrays, two types of parameters are the same, or the language confuses
them. -/
def Binding.WritesAlike (b : Binding) (cb : Cookbook) (t u : ParamType) : Prop :=
  t.erase.base = u.erase.base ∨ b.Confuses cb t.erase.base u.erase.base

/-! ## Types of parameters -/

theorem ParamType.erase_eq (t : ParamType) : t.erase = ⟨t.erase.base, false⟩ := by
  obtain ⟨base, vararg⟩ := t
  cases vararg <;> rfl

/-- A type that is not a flag counts as an item, also if it is a vararg. -/
theorem ParamType.DeclaredIn.isItem {cb : Cookbook} {t : ParamType} (h : t.DeclaredIn cb)
    (hflag : t.base ≠ .flag) : t.erase.base.IsItem cb := by
  have hbase : t.base.IsItem cb := h.resolve_left hflag
  obtain ⟨base, vararg⟩ := t
  cases vararg with
  | false => exact hbase
  | true => exact .array hbase

/-- Parameters of initializers are not flags. -/
theorem Ingredient.HasSignature.isItem {cb : Cookbook} (hflags : Rule.flagPlacement.Holds cb)
    {i : Ingredient} (hi : i ∈ cb.ingredients) {init : Initializer} {types : List ParamType}
    (h : i.HasSignature cb init types) : ∀ t ∈ types, t.erase.base.IsItem cb := by
  intro t ht
  obtain ⟨p, -, q, hq, -, htype⟩ := (exists_mem_of_forall₂ h).2 t ht
  exact (ParamType.declaredIn_of_parse? htype).isItem ((hflags i hi).1 q hq t htype)

/-! ## Words -/

/-- The characters that stand around the items of a sequence. -/
def brackets : List Char :=
  ['[', ']', '<', '>']

/-- A text without brackets. -/
def IsWord (text : String) : Prop :=
  ∀ c ∈ text.toList, c ∉ brackets

theorem isWord_of_all {text : String} (h : text.toList.all (!brackets.contains ·) = true) :
    IsWord text := by
  intro c hc
  have hnot := List.all_eq_true.mp h c hc
  rwa [Bool.not_eq_true', ← Bool.not_eq_true, List.contains_iff_mem] at hnot

theorem IsWord.append {first second : String} (hfirst : IsWord first) (hsecond : IsWord second) :
    IsWord (first ++ second) := by
  intro c hc
  rw [String.toList_append] at hc
  exact (List.mem_append.mp hc).elim (hfirst c) (hsecond c)

theorem IsIdentifier.isWord {name : String} (h : IsIdentifier name) : IsWord name := by
  intro c hc hbracket
  have hword := h.isAlphanum_or_eq c hc
  simp only [brackets, List.mem_cons, List.not_mem_nil, or_false] at hbracket
  rcases hbracket with rfl | rfl | rfl | rfl <;> exact absurd hword (by decide)

/-- What keeps the texts of a language apart: brackets are only in arrays, arrays and escapes can be
undone, and no primitive is an escaped word. -/
structure Binding.Separates (b : Binding) (s : SequenceStyle) : Prop where
  isWord_primitive : ∀ p, IsWord (b.mapType ⟨.primitive p, false⟩ true)
  isWord_escape : ∀ name, IsWord name → IsWord (b.escape name)
  not_isWord_array : ∀ item, ¬IsWord (s.array item)
  array_injective : Function.Injective s.array
  escape_injective : Function.Injective b.escape
  escape_ne_primitive : ∀ name p, b.escape name ≠ b.mapType ⟨.primitive p, false⟩ true
  primitive_iff : ∀ p q,
    b.mapType ⟨.primitive p, false⟩ true = b.mapType ⟨.primitive q, false⟩ true ↔
      p = q ∨ b.name = "typescript" ∧ (p = .int ∧ q = .float ∨ p = .float ∧ q = .int)

/-! ### The languages -/

theorem not_isWord_of_mem {text : String} {c : Char} (hc : c ∈ text.toList) (hb : c ∈ brackets) :
    ¬IsWord text :=
  fun h ↦ h c hc hb

namespace Binding

theorem separates_java : java.Separates .java where
  isWord_primitive p := by cases p <;> exact isWord_of_all rfl
  isWord_escape _ h := IsWord.append (isWord_of_all rfl) h
  not_isWord_array _ := not_isWord_of_mem (c := '[') (by simp [SequenceStyle.java]) (by decide)
  array_injective _ _ h := (String.append_left_inj _).mp h
  escape_injective _ _ h := (String.append_right_inj _).mp h
  escape_ne_primitive name p h := by
    have hhead := congrArg (·.toList.head?) h
    revert hhead
    cases p <;> simp [java, Java.mapType, Java.baseType]
  primitive_iff p q := by cases p <;> cases q <;> decide

theorem separates_kotlin : kotlin.Separates .kotlin where
  isWord_primitive p := by cases p <;> exact isWord_of_all rfl
  isWord_escape _ h :=
    IsWord.append (IsWord.append (isWord_of_all rfl) h) (isWord_of_all rfl)
  not_isWord_array _ := not_isWord_of_mem (c := '<') (by simp [SequenceStyle.kotlin]) (by decide)
  array_injective _ _ h := (String.append_right_inj _).mp ((String.append_left_inj _).mp h)
  escape_injective _ _ h := (String.append_right_inj _).mp ((String.append_left_inj _).mp h)
  escape_ne_primitive name p h := by
    have hhead := congrArg (·.toList.head?) h
    revert hhead
    cases p <;> simp [kotlin, Kotlin.escape, Kotlin.mapType, Kotlin.baseType]
  primitive_iff p q := by cases p <;> cases q <;> decide

theorem separates_typescript : typescript.Separates .typescript where
  isWord_primitive p := by cases p <;> exact isWord_of_all rfl
  isWord_escape _ h := IsWord.append (isWord_of_all rfl) h
  not_isWord_array _ :=
    not_isWord_of_mem (c := '[') (by simp [SequenceStyle.typescript]) (by decide)
  array_injective _ _ h := (String.append_left_inj _).mp h
  escape_injective _ _ h := (String.append_right_inj _).mp h
  escape_ne_primitive name p h := by
    have hhead := congrArg (·.toList.head?) h
    revert hhead
    cases p <;> simp [typescript, TypeScript.mapType, TypeScript.baseType]
  primitive_iff p q := by cases p <;> cases q <;> decide

theorem separates_python : python.Separates .python where
  isWord_primitive p := by cases p <;> exact isWord_of_all rfl
  isWord_escape _ h := IsWord.append h (isWord_of_all rfl)
  not_isWord_array _ := not_isWord_of_mem (c := '[') (by simp [SequenceStyle.python]) (by decide)
  array_injective _ _ h := (String.append_right_inj _).mp ((String.append_left_inj _).mp h)
  escape_injective _ _ h := (String.append_left_inj _).mp h
  escape_ne_primitive name p h := by
    have hlast := congrArg (·.toList.getLast?) h
    revert hlast
    cases p <;> simp [python, Python.escape, Python.mapType, Python.baseType]
  primitive_iff p q := by cases p <;> cases q <;> decide

theorem separates_of_mem_builtinStyles {b : Binding} {s : SequenceStyle}
    (h : (b, s) ∈ builtinStyles) : b.Separates s := by
  simp only [builtinStyles, List.mem_cons, List.not_mem_nil, or_false, Prod.mk.injEq] at h
  rcases h with ⟨rfl, rfl⟩ | ⟨rfl, rfl⟩ | ⟨rfl, rfl⟩ | ⟨rfl, rfl⟩
  · exact separates_java
  · exact separates_kotlin
  · exact separates_typescript
  · exact separates_python

/-! ## Equal texts -/

namespace Separates

variable {b : Binding} {s : SequenceStyle} {cb : Cookbook} (hsep : b.Separates s)
  (hf : b.Follows s)

include hsep hf

theorem isWord_identifier {name : String} (hname : IsIdentifier name) :
    IsWord (b.mapIdentifier name) := by
  by_cases hreserved : name ∈ b.reserved
  · rw [hf.mapIdentifier_of_mem hreserved]
    exact hsep.isWord_escape name hname.isWord
  · rw [hf.mapIdentifier_of_notMem hreserved]
    exact hname.isWord

/-- An identifier that is the text of a primitive has not been escaped. -/
theorem name_eq_of_identifier_eq_primitive {name : String} {p : Primitive}
    (h : b.mapIdentifier name = b.mapType ⟨.primitive p, false⟩ true) :
    name ∉ b.reserved ∧ name = b.mapType ⟨.primitive p, false⟩ true := by
  by_cases hreserved : name ∈ b.reserved
  · rw [hf.mapIdentifier_of_mem hreserved] at h
    exact absurd h (hsep.escape_ne_primitive name p)
  · rw [hf.mapIdentifier_of_notMem hreserved] at h
    exact ⟨hreserved, h⟩

/-- Two names have one identifier only if one of them is reserved and escaped to the other. -/
theorem identifier_cases {name other : String} (h : b.mapIdentifier name = b.mapIdentifier other) :
    name = other ∨ (name ∈ b.reserved ∧ other = b.escape name) ∨
      (other ∈ b.reserved ∧ name = b.escape other) := by
  by_cases hname : name ∈ b.reserved <;> by_cases hother : other ∈ b.reserved
  · rw [hf.mapIdentifier_of_mem hname, hf.mapIdentifier_of_mem hother] at h
    exact .inl (hsep.escape_injective h)
  · rw [hf.mapIdentifier_of_mem hname, hf.mapIdentifier_of_notMem hother] at h
    exact .inr (.inl ⟨hname, h.symm⟩)
  · rw [hf.mapIdentifier_of_notMem hname, hf.mapIdentifier_of_mem hother] at h
    exact .inr (.inr ⟨hother, h⟩)
  · rw [hf.mapIdentifier_of_notMem hname, hf.mapIdentifier_of_notMem hother] at h
    exact .inl h

/-- Types with one text are the same, or the language confuses them. -/
theorem eq_or_confuses (hnames : Rule.enumNameSyntax.Holds cb) {t u : BaseType} (ht : t.IsItem cb)
    (hu : u.IsItem cb) (h : b.mapType ⟨t, false⟩ true = b.mapType ⟨u, false⟩ true) :
    t = u ∨ b.Confuses cb t u := by
  -- Neither kind of word is the text of an array.
  have hprimitive (p : Primitive) (item : BaseType) :
      b.mapType ⟨.primitive p, false⟩ true ≠ b.mapType ⟨.array item, false⟩ true := by
    rw [hf.mapType_array]
    intro h
    exact hsep.not_isWord_array _ (h ▸ hsep.isWord_primitive p)
  have henum {d : EnumDef} (hd : d ∈ cb.enums) (item : BaseType) :
      b.mapType ⟨.enumRef d.name, false⟩ true ≠ b.mapType ⟨.array item, false⟩ true := by
    rw [hf.mapType_array, hf.mapType_enumRef]
    intro h
    exact hsep.not_isWord_array _ (h ▸ hsep.isWord_identifier hf (hnames d hd).1)
  induction ht generalizing u with
  | primitive p =>
    cases hu with
    | primitive q =>
      rcases (hsep.primitive_iff p q).mp h with rfl | ⟨hb, ⟨rfl, rfl⟩ | ⟨rfl, rfl⟩⟩
      · exact .inl rfl
      · exact .inr (.number hb)
      · exact .inr (.symm (.number hb))
    | enumRef hd =>
      rw [hf.mapType_enumRef] at h
      obtain ⟨hplain, hname⟩ := hsep.name_eq_of_identifier_eq_primitive hf h.symm
      exact .inr (.symm (.builtin hd hplain hname))
    | array => exact absurd h (hprimitive p _)
  | enumRef hd =>
    cases hu with
    | primitive q =>
      rw [hf.mapType_enumRef] at h
      obtain ⟨hplain, hname⟩ := hsep.name_eq_of_identifier_eq_primitive hf h
      exact .inr (.builtin hd hplain hname)
    | enumRef he =>
      rw [hf.mapType_enumRef, hf.mapType_enumRef] at h
      rcases hsep.identifier_cases hf h with hname | ⟨hreserved, hname⟩ | ⟨hreserved, hname⟩
      · exact .inl (congrArg _ hname)
      · exact .inr (.escaped hd he hreserved hname)
      · exact .inr (.symm (.escaped he hd hreserved hname))
    | array => exact absurd h (henum hd _)
  | array _ ih =>
    cases hu with
    | primitive q => exact absurd h.symm (hprimitive q _)
    | enumRef he => exact absurd h.symm (henum he _)
    | array hitem =>
      rw [hf.mapType_array, hf.mapType_array] at h
      rcases ih hitem (hsep.array_injective h) with rfl | hconfuses
      · exact .inl rfl
      · exact .inr (.array hconfuses)

end Separates

variable {b : Binding} {cb : Cookbook} (hb : b ∈ BindingSet.builtin.bindings)

include hb

/-- No escaped word is reserved again. -/
theorem escape_notMem_reserved {name : String} (hname : name ∈ b.reserved) :
    b.escape name ∉ b.reserved := by
  have htable : BindingSet.builtin.bindings.all (fun c ↦
      c.reserved.all fun word ↦ !c.reserved.contains (c.escape word)) = true := by decide +kernel
  have hescape := List.all_eq_true.mp (List.all_eq_true.mp htable b hb) name hname
  rwa [Bool.not_eq_true', ← Bool.not_eq_true, List.contains_iff_mem] at hescape

/-- A reserved word and what it is escaped to have one identifier. -/
theorem mapIdentifier_escape {name : String} (hname : name ∈ b.reserved) :
    b.mapIdentifier (b.escape name) = b.mapIdentifier name := by
  obtain ⟨s, hs⟩ := exists_mem_builtinStyles hb
  have hf := follows_of_mem_builtinStyles hs
  rw [hf.mapIdentifier_of_mem hname, hf.mapIdentifier_of_notMem (escape_notMem_reserved hb hname)]

/-- Types that are confused have one text. -/
theorem Confuses.mapType_eq {t u : BaseType} (h : b.Confuses cb t u) :
    b.mapType ⟨t, false⟩ true = b.mapType ⟨u, false⟩ true := by
  obtain ⟨s, hs⟩ := exists_mem_builtinStyles hb
  have hf := follows_of_mem_builtinStyles hs
  have hsep := separates_of_mem_builtinStyles hs
  induction h with
  | number h => exact (hsep.primitive_iff _ _).mpr (.inr ⟨h, .inl ⟨rfl, rfl⟩⟩)
  | builtin _ plain h =>
    rw [hf.mapType_enumRef, hf.mapIdentifier_of_notMem plain, h]
  | escaped _ _ reserved h =>
    rw [hf.mapType_enumRef, hf.mapType_enumRef, h, mapIdentifier_escape hb reserved]
  | symm _ ih => exact ih.symm
  | array _ ih => rw [hf.mapType_array, hf.mapType_array, ih]

/-- Two types of parameters have one text in array form exactly if they are written alike. -/
theorem mapType_eq_iff (hnames : Rule.enumNameSyntax.Holds cb) {t u : ParamType}
    (ht : t.erase.base.IsItem cb) (hu : u.erase.base.IsItem cb) :
    b.mapType t true = b.mapType u true ↔ b.WritesAlike cb t u := by
  obtain ⟨s, hs⟩ := exists_mem_builtinStyles hb
  have hf := follows_of_mem_builtinStyles hs
  rw [hf.mapType_true_eq t, hf.mapType_true_eq u]
  constructor
  · exact (separates_of_mem_builtinStyles hs).eq_or_confuses hf hnames ht hu
  · rintro (hbase | hconfuses)
    · rw [hbase]
    · exact hconfuses.mapType_eq hb

/-- Lists of types have equal texts exactly if they are written alike position by position. -/
theorem map_mapType_eq_iff (hnames : Rule.enumNameSyntax.Holds cb) {types types' : List ParamType}
    (htypes : ∀ t ∈ types, t.erase.base.IsItem cb)
    (htypes' : ∀ t ∈ types', t.erase.base.IsItem cb) :
    types.map (b.mapType · true) = types'.map (b.mapType · true) ↔
      List.Forall₂ (b.WritesAlike cb) types types' := by
  induction types generalizing types' with
  | nil => rw [List.forall₂_nil_left_iff, List.map_nil, eq_comm, List.map_eq_nil_iff]
  | cons t types ih =>
    rcases types' with _ | ⟨u, types'⟩
    · simp
    · obtain ⟨ht, htypes⟩ := List.forall_mem_cons.mp htypes
      obtain ⟨hu, htypes'⟩ := List.forall_mem_cons.mp htypes'
      rw [List.map_cons, List.map_cons, List.cons_eq_cons, List.forall₂_cons,
        mapType_eq_iff hb hnames ht hu, ih htypes htypes']

omit hb

/-- Lists that are written alike are the same up to varargs, or some position is confused. -/
theorem map_erase_eq_or_confuses {types types' : List ParamType}
    (h : List.Forall₂ (b.WritesAlike cb) types types') :
    types.map ParamType.erase = types'.map ParamType.erase ∨
      ∃ x ∈ types.zip types', b.Confuses cb x.1.erase.base x.2.erase.base := by
  induction h with
  | nil => exact .inl rfl
  | @cons t u types types' halike _ ih =>
    rcases halike with hbase | hconfuses
    · rcases ih with herase | ⟨x, hx, hconfuses⟩
      · rw [List.map_cons, List.map_cons, herase, t.erase_eq, u.erase_eq, hbase]
        exact .inl rfl
      · exact .inr ⟨x, List.mem_cons_of_mem _ hx, hconfuses⟩
    · exact .inr ⟨(t, u), List.mem_cons_self, hconfuses⟩

end Binding

/-! ## Overloads -/

/-- **Overloads stay apart unless types are confused.** In a valid cookbook every initializer has
parameter types. Two initializers of an ingredient have the same texts of parameter types in array
form, in a language that comes with the tool, exactly if they have equally many parameters and at
every position the types are the same, varargs counted as arrays, or confused by the language. And
then the types at some position are confused. -/
theorem overloads_apart_unless_confused (b : Binding) (hb : b ∈ BindingSet.builtin.bindings)
    (cb : Cookbook) (hvalid : cb.validate = .ok ()) (i : Ingredient) (hi : i ∈ cb.ingredients) :
    (∀ init ∈ i.initializers, ∃ types, i.paramTypes cb init = .ok types) ∧
      i.initializers.Pairwise fun first second ↦ ∃ types types',
        i.paramTypes cb first = .ok types ∧ i.paramTypes cb second = .ok types' ∧
          (types.map (b.mapType · true) = types'.map (b.mapType · true) ↔
            List.Forall₂ (b.WritesAlike cb) types types') ∧
          (types.map (b.mapType · true) = types'.map (b.mapType · true) →
            ∃ x ∈ types.zip types', b.Confuses cb x.1.erase.base x.2.erase.base) := by
  have hrules := Rule.holds_of_validate hvalid
  have hfields : Rule.uniqueFieldNames.Holds cb := hrules _
  have htypes : Rule.typesResolve.Holds cb := hrules _
  have hparams : Rule.initializerParamsDeclared.Holds cb := hrules _
  have hsignatures : Rule.unambiguousInitializers.Holds cb := hrules _
  have hread (init : Initializer) (hinit : init ∈ i.initializers) :
      ∃ types, i.paramTypes cb init = .ok types ∧ i.HasSignature cb init types := by
    obtain ⟨types, h⟩ := Ingredient.exists_hasSignature (htypes i hi).1 (hparams i hi init hinit)
    have hnames := Rule.nodup_required_of_holds hfields hi
    exact ⟨types, (Ingredient.paramTypes_eq_ok_iff hnames).mpr h, h⟩
  constructor
  · intro init hinit
    obtain ⟨types, hok, -⟩ := hread init hinit
    exact ⟨types, hok⟩
  · refine (hsignatures i hi).imp_of_mem fun {first second} hfirst hsecond hne ↦ ?_
    obtain ⟨types, hok, h⟩ := hread first hfirst
    obtain ⟨types', hok', h'⟩ := hread second hsecond
    have hiff := Binding.map_mapType_eq_iff hb (hrules .enumNameSyntax)
      (h.isItem (hrules .flagPlacement) hi) (h'.isItem (hrules .flagPlacement) hi)
    refine ⟨types, types', hok, hok', hiff, fun heq ↦ ?_⟩
    -- Validation excludes that the types are the same at all positions.
    exact (Binding.map_erase_eq_or_confuses (hiff.mp heq)).resolve_left (hne types h types' h')

/-- Initializers that take numbers of two kinds, strings, and an enum that is called `String`. -/
def mix : Ingredient where
  name := "Mix"
  required := [⟨"counts", "int[]", some (.list [])⟩, ⟨"weights", "float...", some (.list [])⟩,
    ⟨"texts", "string[]", some (.list [])⟩, ⟨"words", "String[]", some (.list [])⟩]
  initializers := [⟨["counts"]⟩, ⟨["weights"]⟩, ⟨["texts"]⟩, ⟨["words"]⟩]

def mixCookbook : Cookbook where
  ingredients := [mix]
  enums := [⟨"String", ["pepper"]⟩]

/-- Validity alone does not keep overloads apart: TypeScript writes both kinds of numbers alike, and
Java and Kotlin the enum and the strings. -/
theorem overloads_alike_mix :
    mixCookbook.validate = .ok () ∧ ∀ b ∈ [Binding.java, .kotlin, .typescript],
      (∃ records, generate b mixCookbook = .ok records) ∧
        ∃ first second types types', [first, second].Sublist mix.initializers ∧
          mix.paramTypes mixCookbook first = .ok types ∧
          mix.paramTypes mixCookbook second = .ok types' ∧
          types.map (b.mapType · true) = types'.map (b.mapType · true) := by
  refine ⟨rfl, fun b hb ↦ ?_⟩
  have hstrings : [⟨["texts"]⟩, ⟨["words"]⟩].Sublist mix.initializers :=
    .cons _ (.cons _ (List.Sublist.refl _))
  have hnumbers : [⟨["counts"]⟩, ⟨["weights"]⟩].Sublist mix.initializers :=
    .cons_cons _ (.cons_cons _ (List.nil_sublist _))
  simp only [List.mem_cons, List.not_mem_nil, or_false] at hb
  rcases hb with rfl | rfl | rfl
  · exact ⟨⟨_, rfl⟩, _, _, _, _, hstrings, rfl, rfl, rfl⟩
  · exact ⟨⟨_, rfl⟩, _, _, _, _, hstrings, rfl, rfl, rfl⟩
  · exact ⟨⟨_, rfl⟩, _, _, _, _, hnumbers, rfl, rfl, rfl⟩

/-- The arrays of numbers are confused in TypeScript, one of them a vararg. -/
theorem overloads_apart_unless_confused_mix :
    mixCookbook.validate = .ok () ∧
      (∀ init ∈ mix.initializers, ∃ types, mix.paramTypes mixCookbook init = .ok types) ∧
      mix.initializers.Pairwise fun first second ↦ ∃ types types',
        mix.paramTypes mixCookbook first = .ok types ∧
          mix.paramTypes mixCookbook second = .ok types' ∧
          (types.map (Binding.typescript.mapType · true)
              = types'.map (Binding.typescript.mapType · true) ↔
            List.Forall₂ (Binding.typescript.WritesAlike mixCookbook) types types') ∧
          (types.map (Binding.typescript.mapType · true)
              = types'.map (Binding.typescript.mapType · true) →
            ∃ x ∈ types.zip types',
              Binding.typescript.Confuses mixCookbook x.1.erase.base x.2.erase.base) := by
  have hb : Binding.typescript ∈ BindingSet.builtin.bindings :=
    List.mem_cons_of_mem _ (List.mem_cons_of_mem _ List.mem_cons_self)
  exact ⟨rfl, overloads_apart_unless_confused .typescript hb mixCookbook rfl mix
    List.mem_cons_self⟩

end Cookery
