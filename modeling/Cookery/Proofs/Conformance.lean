import Cookery.Binding.Set
import Cookery.Proofs.Traversal

/-!
# Literals of a type

Two functions decide which literals a type takes: the check that validation runs, and the walk that
spells a literal for a language. Neither calls the other. This file says what both decide, as a
relation between types and literals, and shows that they decide the same: the walk succeeds where
the check does, and where the check finds an error the walk reports that error, with the language as
its place.

The relation follows the type, as both functions do. That keeps the induction on the type alone: a
literal is only taken apart at an array, and there every item meets the same smaller type.
-/

namespace Cookery

/-! ## The relation -/

/-- The literals of a type without vararg mark. -/
inductive BaseType.Conforms (cb : Cookbook) : BaseType → Literal → Prop
  | boolean (b : Bool) : Conforms cb (.primitive .boolean) (.bool b)
  | flag (b : Bool) : Conforms cb .flag (.bool b)
  | int {i : Int64} (lower : -2147483648 ≤ i.toInt) (upper : i.toInt ≤ 2147483647) :
      Conforms cb (.primitive .int) (.int i)
  | float (x : Binary64) : Conforms cb (.primitive .float) (.float x)
  | floatOfInt (i : Int64) : Conforms cb (.primitive .float) (.int i)
  | string (s : String) : Conforms cb (.primitive .string) (.string s)
  | enumRef {name member : String} {d : EnumDef} (found : cb.findEnum? name = some d)
      (listed : member ∈ d.values) : Conforms cb (.enumRef name) (.string member)
  | array {item : BaseType} {items : List Literal} (each : ∀ v ∈ items, Conforms cb item v) :
      Conforms cb (.array item) (.list items)

/-- The literals of a type. A vararg takes a list of literals of its base. -/
inductive ParamType.Conforms (cb : Cookbook) : ParamType → Literal → Prop
  | single {base : BaseType} {v : Literal} (h : base.Conforms cb v) : Conforms cb ⟨base, false⟩ v
  | vararg {base : BaseType} {items : List Literal} (each : ∀ v ∈ items, base.Conforms cb v) :
      Conforms cb ⟨base, true⟩ (.list items)

/-- The items of a sequence have no vararg mark of their own: the mark goes first, and then one
array after the other. -/
theorem ParamType.element?_eq_some_iff {t element : ParamType} :
    t.element? = some element ↔
      ∃ item, element = ⟨item, false⟩ ∧ (t = ⟨item, true⟩ ∨ t = ⟨.array item, false⟩) := by
  obtain ⟨base, vararg⟩ := t
  cases vararg with
  | true => simp [element?, eq_comm]
  | false => cases base <;> simp [element?, eq_comm]

theorem fitsInt32_iff {i : Int64} :
    fitsInt32 i = true ↔ -2147483648 ≤ i.toInt ∧ i.toInt ≤ 2147483647 := by
  have hmin : Int32.minValue.toInt = -2147483648 := by decide
  have hmax : Int32.maxValue.toInt = 2147483647 := by decide
  rw [fitsInt32, Bool.and_eq_true, decide_eq_true_iff, decide_eq_true_iff, hmin, hmax]

theorem EnumDef.contains_iff {d : EnumDef} {value : String} :
    d.contains value = true ↔ value ∈ d.values := by
  rw [EnumDef.contains, List.contains_iff_mem]

/-! ## The check decides the relation -/

namespace BaseType

variable {cb : Cookbook} {base : BaseType} {v : Literal}

theorem Conforms.check_eq_ok (h : base.Conforms cb v) : base.check cb v = .ok () := by
  induction h with
  | boolean b => rfl
  | flag b => rfl
  | int lower upper => rw [check, if_pos (fitsInt32_iff.mpr ⟨lower, upper⟩)]
  | float x => rfl
  | floatOfInt i => rfl
  | string s => rfl
  | enumRef found listed =>
    rw [check, found]
    exact if_pos (EnumDef.contains_iff.mpr listed)
  | array each ih =>
    rw [check]
    exact forM_eq_ok_iff.mpr ih

theorem conforms_of_check_eq_ok (h : base.check cb v = .ok ()) : base.Conforms cb v := by
  fun_induction BaseType.check cb base v with
  | case1 item items ih => exact .array fun v hv ↦ ih v (forM_eq_ok_iff.mp h v hv)
  | case2 b => exact .boolean b
  | case3 b => exact .flag b
  | case4 i hi =>
    obtain ⟨lower, upper⟩ := fitsInt32_iff.mp hi
    exact .int lower upper
  | case5 i hi => exact nomatch h
  | case6 x => exact .float x
  | case7 i => exact .floatOfInt i
  | case8 s => exact .string s
  | case9 name member hfind => exact nomatch h
  | case10 name member d hfind hmem => exact .enumRef hfind (EnumDef.contains_iff.mp hmem)
  | case11 name member d hfind hmem => exact nomatch h
  | case12 base v => exact nomatch h

theorem check_eq_ok_iff : base.check cb v = .ok () ↔ base.Conforms cb v :=
  ⟨conforms_of_check_eq_ok, Conforms.check_eq_ok⟩

end BaseType

/-- The check passes exactly the literals of the type. -/
theorem ParamType.check_eq_ok_iff {cb : Cookbook} {t : ParamType} {v : Literal} :
    t.check cb v = .ok () ↔ t.Conforms cb v := by
  obtain ⟨base, vararg⟩ := t
  cases vararg with
  | false =>
    rw [show ParamType.check cb ⟨base, false⟩ v = base.check cb v from rfl,
      BaseType.check_eq_ok_iff]
    exact ⟨.single, fun | .single h => h⟩
  | true =>
    constructor
    · intro h
      cases v with
      | list items =>
        refine .vararg fun v hv ↦ BaseType.check_eq_ok_iff.mp ?_
        exact forM_eq_ok_iff.mp h v hv
      | bool b => exact nomatch h
      | int i => exact nomatch h
      | float x => exact nomatch h
      | string s => exact nomatch h
    · rintro (_ | each)
      exact forM_eq_ok_iff.mpr fun v hv ↦ BaseType.check_eq_ok_iff.mpr (each v hv)

/-! ## The walk that spells agrees with the check

The walk gives a text where the check gives nothing, and its errors carry a place that those of the
check have not. Forgetting the text on the one side and adding the place on the other, both are the
same function, and this single equation goes through the induction where "succeeds together" and
"fails with the same error" would each need the other. -/

namespace Spelling

variable (b : Spelling) (cb : Cookbook)

theorem map_spellBaseValue (base : BaseType) (v : Literal) :
    (b.spellBaseValue cb base v).map (fun _ ↦ ())
      = (base.check cb v).mapError (SchemaError.ofValueError b.literalSubject) := by
  induction base generalizing v with
  | primitive p =>
    cases p <;> cases v <;> try rfl
    case int.int i =>
      rw [spellBaseValue, BaseType.check]
      by_cases hi : fitsInt32 i
      · rw [if_pos hi, if_pos hi]
        rfl
      · rw [if_neg hi, if_neg hi]
        rfl
  | flag => cases v <;> rfl
  | enumRef name =>
    cases v <;> try rfl
    case string member =>
      rw [spellBaseValue, BaseType.check]
      cases cb.findEnum? name with
      | none => rfl
      | some d =>
        by_cases hmem : d.contains member
        · dsimp only
          rw [if_pos hmem, if_pos hmem]
          rfl
        · dsimp only
          rw [if_neg hmem, if_neg hmem]
          rfl
  | array item ih =>
    cases v <;> try rfl
    case list items =>
      rw [spellBaseValue, BaseType.check, ← map_mapM_eq_mapError_forM fun v _ ↦ ih v]
      cases items.mapM fun v ↦ b.spellBaseValue cb item v with
      | error e => rfl
      | ok texts => rfl

theorem map_spellValue (t : ParamType) (v : Literal) :
    (b.spellValue cb t v).map (fun _ ↦ ())
      = (t.check cb v).mapError (SchemaError.ofValueError b.literalSubject) := by
  obtain ⟨base, vararg⟩ := t
  cases vararg with
  | false => exact b.map_spellBaseValue cb base v
  | true =>
    cases v <;> try rfl
    case list items =>
      have hitems := map_mapM_eq_mapError_forM (l := items)
        fun v _ ↦ b.map_spellBaseValue cb base v
      rw [show ParamType.check cb ⟨base, true⟩ (.list items)
        = items.forM fun v ↦ base.check cb v from rfl, ← hitems]
      rw [show b.spellValue cb ⟨base, true⟩ (.list items)
        = (items.mapM fun v ↦ b.spellBaseValue cb base v) >>= fun texts ↦
            .ok (b.spell (.array ⟨base, false⟩ texts)) from rfl]
      cases items.mapM fun v ↦ b.spellBaseValue cb base v with
      | error e => rfl
      | ok texts => rfl

end Spelling

theorem BindingSet.mem_builtin_iff {b : Binding} :
    b ∈ builtin.bindings ↔ b = .java ∨ b = .kotlin ∨ b = .typescript ∨ b = .python := by
  have hbuiltin : builtin.bindings = [.java, .kotlin, .typescript, .python] := rfl
  rw [hbuiltin]
  simp only [List.mem_cons, List.not_mem_nil, or_false]

namespace Binding

/-- The bindings that come with the tool are standard. -/
theorem isStandard_of_mem_builtin {b : Binding} (h : b ∈ BindingSet.builtin.bindings) :
    b.IsStandard := by
  rcases BindingSet.mem_builtin_iff.mp h with rfl | rfl | rfl | rfl <;> rfl

/-- In a standard binding, mapping a literal is checking it and spelling it. -/
theorem IsStandard.map_mapValue {b : Binding} (hb : b.IsStandard) (cb : Cookbook) (t : ParamType)
    (v : Literal) :
    (b.mapValue cb t v).map (fun _ ↦ ())
      = (t.check cb v).mapError (SchemaError.ofValueError (b.name ++ " literal")) := by
  rw [hb]
  exact b.toSpelling.map_spellValue cb t v

theorem IsStandard.exists_mapValue {b : Binding} (hb : b.IsStandard) {cb : Cookbook}
    {t : ParamType} {v : Literal} (h : t.Conforms cb v) : ∃ text, b.mapValue cb t v = .ok text :=
  (agree_of_map_eq_mapError (hb.map_mapValue cb t v)).1.mpr (ParamType.check_eq_ok_iff.mpr h)

theorem IsStandard.conforms_of_mapValue {b : Binding} (hb : b.IsStandard) {cb : Cookbook}
    {t : ParamType} {v : Literal} {text : String} (h : b.mapValue cb t v = .ok text) :
    t.Conforms cb v :=
  ParamType.check_eq_ok_iff.mp
    ((agree_of_map_eq_mapError (hb.map_mapValue cb t v)).1.mp ⟨text, h⟩)

/-- **One judgement.** A standard binding maps exactly the literals that the check passes, and a
literal that the check refuses it refuses with the same error, lifted to the place `<name> literal`.
Nothing is asked of the cookbook, of the type or of the literal. -/
theorem mapValue_agrees_with_check (b : Binding) (hb : b.IsStandard) (cb : Cookbook)
    (t : ParamType) (v : Literal) :
    ((∃ text, b.mapValue cb t v = .ok text) ↔ t.check cb v = .ok ()) ∧
      ∀ e, t.check cb v = .error e →
        b.mapValue cb t v = .error (SchemaError.ofValueError (b.name ++ " literal") e) :=
  agree_of_map_eq_mapError (hb.map_mapValue cb t v)

/-- In a vararg of arrays the item that the check refuses is two levels down, and it is that item
which the binding reports. -/
theorem mapValue_refuses_nested_member :
    Binding.java.mapValue { enums := [⟨"Size", ["small", "large"]⟩] }
        ⟨.array (.enumRef "Size"), true⟩
        (.list [.list [.string "small"], .list [.string "large", .string "huge"]])
      = .error (.valueNotInEnum "Size" "huge") :=
  (mapValue_agrees_with_check .java (isStandard_of_mem_builtin List.mem_cons_self)
    { enums := [⟨"Size", ["small", "large"]⟩] }
    ⟨.array (.enumRef "Size"), true⟩
    (.list [.list [.string "small"], .list [.string "large", .string "huge"]])).2
    (.notInEnum "Size" "huge") rfl

end Binding

end Cookery
