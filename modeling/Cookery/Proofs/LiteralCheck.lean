import Cookery.Proofs.EnumReferences

/-!
# What the check of a literal answers

The check of a literal against a type has two answers, and both have a meaning of their own. It
passes the literals that conform to the type. It refuses all others, and the error says which
literal, somewhere inside, was met by which type: `ParamType.Refuses` is that judgement. A list is
refused because of the first of its items that does not conform, and for the same reason as that
item; this is repeated on every level, down to a literal that is refused for itself.

Where a literal is refused for itself, there are three reasons, and no two of them apply at once: an
enum that is not declared, a string that its enum does not list, or a form that does not fit.
-/

namespace Cookery

/-! ## Levels of a sequence -/

namespace ParamType

variable {cb : Cookbook} {t element : ParamType}

/-- A sequence is over the same enum as its items. -/
theorem enumName?_of_element? (h : t.element? = some element) :
    element.enumName? = t.enumName? := by
  obtain ⟨item, rfl, rfl | rfl⟩ := element?_eq_some_iff.mp h
  · rfl
  · rfl

/-- A sequence takes the lists whose items all conform to the type of its items. -/
theorem conforms_iff_of_element? (h : t.element? = some element) {v : Literal} :
    t.Conforms cb v ↔ ∃ items, v = .list items ∧ ∀ x ∈ items, element.Conforms cb x := by
  obtain ⟨item, rfl, ht⟩ := element?_eq_some_iff.mp h
  have hitem (x : Literal) : ParamType.Conforms cb ⟨item, false⟩ x ↔ item.Conforms cb x :=
    ⟨fun | .single h => h, .single⟩
  simp only [hitem]
  rcases ht with rfl | rfl
  · constructor
    · intro h
      cases h with
      | vararg each => exact ⟨_, rfl, each⟩
    · rintro ⟨items, rfl, each⟩
      exact .vararg each
  · constructor
    · intro h
      cases h with
      | single h =>
        cases h with
        | array each => exact ⟨_, rfl, each⟩
    · rintro ⟨items, rfl, each⟩
      exact .single (.array each)

theorem check_list_of_element? (h : t.element? = some element) (items : List Literal) :
    t.check cb (.list items) = items.forM (element.check cb) := by
  obtain ⟨item, rfl, rfl | rfl⟩ := element?_eq_some_iff.mp h
  · rfl
  · rw [check, BaseType.check]
    rfl

end ParamType

/-! ## Refusals -/

/-- Why a literal is no literal of a type. -/
inductive ParamType.Refuses (cb : Cookbook) : ParamType → Literal → ValueError → Prop
  /-- The form does not fit. That a list has a bad item, or that a string is not in an enum, is not
  a matter of form. -/
  | form {t : ParamType} {v : Literal} (misfit : ¬t.Conforms cb v)
      (noList : ∀ element items, t.element? = some element → v ≠ .list items)
      (noMember : ∀ name member, t = .enumRef name → v ≠ .string member) :
      Refuses cb t v (t.mismatch v)
  | member {name member : String} {d : EnumDef} (found : cb.findEnum? name = some d)
      (unlisted : member ∉ d.values) :
      Refuses cb (.enumRef name) (.string member) (.notInEnum name member)
  | undeclared {name member : String} (missing : cb.findEnum? name = none) :
      Refuses cb (.enumRef name) (.string member) (.unknownEnum name)
  /-- The first item that does not conform is refused, and so is the list. -/
  | item {t element : ParamType} {before after : List Literal} {v : Literal} {e : ValueError}
      (helement : t.element? = some element) (hbefore : ∀ x ∈ before, element.Conforms cb x)
      (h : Refuses cb element v e) : Refuses cb t (.list (before ++ v :: after)) e

section Refusals

variable {cb : Cookbook} {t : ParamType} {v : Literal} {e : ValueError}

theorem ParamType.not_conforms_of_check (h : t.check cb v = .error e) : ¬t.Conforms cb v := by
  intro hconforms
  rw [ParamType.check_eq_ok_iff.mpr hconforms] at h
  cases h

theorem ParamType.exists_check_of_not_conforms (h : ¬t.Conforms cb v) :
    ∃ e, t.check cb v = .error e := by
  cases hcheck : t.check cb v with
  | ok u => exact absurd (ParamType.check_eq_ok_iff.mp hcheck) h
  | error e => exact ⟨e, rfl⟩

theorem BaseType.refuses_of_check {base : BaseType} (h : base.check cb v = .error e) :
    ParamType.Refuses cb ⟨base, false⟩ v e := by
  have hmisfit : ¬ParamType.Conforms cb ⟨base, false⟩ v := ParamType.not_conforms_of_check h
  fun_induction BaseType.check cb base v with
  | case1 item items ih =>
    obtain ⟨before, x, after, rfl, hbefore, hx⟩ := forM_eq_error_iff.mp h
    refine .item rfl (fun y hy ↦ .single (check_eq_ok_iff.mp (hbefore y hy))) ?_
    exact ih x hx (ParamType.not_conforms_of_check hx)
  | case2 b => cases h
  | case3 b => cases h
  | case4 i hi => cases h
  | case5 i hi =>
    obtain rfl := Except.error.inj h
    refine .form hmisfit (fun element items helement ↦ ?_) fun name member hname ↦ ?_
    · cases helement
    · cases hname
  | case6 x => cases h
  | case7 i => cases h
  | case8 s => cases h
  | case9 name member hfind =>
    obtain rfl := Except.error.inj h
    exact .undeclared hfind
  | case10 name member d hfind hmem => cases h
  | case11 name member d hfind hmem =>
    obtain rfl := Except.error.inj h
    exact .member hfind fun hmember ↦ hmem (EnumDef.contains_iff.mpr hmember)
  | case12 base v hlist _ _ _ _ _ _ henum =>
    obtain rfl := Except.error.inj h
    refine .form hmisfit (fun element items helement heq ↦ ?_) fun name member hname heq ↦ ?_
    · cases base with
      | array item => exact hlist item items rfl heq
      | primitive p => cases helement
      | flag => cases helement
      | enumRef name => cases helement
    · exact henum name member (congrArg ParamType.base hname) heq

theorem ParamType.refuses_of_check (h : t.check cb v = .error e) : t.Refuses cb v e := by
  obtain ⟨base, vararg⟩ := t
  cases vararg with
  | false => exact BaseType.refuses_of_check h
  | true =>
    by_cases hv : ∃ items, v = .list items
    · obtain ⟨items, rfl⟩ := hv
      obtain ⟨before, x, after, rfl, hbefore, hx⟩ := forM_eq_error_iff.mp h
      refine .item rfl (fun y hy ↦ .single ?_) (BaseType.refuses_of_check hx)
      exact BaseType.check_eq_ok_iff.mp (hbefore y hy)
    · have hmismatch : e = ParamType.mismatch ⟨base, true⟩ v := by
        cases v with
        | list items => exact absurd ⟨items, rfl⟩ hv
        | _ => exact (Except.error.inj h).symm
      rw [hmismatch]
      refine .form (not_conforms_of_check h) (fun _ items _ heq ↦ hv ⟨items, heq⟩) ?_
      intro name member hname
      cases hname

/-- The reasons exclude each other, so a refused literal gets the error of its reason. -/
theorem ParamType.Refuses.check_eq_error (h : t.Refuses cb v e) : t.check cb v = .error e := by
  induction h with
  | form misfit noList noMember =>
    obtain ⟨e, he⟩ := exists_check_of_not_conforms misfit
    cases refuses_of_check he with
    | form => exact he
    | member => exact absurd rfl (noMember _ _ rfl)
    | undeclared => exact absurd rfl (noMember _ _ rfl)
    | item helement => exact absurd rfl (noList _ _ helement)
  | @member name member d found unlisted =>
    have hcontains : d.contains member ≠ true := fun h ↦ unlisted (EnumDef.contains_iff.mp h)
    change BaseType.check cb (.enumRef name) (.string member) = _
    rw [BaseType.check, found]
    exact if_neg hcontains
  | @undeclared name member missing =>
    change BaseType.check cb (.enumRef name) (.string member) = _
    rw [BaseType.check, missing]
  | item helement hbefore _ ih =>
    rw [check_list_of_element? helement, forM_eq_error_iff]
    exact ⟨_, _, _, rfl, fun x hx ↦ check_eq_ok_iff.mpr (hbefore x hx), ih⟩

theorem ParamType.check_eq_error_iff : t.check cb v = .error e ↔ t.Refuses cb v e :=
  ⟨refuses_of_check, Refuses.check_eq_error⟩

/-- Below two levels of lists: the literal that is named is the one that is refused for itself, and
what follows it does not matter. -/
example (cb : Cookbook) :
    ParamType.check cb ⟨.array (.primitive .int), true⟩
        (.list [.list [.int 1], .list [.int 2, .bool true, .string "x"], .bool false]) =
      .error (.mismatch "int" "true") := by
  rfl

/-- An enum is only missed where the type is over that enum and the cookbook has none of the
name. -/
theorem ParamType.Refuses.findEnum?_eq_none {name : String}
    (h : t.Refuses cb v (.unknownEnum name)) :
    t.enumName? = some name ∧ cb.findEnum? name = none := by
  generalize he : ValueError.unknownEnum name = e at h
  induction h with
  | form => cases he
  | member => cases he
  | undeclared missing =>
    cases he
    exact ⟨rfl, missing⟩
  | item helement _ _ ih =>
    obtain ⟨hname, hmissing⟩ := ih he
    rw [← enumName?_of_element? helement]
    exact ⟨hname, hmissing⟩

end Refusals

/-! ## The answers of the check -/

/-- What the check answers on the literals of a type. -/
structure ParamType.DecidesLiterals (cb : Cookbook) (t : ParamType) : Prop where
  /-- It passes what conforms, and nothing else. -/
  ok_iff (v : Literal) : t.check cb v = .ok () ↔ t.Conforms cb v
  /-- A sequence takes lists of what its items take. -/
  conforms_iff {element : ParamType} (helement : t.element? = some element) (v : Literal) :
    t.Conforms cb v ↔ ∃ items, v = .list items ∧ ∀ x ∈ items, element.Conforms cb x
  /-- Its errors are the refusals. -/
  error_iff (v : Literal) (e : ValueError) : t.check cb v = .error e ↔ t.Refuses cb v e
  /-- A list has the error of its first item that does not conform. -/
  list_error_iff {element : ParamType} (helement : t.element? = some element)
    (items : List Literal) (e : ValueError) :
    t.check cb (.list items) = .error e ↔ ∃ before x after, items = before ++ x :: after ∧
      (∀ y ∈ before, element.Conforms cb y) ∧ ¬element.Conforms cb x ∧
        element.check cb x = .error e
  /-- The enum that an error misses is the one the type is over, and it is not declared. -/
  unknownEnum {v : Literal} {name : String} (h : t.check cb v = .error (.unknownEnum name)) :
    t.enumName? = some name ∧ ∀ d ∈ cb.enums, d.name ≠ name
  /-- In the cookbook where a type was read, no enum is missed. -/
  declared {type : String} (htype : parse? cb type = some t) (v : Literal) (name : String) :
    t.check cb v ≠ .error (.unknownEnum name)

theorem ParamType.check_list_eq_error_iff {cb : Cookbook} {t element : ParamType}
    (helement : t.element? = some element) {items : List Literal} {e : ValueError} :
    t.check cb (.list items) = .error e ↔ ∃ before x after, items = before ++ x :: after ∧
      (∀ y ∈ before, element.Conforms cb y) ∧ ¬element.Conforms cb x ∧
        element.check cb x = .error e := by
  rw [check_list_of_element? helement, forM_eq_error_iff]
  constructor
  · rintro ⟨before, x, after, hsplit, hbefore, hx⟩
    refine ⟨before, x, after, hsplit, fun y hy ↦ ?_, not_conforms_of_check hx, hx⟩
    exact check_eq_ok_iff.mp (hbefore y hy)
  · rintro ⟨before, x, after, hsplit, hbefore, -, hx⟩
    exact ⟨before, x, after, hsplit, fun y hy ↦ check_eq_ok_iff.mpr (hbefore y hy), hx⟩

/-- The missed enum is not declared under any of the declarations, since the lookup goes through all
of them. -/
theorem ParamType.forall_enums_of_check {cb : Cookbook} {t : ParamType} {v : Literal}
    {name : String} (h : t.check cb v = .error (.unknownEnum name)) :
    t.enumName? = some name ∧ ∀ d ∈ cb.enums, d.name ≠ name := by
  obtain ⟨hname, hmissing⟩ := (refuses_of_check h).findEnum?_eq_none
  refine ⟨hname, fun d hd hdname ↦ ?_⟩
  have hfound : (cb.findEnum? name).isSome = true :=
    Cookbook.findEnum?_isSome_iff.mpr ⟨d, hd, hdname⟩
  rw [hmissing] at hfound
  cases hfound

theorem ParamType.decidesLiterals (cb : Cookbook) (t : ParamType) : t.DecidesLiterals cb where
  ok_iff _ := check_eq_ok_iff
  conforms_iff helement _ := conforms_iff_of_element? helement
  error_iff _ _ := check_eq_error_iff
  list_error_iff helement _ _ := check_list_eq_error_iff helement
  unknownEnum h := forall_enums_of_check h
  declared htype v name h := by
    obtain ⟨hname, hmissing⟩ := forall_enums_of_check h
    obtain ⟨d, hd, hdname⟩ := exists_enum_of_parse? htype hname
    exact hmissing d hd hdname

end Cookery
