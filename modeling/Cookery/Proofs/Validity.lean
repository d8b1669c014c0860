import Cookery.Proofs.Conformance
import Cookery.Proofs.Distinct
import Cookery.Validation

/-!
# What the validation rules say

Each rule is a walk that stops at its first violation. This file says what each of the sixteen asks
for, without a walk: `Rule.Holds` is the condition, and validation passes exactly the cookbooks in
which all sixteen conditions hold.

## Conditions that need earlier conditions

A walk and its condition do not always agree. The walks look fields up by name, first match first,
and read types again that an earlier rule has read, so on a cookbook with two fields of one name or
with a type that cannot be read they fail where the condition has nothing to say. They agree on
cookbooks in which the earlier conditions hold, and that is enough, since a rule is only reached
when the earlier ones have passed. `Rule.check_eq_ok_iff` carries the earlier conditions as its
hypothesis; the lemmas before it, on one ingredient, each name those they need.

## Types of parameters

A parameter of an initializer has no type of its own: it has the type of the field it names. Here
that is a relation, `Ingredient.TakesType`, between names and types. It need not be a function, nor
total, and saying so costs nothing: distinct field names make it a function and readable types make
it total.
-/

namespace Cookery

/-! ## The conditions -/

/-- `[A-Za-z_][A-Za-z0-9_]*`. -/
def IsIdentifier (name : String) : Prop :=
  ∃ c cs, name.toList = c :: cs ∧ (c.isAlpha ∨ c = '_') ∧ ∀ d ∈ cs, d.isAlphanum ∨ d = '_'

namespace Ingredient

/-- An initializer parameter stands for a field of its name, and has the type of that field. -/
def TakesType (cb : Cookbook) (i : Ingredient) (param : String) (t : ParamType) : Prop :=
  ∃ r ∈ i.required, r.name = param ∧ ParamType.parse? cb r.type = some t

/-- The types of the parameters of an initializer, in order. -/
def HasSignature (cb : Cookbook) (i : Ingredient) (init : Initializer)
    (types : List ParamType) : Prop :=
  List.Forall₂ (i.TakesType cb) init.params types

end Ingredient

/-- What a rule asks of a cookbook. -/
def Rule.Holds (cb : Cookbook) : Rule → Prop
  | uniqueIngredientNames => (cb.ingredients.map (·.name)).Nodup
  | uniqueFieldNames =>
    ∀ i ∈ cb.ingredients, (i.required.map (·.name) ++ i.optionals.map (·.name)).Nodup
  | typesResolve =>
    ∀ i ∈ cb.ingredients, (∀ r ∈ i.required, ∃ t, ParamType.parse? cb r.type = some t) ∧
      ∀ o ∈ i.optionals, (∀ type, o.type = some type → ∃ t, ParamType.parse? cb type = some t) ∧
        ∀ params, o.params = some params → ∀ p ∈ params, ∃ t, ParamType.parse? cb p.type = some t
  | initializerParamsDeclared =>
    ∀ i ∈ cb.ingredients, ∀ init ∈ i.initializers, ∀ p ∈ init.params, ∃ r ∈ i.required, r.name = p
  | requiredCoverage =>
    ∀ i ∈ cb.ingredients, ∀ r ∈ i.required, r.default = none →
      ∀ init ∈ i.initializers, r.name ∈ init.params
  | unambiguousInitializers =>
    ∀ i ∈ cb.ingredients, i.initializers.Pairwise fun first second ↦
      ∀ types, i.HasSignature cb first types → ∀ types', i.HasSignature cb second types' →
        types.map ParamType.erase ≠ types'.map ParamType.erase
  | initializerVarargLast =>
    ∀ i ∈ cb.ingredients, ∀ init ∈ i.initializers, ∀ p ∈ init.params.dropLast,
      ∀ t, i.TakesType cb p t → t.vararg = false
  | optionalShape =>
    ∀ i ∈ cb.ingredients, ∀ o ∈ i.optionals,
      (∃ type, o.type = some type ∧ o.params = none) ∨
        ∃ params, o.type = none ∧ o.params = some params
  | compoundParams =>
    ∀ i ∈ cb.ingredients, ∀ o ∈ i.optionals, ∀ params, o.params = some params →
      params ≠ [] ∧ ∀ p ∈ params, ∀ t, ParamType.parse? cb p.type = some t → t.base ≠ .flag
  | compoundVarargLast =>
    ∀ i ∈ cb.ingredients, ∀ o ∈ i.optionals, ∀ params, o.params = some params →
      ∀ p ∈ params.dropLast, ∀ t, ParamType.parse? cb p.type = some t → t.vararg = false
  | uniqueEnumNames => (cb.enums.map (·.name)).Nodup
  | enumValues => ∀ d ∈ cb.enums, d.values ≠ [] ∧ d.values.Nodup
  | enumNameSyntax => ∀ d ∈ cb.enums, IsIdentifier d.name ∧ d.name ∉ builtinKeywords
  | flagPlacement =>
    ∀ i ∈ cb.ingredients,
      (∀ r ∈ i.required, ∀ t, ParamType.parse? cb r.type = some t → t.base ≠ .flag) ∧
        ∀ o ∈ i.optionals, ∀ type, o.type = some type →
          ∀ t, ParamType.parse? cb type = some t → t.base = .flag → t.vararg = false
  | defaultsConform =>
    ∀ i ∈ cb.ingredients, ∀ r ∈ i.required, ∀ v, r.default = some v →
      ∀ t, ParamType.parse? cb r.type = some t → t.Conforms cb v
  | keyConstants =>
    ∀ i ∈ cb.ingredients, (i.keyed = false → i.keyConstants = []) ∧ i.keyConstants.Nodup

/-! ## Reading types -/

theorem Cookbook.resolve_eq_ok_iff {cb : Cookbook} {subject type : String} {t : ParamType} :
    cb.resolve subject type = .ok t ↔ ParamType.parse? cb type = some t := by
  rw [Cookbook.resolve]
  cases ParamType.parse? cb type with
  | none => exact ⟨fun h ↦ (nomatch h), fun h ↦ nomatch h⟩
  | some u =>
    exact ⟨fun h ↦ congrArg some (Except.ok.inj h), fun h ↦ congrArg Except.ok (Option.some.inj h)⟩

/-- A type is read in one way only. -/
theorem ParamType.parse?_unique {cb : Cookbook} {type : String} {t u : ParamType}
    (ht : ParamType.parse? cb type = some t) (hu : ParamType.parse? cb type = some u) : t = u :=
  Option.some.inj (ht.symm.trans hu)

theorem ParamType.isFlag_iff {t : ParamType} : t.isFlag = true ↔ t.base = .flag := by
  rw [ParamType.isFlag, beq_iff_eq]

namespace Ingredient

variable {cb : Cookbook} {i : Ingredient}

theorem checkTypesResolve_eq_ok_iff :
    i.checkTypesResolve cb = .ok () ↔
      (∀ r ∈ i.required, ∃ t, ParamType.parse? cb r.type = some t) ∧
        ∀ o ∈ i.optionals,
          (∀ type, o.type = some type → ∃ t, ParamType.parse? cb type = some t) ∧
            ∀ params, o.params = some params →
              ∀ p ∈ params, ∃ t, ParamType.parse? cb p.type = some t := by
  have hread {subject type : String} : discard (cb.resolve subject type) = .ok () ↔
      ∃ t, ParamType.parse? cb type = some t := by
    rw [discard_eq_ok_iff]
    exact exists_congr fun t ↦ Cookbook.resolve_eq_ok_iff
  rw [checkTypesResolve, seq_eq_ok_iff, forM_eq_ok_iff, forM_eq_ok_iff]
  refine and_congr (forall₂_congr fun r _ ↦ hread) (forall₂_congr fun o _ ↦ ?_)
  rw [seq_eq_ok_iff, forM_eq_ok_iff]
  refine and_congr ?_ ?_
  · cases o.type with
    | none => exact ⟨fun _ _ h ↦ (nomatch h), fun _ ↦ rfl⟩
    | some type =>
      refine hread.trans ⟨fun h type' htype ↦ ?_, fun h ↦ h type rfl⟩
      rwa [← Option.some.inj htype]
  · cases o.params with
    | none => exact ⟨fun _ _ h ↦ (nomatch h), fun _ _ h ↦ nomatch h⟩
    | some params =>
      refine ⟨fun h params' hparams p hp ↦ ?_, fun h p hp ↦ hread.mpr (h params rfl p hp)⟩
      rw [← Option.some.inj hparams] at hp
      exact hread.mp (h p hp)

/-! ## Parameters of initializers -/

theorem findRequired?_isNone_iff {name : String} :
    (i.findRequired? name).isNone = true ↔ ¬∃ r ∈ i.required, r.name = name := by
  rw [findRequired?, Option.isNone_iff_eq_none, List.find?_eq_none]
  constructor
  · rintro h ⟨r, hr, hname⟩
    exact h r hr (beq_iff_eq.mpr hname)
  · intro h r hr hname
    exact h ⟨r, hr, beq_iff_eq.mp hname⟩

theorem checkParamsDeclared_eq_ok_iff :
    i.checkParamsDeclared = .ok () ↔
      ∀ init ∈ i.initializers, ∀ p ∈ init.params, ∃ r ∈ i.required, r.name = p := by
  rw [checkParamsDeclared, indexedInitializers, forM_eq_ok_iff,
    ← forall_mem_zipIdx_iff (l := i.initializers)]
  refine forall₂_congr fun x _ ↦ ?_
  have hnone : x.1.params.find? (fun p ↦ (i.findRequired? p).isNone) = none ↔
      ∀ p ∈ x.1.params, ∃ r ∈ i.required, r.name = p := by
    rw [List.find?_eq_none]
    refine forall₂_congr fun p _ ↦ ?_
    rw [findRequired?_isNone_iff, not_not]
  rw [← hnone]
  dsimp only
  cases x.1.params.find? fun p ↦ (i.findRequired? p).isNone with
  | none => exact ⟨fun _ ↦ rfl, fun _ ↦ rfl⟩
  | some p => exact ⟨fun h ↦ (nomatch h), fun h ↦ nomatch h⟩

theorem checkCoverage_eq_ok_iff :
    i.checkCoverage = .ok () ↔
      ∀ r ∈ i.required, r.default = none → ∀ init ∈ i.initializers, r.name ∈ init.params := by
  rw [checkCoverage, forM_eq_ok_iff]
  constructor
  · intro h r hr hdefault
    have hmem : r ∈ i.required.filter (·.default.isNone) :=
      List.mem_filter.mpr ⟨hr, Option.isNone_iff_eq_none.mpr hdefault⟩
    rw [← forall_mem_zipIdx_iff]
    intro x hx
    have hstep := forM_eq_ok_iff.mp (h r hmem) x hx
    by_contra hnot
    dsimp only at hstep
    rw [if_neg (by rwa [List.contains_iff_mem])] at hstep
    exact nomatch hstep
  · intro h r hr
    obtain ⟨hr, hdefault⟩ := List.mem_filter.mp hr
    have hcover := h r hr (Option.isNone_iff_eq_none.mp hdefault)
    rw [← forall_mem_zipIdx_iff] at hcover
    refine forM_eq_ok_iff.mpr fun x hx ↦ ?_
    dsimp only
    rw [if_pos (List.contains_iff_mem.mpr (hcover x hx))]

/-! ### Signatures

From here on the names of the required fields are distinct, so that a parameter has at most one
type, the one that the lookup finds. -/

theorem TakesType.unique (hnames : (i.required.map (·.name)).Nodup) {p : String}
    {t u : ParamType} (ht : i.TakesType cb p t) (hu : i.TakesType cb p u) : t = u := by
  obtain ⟨r, hr, hrname, ht⟩ := ht
  obtain ⟨q, hq, hqname, hu⟩ := hu
  have hrq : r = q := by
    have h := (find?_name_eq_some_iff hnames).mpr ⟨hr, hrname⟩
    rw [(find?_name_eq_some_iff hnames).mpr ⟨hq, hqname⟩] at h
    exact (Option.some.inj h).symm
  subst hrq
  exact ParamType.parse?_unique ht hu

theorem requiredType_eq_ok_iff (hnames : (i.required.map (·.name)).Nodup) {p : String}
    {t : ParamType} : i.requiredType cb p = .ok t ↔ i.TakesType cb p t := by
  have hfind (r : Required) : i.findRequired? p = some r ↔ r ∈ i.required ∧ r.name = p :=
    find?_name_eq_some_iff hnames
  rw [requiredType]
  cases h : i.findRequired? p with
  | none =>
    refine ⟨fun h ↦ (nomatch h), fun ⟨r, hr, hname, _⟩ ↦ ?_⟩
    rw [(hfind r).mpr ⟨hr, hname⟩] at h
    exact nomatch h
  | some r =>
    obtain ⟨hr, hname⟩ := (hfind r).mp h
    refine Cookbook.resolve_eq_ok_iff.trans ⟨fun ht ↦ ⟨r, hr, hname, ht⟩, ?_⟩
    rintro ⟨q, hq, hqname, hu⟩
    rw [(hfind q).mpr ⟨hq, hqname⟩] at h
    rwa [← Option.some.inj h]

theorem paramTypes_eq_ok_iff (hnames : (i.required.map (·.name)).Nodup) {init : Initializer}
    {types : List ParamType} :
    i.paramTypes cb init = .ok types ↔ i.HasSignature cb init types := by
  rw [paramTypes, HasSignature]
  exact mapM_eq_ok_iff_forall₂ fun _ _ ↦ requiredType_eq_ok_iff hnames

/-- Parameters that name fields with readable types have types. -/
theorem exists_hasSignature
    (htypes : ∀ r ∈ i.required, ∃ t, ParamType.parse? cb r.type = some t) {init : Initializer}
    (hparams : ∀ p ∈ init.params, ∃ r ∈ i.required, r.name = p) :
    ∃ types, i.HasSignature cb init types := by
  refine exists_forall₂ fun p hp ↦ ?_
  obtain ⟨r, hr, hname⟩ := hparams p hp
  obtain ⟨t, ht⟩ := htypes r hr
  exact ⟨t, r, hr, hname, ht⟩

/-- The comparison of one initializer with those before it. What has been seen is a list of erased
signatures: the rest passes when it differs from all of them and from itself. -/
theorem checkSignaturesAfter_eq_ok_iff {seen : List (List ParamType × Nat)}
    {rest : List (Initializer × Nat)}
    (htotal : ∀ x ∈ rest, ∃ types, i.paramTypes cb x.1 = .ok types) :
    i.checkSignaturesAfter cb seen rest = .ok () ↔
      (rest.Pairwise fun x y ↦ ∀ types, i.paramTypes cb x.1 = .ok types →
        ∀ types', i.paramTypes cb y.1 = .ok types' →
          types.map ParamType.erase ≠ types'.map ParamType.erase) ∧
      ∀ x ∈ rest, ∀ types, i.paramTypes cb x.1 = .ok types →
        ∀ s ∈ seen, s.1 ≠ types.map ParamType.erase := by
  induction rest generalizing seen with
  | nil => exact ⟨fun _ ↦ ⟨.nil, fun _ hx ↦ nomatch hx⟩, fun _ ↦ rfl⟩
  | cons x rest ih =>
    obtain ⟨init, index⟩ := x
    obtain ⟨⟨types, htypes⟩, htotal⟩ := List.forall_mem_cons.mp htotal
    have hown (types' : List ParamType) : i.paramTypes cb init = .ok types' ↔ types = types' := by
      rw [htypes]
      exact ⟨Except.ok.inj, fun h ↦ congrArg Except.ok h⟩
    rw [checkSignaturesAfter, htypes, List.pairwise_cons, List.forall_mem_cons]
    simp only [hown, forall_eq']
    dsimp only [bind, Except.bind]
    cases hseen : seen.lookup (types.map ParamType.erase) with
    | some first =>
      -- The head repeats a signature that has been seen.
      refine ⟨fun h ↦ (nomatch h), fun h ↦ ?_⟩
      have hnone : seen.lookup (types.map ParamType.erase) = none :=
        List.lookup_eq_none_iff.mpr fun s hs ↦ by
          simpa using (h.2.1 s hs).symm
      rw [hseen] at hnone
      exact nomatch hnone
    | none =>
      -- The head is new, so the rest also has to differ from it.
      have hnew : ∀ s ∈ seen, s.1 ≠ types.map ParamType.erase := fun s hs heq ↦ by
        simpa [heq] using List.lookup_eq_none_iff.mp hseen s hs
      rw [ih htotal]
      constructor
      · rintro ⟨hpair, hrest⟩
        refine ⟨⟨fun y hy types' hy' ↦ ?_, hpair⟩, hnew, fun y hy types' hy' s hs ↦ ?_⟩
        · exact hrest y hy types' hy' (types.map ParamType.erase, index) List.mem_cons_self
        · exact hrest y hy types' hy' s (List.mem_cons_of_mem _ hs)
      · rintro ⟨⟨hhead, hpair⟩, -, hrest⟩
        refine ⟨hpair, fun y hy types' hy' s hs ↦ ?_⟩
        rcases List.mem_cons.mp hs with rfl | hs
        · exact hhead y hy types' hy'
        · exact hrest y hy types' hy' s hs

theorem checkSignatures_eq_ok_iff (hnames : (i.required.map (·.name)).Nodup)
    (htypes : ∀ r ∈ i.required, ∃ t, ParamType.parse? cb r.type = some t)
    (hparams : ∀ init ∈ i.initializers, ∀ p ∈ init.params, ∃ r ∈ i.required, r.name = p) :
    i.checkSignatures cb = .ok () ↔
      i.initializers.Pairwise fun first second ↦ ∀ types, i.HasSignature cb first types →
        ∀ types', i.HasSignature cb second types' →
          types.map ParamType.erase ≠ types'.map ParamType.erase := by
  have htotal : ∀ x ∈ i.initializers.zipIdx, ∃ types, i.paramTypes cb x.1 = .ok types := by
    refine (forall_mem_zipIdx_iff (P := fun init ↦ ∃ types, i.paramTypes cb init = .ok types)).mpr
      fun init hinit ↦ ?_
    obtain ⟨types, h⟩ := exists_hasSignature htypes (hparams init hinit)
    exact ⟨types, (paramTypes_eq_ok_iff hnames).mpr h⟩
  rw [checkSignatures, indexedInitializers, checkSignaturesAfter_eq_ok_iff htotal]
  simp only [paramTypes_eq_ok_iff hnames]
  conv_rhs => rw [← List.zipIdx_map_fst 0 i.initializers, List.pairwise_map]
  exact and_iff_left fun _ _ _ _ _ hs ↦ nomatch hs

end Ingredient

/-! ### Varargs -/

/-- The scan for misplaced varargs asks that none but the last type is one. -/
theorem checkVarargLast_eq_ok_iff {owner : ParamOwner} {names : List String}
    {types : List ParamType} (hlength : names.length = types.length) :
    checkVarargLast owner (names.zip types) = .ok () ↔
      ∀ t ∈ types.dropLast, t.vararg = false := by
  induction names generalizing types with
  | nil =>
    rw [List.eq_nil_of_length_eq_zero hlength.symm]
    exact ⟨fun _ _ ht ↦ (nomatch ht), fun _ ↦ rfl⟩
  | cons name names ih =>
    obtain ⟨t, types, rfl⟩ := List.exists_cons_of_length_eq_add_one hlength.symm
    have hlength : names.length = types.length := Nat.succ.inj hlength
    cases names with
    | nil =>
      rw [List.eq_nil_of_length_eq_zero hlength.symm]
      exact ⟨fun _ _ ht ↦ (nomatch ht), fun _ ↦ rfl⟩
    | cons name' names =>
      obtain ⟨t', types, rfl⟩ := List.exists_cons_of_length_eq_add_one hlength.symm
      rw [List.dropLast_cons_cons, List.forall_mem_cons, ← ih hlength, List.zip_cons_cons,
        List.zip_cons_cons, checkVarargLast]
      · cases t.vararg with
        | true => exact ⟨fun h ↦ (nomatch h), fun h ↦ nomatch h.1⟩
        | false => exact ⟨fun h ↦ ⟨rfl, h⟩, fun h ↦ h.2⟩
      · exact fun h ↦ nomatch h

/-- Where each entry has at most one type, a scan of the types is a scan of the entries. -/
theorem forall_mem_dropLast_iff_of_forall₂ {α : Type} {R : α → ParamType → Prop} {l : List α}
    {types : List ParamType} (h : List.Forall₂ R l types) (hR : ∀ a t u, R a t → R a u → t = u) :
    (∀ t ∈ types.dropLast, t.vararg = false) ↔
      ∀ a ∈ l.dropLast, ∀ t, R a t → t.vararg = false := by
  rw [List.dropLast_eq_take, List.dropLast_eq_take, ← h.length_eq]
  exact forall_mem_iff_of_forall₂ (List.forall₂_take _ h) hR

theorem Ingredient.checkInitializerVarargs_eq_ok_iff {cb : Cookbook} {i : Ingredient}
    (hnames : (i.required.map (·.name)).Nodup)
    (htypes : ∀ r ∈ i.required, ∃ t, ParamType.parse? cb r.type = some t)
    (hparams : ∀ init ∈ i.initializers, ∀ p ∈ init.params, ∃ r ∈ i.required, r.name = p) :
    i.checkInitializerVarargs cb = .ok () ↔
      ∀ init ∈ i.initializers, ∀ p ∈ init.params.dropLast,
        ∀ t, i.TakesType cb p t → t.vararg = false := by
  rw [checkInitializerVarargs, indexedInitializers, forM_eq_ok_iff,
    ← forall_mem_zipIdx_iff (l := i.initializers)]
  refine forall₂_congr fun x hx ↦ ?_
  have hinit : x.1 ∈ i.initializers := List.fst_mem_of_mem_zipIdx hx
  obtain ⟨types, hsignature⟩ := exists_hasSignature htypes (hparams x.1 hinit)
  dsimp only
  rw [(paramTypes_eq_ok_iff hnames).mpr hsignature,
    ← forall_mem_dropLast_iff_of_forall₂ hsignature fun _ _ _ ↦ TakesType.unique hnames]
  exact checkVarargLast_eq_ok_iff hsignature.length_eq

/-! ## Optional fields -/

namespace Ingredient

variable {cb : Cookbook} {i : Ingredient}

theorem checkOptionalShapes_eq_ok_iff :
    i.checkOptionalShapes = .ok () ↔
      ∀ o ∈ i.optionals, (∃ type, o.type = some type ∧ o.params = none) ∨
        ∃ params, o.type = none ∧ o.params = some params := by
  rw [checkOptionalShapes, forM_eq_ok_iff]
  refine forall₂_congr fun o _ ↦ ?_
  cases o.type with
  | none =>
    cases o.params with
    | none => exact ⟨fun h ↦ (nomatch h), by rintro (⟨_, h, _⟩ | ⟨_, _, h⟩) <;> exact nomatch h⟩
    | some params => exact ⟨fun _ ↦ .inr ⟨params, rfl, rfl⟩, fun _ ↦ rfl⟩
  | some type =>
    cases o.params with
    | none => exact ⟨fun _ ↦ .inl ⟨type, rfl, rfl⟩, fun _ ↦ rfl⟩
    | some params =>
      exact ⟨fun h ↦ (nomatch h), by rintro (⟨_, _, h⟩ | ⟨_, h, _⟩) <;> exact nomatch h⟩

end Ingredient

namespace OptionalField

variable {o : OptionalField}

theorem shape?_eq_simple {type : String} (htype : o.type = some type) (hparams : o.params = none) :
    o.shape? = some (.simple type) := by
  rw [shape?, htype, hparams]

theorem shape?_eq_compound {params : List Param} (htype : o.type = none)
    (hparams : o.params = some params) : o.shape? = some (.compound params) := by
  rw [shape?, htype, hparams]

end OptionalField

theorem Cookbook.groupTypes_eq_ok_iff {cb : Cookbook} {ingredient optional : String}
    {params : List Param} {types : List ParamType} :
    cb.groupTypes ingredient optional params = .ok types ↔
      List.Forall₂ (fun p t ↦ ParamType.parse? cb p.type = some t) params types := by
  rw [Cookbook.groupTypes]
  exact mapM_eq_ok_iff_forall₂ fun _ _ ↦ Cookbook.resolve_eq_ok_iff

/-! ### Groups and flags

From here on every optional field has a shape and all types can be read. -/

namespace Ingredient

variable {cb : Cookbook} {i : Ingredient}
  (hshape : ∀ o ∈ i.optionals, (∃ type, o.type = some type ∧ o.params = none) ∨
    ∃ params, o.type = none ∧ o.params = some params)
  (htypes : ∀ o ∈ i.optionals,
    (∀ type, o.type = some type → ∃ t, ParamType.parse? cb type = some t) ∧
      ∀ params, o.params = some params → ∀ p ∈ params, ∃ t, ParamType.parse? cb p.type = some t)

include hshape htypes

theorem checkCompoundParams_eq_ok_iff :
    i.checkCompoundParams cb = .ok () ↔
      ∀ o ∈ i.optionals, ∀ params, o.params = some params → params ≠ [] ∧
        ∀ p ∈ params, ∀ t, ParamType.parse? cb p.type = some t → t.base ≠ .flag := by
  rw [checkCompoundParams, forM_eq_ok_iff]
  refine forall₂_congr fun o ho ↦ ?_
  rcases hshape o ho with ⟨type, htype, hparams⟩ | ⟨params, htype, hparams⟩
  · rw [OptionalField.shape?_eq_simple htype hparams, hparams]
    exact ⟨fun _ _ h ↦ (nomatch h), fun _ ↦ rfl⟩
  · rw [OptionalField.shape?_eq_compound htype hparams, hparams]
    simp only [Option.some.injEq, forall_eq']
    obtain ⟨types, hall⟩ := exists_forall₂ ((htypes o ho).2 params hparams)
    cases params with
    | nil => exact ⟨fun h ↦ (nomatch h), fun h ↦ absurd rfl h.1⟩
    | cons p params =>
      dsimp only
      rw [Cookbook.groupTypes_eq_ok_iff.mpr hall,
        ← forall_mem_iff_of_forall₂ hall fun _ _ _ ↦ ParamType.parse?_unique]
      refine ite_error_eq_ok_iff.trans ⟨fun h ↦ ⟨List.cons_ne_nil p params, fun t ht hbase ↦ ?_⟩,
        fun h ↦ ⟨fun hflag ↦ ?_, rfl⟩⟩
      · exact h.1 (List.any_eq_true.mpr ⟨t, ht, ParamType.isFlag_iff.mpr hbase⟩)
      · obtain ⟨t, ht, hbase⟩ := List.any_eq_true.mp hflag
        exact h.2 t ht (ParamType.isFlag_iff.mp hbase)

theorem checkCompoundVarargs_eq_ok_iff :
    i.checkCompoundVarargs cb = .ok () ↔
      ∀ o ∈ i.optionals, ∀ params, o.params = some params →
        ∀ p ∈ params.dropLast, ∀ t, ParamType.parse? cb p.type = some t → t.vararg = false := by
  rw [checkCompoundVarargs, forM_eq_ok_iff]
  refine forall₂_congr fun o ho ↦ ?_
  rcases hshape o ho with ⟨type, htype, hparams⟩ | ⟨params, htype, hparams⟩
  · rw [OptionalField.shape?_eq_simple htype hparams, hparams]
    exact ⟨fun _ _ h ↦ (nomatch h), fun _ ↦ rfl⟩
  · rw [OptionalField.shape?_eq_compound htype hparams, hparams]
    simp only [Option.some.injEq, forall_eq']
    obtain ⟨types, hall⟩ := exists_forall₂ ((htypes o ho).2 params hparams)
    rw [Cookbook.groupTypes_eq_ok_iff.mpr hall,
      ← forall_mem_dropLast_iff_of_forall₂ hall fun _ _ _ ↦ ParamType.parse?_unique]
    exact checkVarargLast_eq_ok_iff ((List.length_map _).trans hall.length_eq)

theorem checkFlags_eq_ok_iff (hnames : (i.required.map (·.name)).Nodup)
    (hrequired : ∀ r ∈ i.required, ∃ t, ParamType.parse? cb r.type = some t) :
    i.checkFlags cb = .ok () ↔
      (∀ r ∈ i.required, ∀ t, ParamType.parse? cb r.type = some t → t.base ≠ .flag) ∧
        ∀ o ∈ i.optionals, ∀ type, o.type = some type →
          ∀ t, ParamType.parse? cb type = some t → t.base = .flag → t.vararg = false := by
  rw [checkFlags, seq_eq_ok_iff, forM_eq_ok_iff, forM_eq_ok_iff]
  refine and_congr (forall₂_congr fun r hr ↦ ?_) (forall₂_congr fun o ho ↦ ?_)
  · obtain ⟨t, ht⟩ := hrequired r hr
    rw [(requiredType_eq_ok_iff hnames).mpr ⟨r, hr, rfl, ht⟩, ht]
    simp only [Option.some.injEq, forall_eq']
    refine ite_error_eq_ok_iff.trans ?_
    rw [ParamType.isFlag_iff]
    exact and_iff_left rfl
  · rcases hshape o ho with ⟨type, htype, hparams⟩ | ⟨params, htype, hparams⟩
    · rw [OptionalField.shape?_eq_simple htype hparams, htype]
      obtain ⟨t, ht⟩ := (htypes o ho).1 type htype
      simp only [Option.some.injEq, forall_eq']
      rw [Cookbook.resolve_eq_ok_iff.mpr ht, ht]
      simp only [Option.some.injEq, forall_eq']
      refine ite_error_eq_ok_iff.trans ?_
      rw [Bool.and_eq_true, ParamType.isFlag_iff, not_and, Bool.not_eq_true]
      exact and_iff_left rfl
    · rw [OptionalField.shape?_eq_compound htype hparams, htype]
      exact ⟨fun _ _ h ↦ (nomatch h), fun _ ↦ rfl⟩

omit hshape htypes

/-! ## Defaults and key constants -/

theorem checkDefaults_eq_ok_iff
    (hrequired : ∀ r ∈ i.required, ∃ t, ParamType.parse? cb r.type = some t) :
    i.checkDefaults cb = .ok () ↔
      ∀ r ∈ i.required, ∀ v, r.default = some v →
        ∀ t, ParamType.parse? cb r.type = some t → t.Conforms cb v := by
  rw [checkDefaults, forM_eq_ok_iff]
  refine forall₂_congr fun r hr ↦ ?_
  obtain ⟨t, ht⟩ := hrequired r hr
  cases r.default with
  | none => exact ⟨fun _ _ h ↦ (nomatch h), fun _ ↦ rfl⟩
  | some v =>
    simp only [ht, Option.some.injEq, forall_eq']
    rw [Cookbook.resolve_eq_ok_iff.mpr ht, ← ParamType.check_eq_ok_iff]
    exact mapError_eq_ok_iff

theorem checkKeyConstants_eq_ok_iff :
    i.checkKeyConstants = .ok () ↔
      (i.keyed = false → i.keyConstants = []) ∧ i.keyConstants.Nodup := by
  rw [checkKeyConstants, ite_error_eq_ok_iff, ← firstDuplicate?_eq_none_iff]
  refine and_congr ?_ ?_
  · rw [Bool.and_eq_true, Bool.not_eq_true', Bool.not_eq_true', List.isEmpty_eq_false_iff, not_and,
      not_not]
  · cases firstDuplicate? i.keyConstants with
    | none => exact ⟨fun _ ↦ rfl, fun _ ↦ rfl⟩
    | some c => exact ⟨fun h ↦ (nomatch h), fun h ↦ nomatch h⟩

end Ingredient

/-! ## Enums -/

theorem isWordChar_iff {c : Char} : isWordChar c = true ↔ c.isAlphanum = true ∨ c = '_' := by
  rw [isWordChar, Bool.or_eq_true, beq_iff_eq]

theorem isIdentifier_iff {name : String} : isIdentifier name = true ↔ IsIdentifier name := by
  rw [isIdentifier, IsIdentifier]
  cases name.toList with
  | nil => exact ⟨fun h ↦ (nomatch h), fun ⟨_, _, h, _⟩ ↦ nomatch h⟩
  | cons c cs =>
    rw [isIdentifierChars, Bool.and_eq_true, Bool.or_eq_true, beq_iff_eq, List.all_eq_true]
    simp only [isWordChar_iff]
    constructor
    · rintro ⟨hc, hcs⟩
      exact ⟨c, cs, rfl, hc, hcs⟩
    · rintro ⟨d, ds, heq, hd, hds⟩
      obtain ⟨rfl, rfl⟩ := List.cons.inj heq
      exact ⟨hd, hds⟩

namespace EnumDef

variable {d : EnumDef}

theorem checkValues_eq_ok_iff :
    d.checkValues = .ok () ↔ d.values ≠ [] ∧ d.values.Nodup := by
  rw [checkValues, ite_error_eq_ok_iff, ← firstDuplicate?_eq_none_iff, List.isEmpty_iff]
  refine and_congr_right fun _ ↦ ?_
  cases firstDuplicate? d.values with
  | none => exact ⟨fun _ ↦ rfl, fun _ ↦ rfl⟩
  | some c => exact ⟨fun h ↦ (nomatch h), fun h ↦ nomatch h⟩

theorem checkName_eq_ok_iff :
    d.checkName = .ok () ↔ IsIdentifier d.name ∧ d.name ∉ builtinKeywords := by
  rw [checkName, ite_error_eq_ok_iff, ite_error_eq_ok_iff, Bool.not_eq_true', Bool.not_eq_false,
    isIdentifier_iff, List.contains_iff_mem]
  exact and_congr_right fun _ ↦ and_iff_left rfl

end EnumDef

/-! ## The rules, each after the earlier ones -/

namespace Rule

/-- The rules that are checked before a rule. -/
def earlier (rule : Rule) : List Rule :=
  all.takeWhile (· ≠ rule)

theorem earlier_eq_of_all_eq {rule : Rule} {before after : List Rule}
    (h : all = before ++ rule :: after) : rule.earlier = before := by
  have hnodup : (before ++ rule :: after).Nodup := h ▸ (by decide : all.Nodup)
  have hne : ∀ r ∈ before, decide (r ≠ rule) = true := by
    intro r hr
    refine decide_eq_true fun heq ↦ ?_
    exact (List.nodup_append.mp hnodup).2.2 r hr rule List.mem_cons_self heq
  rw [earlier, h, List.takeWhile_append_of_pos hne,
    List.takeWhile_cons_of_neg (by simp), List.append_nil]

variable {cb : Cookbook}

/-- Distinct field names are distinct names of required fields. -/
theorem nodup_required_of_holds (h : uniqueFieldNames.Holds cb) {i : Ingredient}
    (hi : i ∈ cb.ingredients) : (i.required.map (·.name)).Nodup :=
  (List.nodup_append.mp (h i hi)).1

/-- **A rule means its condition, after the earlier ones.** Six of the rules need what earlier rules
have established; the others mean their condition on any cookbook. -/
theorem check_eq_ok_iff {rule : Rule} (h : ∀ r ∈ rule.earlier, r.Holds cb) :
    rule.check cb = .ok () ↔ rule.Holds cb := by
  cases rule with
  | uniqueIngredientNames => exact refuseDuplicate_eq_ok_iff
  | uniqueFieldNames =>
    exact forM_eq_ok_iff.trans (forall₂_congr fun i _ ↦ refuseDuplicate_eq_ok_iff)
  | typesResolve =>
    exact forM_eq_ok_iff.trans (forall₂_congr fun i _ ↦ Ingredient.checkTypesResolve_eq_ok_iff)
  | initializerParamsDeclared =>
    exact forM_eq_ok_iff.trans (forall₂_congr fun i _ ↦ Ingredient.checkParamsDeclared_eq_ok_iff)
  | requiredCoverage =>
    exact forM_eq_ok_iff.trans (forall₂_congr fun i _ ↦ Ingredient.checkCoverage_eq_ok_iff)
  | unambiguousInitializers =>
    have hnames : uniqueFieldNames.Holds cb := h _ (by decide)
    have htypes : typesResolve.Holds cb := h _ (by decide)
    have hparams : initializerParamsDeclared.Holds cb := h _ (by decide)
    refine forM_eq_ok_iff.trans (forall₂_congr fun i hi ↦ ?_)
    exact Ingredient.checkSignatures_eq_ok_iff (nodup_required_of_holds hnames hi) (htypes i hi).1
      (hparams i hi)
  | initializerVarargLast =>
    have hnames : uniqueFieldNames.Holds cb := h _ (by decide)
    have htypes : typesResolve.Holds cb := h _ (by decide)
    have hparams : initializerParamsDeclared.Holds cb := h _ (by decide)
    refine forM_eq_ok_iff.trans (forall₂_congr fun i hi ↦ ?_)
    exact Ingredient.checkInitializerVarargs_eq_ok_iff (nodup_required_of_holds hnames hi)
      (htypes i hi).1 (hparams i hi)
  | optionalShape =>
    exact forM_eq_ok_iff.trans (forall₂_congr fun i _ ↦ Ingredient.checkOptionalShapes_eq_ok_iff)
  | compoundParams =>
    have htypes : typesResolve.Holds cb := h _ (by decide)
    have hshape : optionalShape.Holds cb := h _ (by decide)
    refine forM_eq_ok_iff.trans (forall₂_congr fun i hi ↦ ?_)
    exact Ingredient.checkCompoundParams_eq_ok_iff (hshape i hi) (htypes i hi).2
  | compoundVarargLast =>
    have htypes : typesResolve.Holds cb := h _ (by decide)
    have hshape : optionalShape.Holds cb := h _ (by decide)
    refine forM_eq_ok_iff.trans (forall₂_congr fun i hi ↦ ?_)
    exact Ingredient.checkCompoundVarargs_eq_ok_iff (hshape i hi) (htypes i hi).2
  | uniqueEnumNames => exact refuseDuplicate_eq_ok_iff
  | enumValues =>
    exact forM_eq_ok_iff.trans (forall₂_congr fun d _ ↦ EnumDef.checkValues_eq_ok_iff)
  | enumNameSyntax =>
    exact forM_eq_ok_iff.trans (forall₂_congr fun d _ ↦ EnumDef.checkName_eq_ok_iff)
  | flagPlacement =>
    have hnames : uniqueFieldNames.Holds cb := h _ (by decide)
    have htypes : typesResolve.Holds cb := h _ (by decide)
    have hshape : optionalShape.Holds cb := h _ (by decide)
    refine forM_eq_ok_iff.trans (forall₂_congr fun i hi ↦ ?_)
    exact Ingredient.checkFlags_eq_ok_iff (hshape i hi) (htypes i hi).2
      (nodup_required_of_holds hnames hi) (htypes i hi).1
  | defaultsConform =>
    have htypes : typesResolve.Holds cb := h _ (by decide)
    refine forM_eq_ok_iff.trans (forall₂_congr fun i hi ↦ ?_)
    exact Ingredient.checkDefaults_eq_ok_iff (htypes i hi).1
  | keyConstants =>
    exact forM_eq_ok_iff.trans (forall₂_congr fun i _ ↦ Ingredient.checkKeyConstants_eq_ok_iff)

theorem mem_all (rule : Rule) : rule ∈ all := by
  cases rule <;> decide

end Rule

theorem Cookbook.validate_eq_ok_iff {cb : Cookbook} :
    cb.validate = .ok () ↔ ∀ rule ∈ Rule.all, rule.Holds cb :=
  forM_eq_ok_iff_of_earlier fun _ _ _ hall hbefore ↦
    Rule.check_eq_ok_iff (Rule.earlier_eq_of_all_eq hall ▸ hbefore)

/-- What a valid cookbook can be relied on for. -/
theorem Rule.holds_of_validate {cb : Cookbook} (h : cb.validate = .ok ()) (rule : Rule) :
    rule.Holds cb :=
  Cookbook.validate_eq_ok_iff.mp h rule rule.mem_all

/-- **Validity.** Validation passes a cookbook exactly when the conditions of all sixteen rules hold
in it. -/
theorem Cookbook.validate_eq_ok_iff_forall_holds (cb : Cookbook) :
    cb.validate = .ok () ↔ ∀ rule : Rule, rule.Holds cb :=
  ⟨Rule.holds_of_validate, fun h ↦ Cookbook.validate_eq_ok_iff.mpr fun rule _ ↦ h rule⟩

end Cookery
