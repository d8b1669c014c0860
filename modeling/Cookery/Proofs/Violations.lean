import Cookery.Proofs.LiteralCheck

/-!
# What a validation error says

A validation error carries names, positions and types, and a reader of the message goes and looks
for what they name. This file shows that it is there: `Rule.Violation` says, for each error that a
rule reports, what has to be wrong with the cookbook at the place the error names, and every error
of validation is a violation of the first rule whose condition fails.

## Errors that do not surface

The later rules read types again and look parameters up again, and those lookups have errors of
their own. One of them is made up: a parameter without field is reported at the first initializer,
whatever initializer is being looked at. None of these errors gets out of validation. A rule is
reached only when the earlier conditions hold, and they make the lookups succeed, so in a later rule
the only error left is its own. That is why each lemma on a later rule begins with the success of
its lookups, and why `Rule.Violation` has one constructor for types that cannot be read and one for
parameters without field.
-/

namespace Cookery

/-! ## Violations -/

/-- How an error names the place of a type: a field by its ingredient, and a member of a group also
by the optional field the group belongs to. -/
def placeSubject (ingredient : String) : Option String → String → String
  | none, name => fieldSubject ingredient name
  | some optional, name => memberSubject ingredient optional name

/-- A literal of the first type contains another where one of the second type is expected: the
literal itself, or an item of an item, as deep as the type goes. -/
inductive ParamType.Meets : ParamType → Literal → ParamType → Literal → Prop
  | whole (t : ParamType) (v : Literal) : Meets t v t v
  | item {t elem u : ParamType} {items : List Literal} {v w : Literal}
      (helem : t.element? = some elem) (hv : v ∈ items) (h : Meets elem v u w) :
      Meets t (.list items) u w

/-- What is wrong with a cookbook when a rule reports an error: the names in the error are those of
declarations of the cookbook, and these declarations break the rule. -/
inductive Rule.Violation (cb : Cookbook) : Rule → SchemaError → Prop
  | ingredientName {name : String} (twice : 1 < (cb.ingredients.map (·.name)).count name) :
      Violation cb .uniqueIngredientNames (.duplicateName .ingredient name none)
  | fieldName {i : Ingredient} {name : String} (hi : i ∈ cb.ingredients)
      (twice : 1 < i.fieldNames.count name) :
      Violation cb .uniqueFieldNames (.duplicateName .field name (some i.name))
  | type {i : Ingredient} {optional : Option String} {name type : String}
      (hi : i ∈ cb.ingredients) (declared : i.Declares optional name type)
      (unreadable : ParamType.parse? cb type = none) :
      Violation cb .typesResolve (.unknownType (placeSubject i.name optional name) type)
  | param {i : Ingredient} {init : Initializer} {index : Nat} {p : String}
      (hi : i ∈ cb.ingredients) (hinit : i.initializers[index]? = some init)
      (listed : p ∈ init.params) (undeclared : ¬∃ r ∈ i.required, r.name = p) :
      Violation cb .initializerParamsDeclared (.undeclaredInitializerParam i.name index p)
  | coverage {i : Ingredient} {r : Required} {init : Initializer} {index : Nat}
      (hi : i ∈ cb.ingredients) (hr : r ∈ i.required) (hdefault : r.default = none)
      (hinit : i.initializers[index]? = some init) (omitted : r.name ∉ init.params) :
      Violation cb .requiredCoverage (.missingRequiredCoverage i.name index r.name)
  | signature {i : Ingredient} {init init' : Initializer} {first second : Nat}
      {types types' : List ParamType} (hi : i ∈ cb.ingredients) (order : first < second)
      (hfirst : i.initializers[first]? = some init)
      (hsecond : i.initializers[second]? = some init') (htypes : i.HasSignature cb init types)
      (htypes' : i.HasSignature cb init' types')
      (same : types.map ParamType.erase = types'.map ParamType.erase) :
      Violation cb .unambiguousInitializers (.ambiguousInitializerSignature i.name first second
        (renderSignature (types.map ParamType.erase)))
  | initializerVararg {i : Ingredient} {init : Initializer} {index : Nat} {p : String}
      {t : ParamType} (hi : i ∈ cb.ingredients) (hinit : i.initializers[index]? = some init)
      (notLast : p ∈ init.params.dropLast) (htype : i.TakesType cb p t)
      (vararg : t.vararg = true) :
      Violation cb .initializerVarargLast (.misplacedVararg (.initializer index i.name) p)
  | bothShapes {i : Ingredient} {o : OptionalField} (hi : i ∈ cb.ingredients)
      (ho : o ∈ i.optionals) (htype : o.type ≠ none) (hparams : o.params ≠ none) :
      Violation cb .optionalShape (.invalidOptionalShape i.name o.name .bothShapes)
  | noShape {i : Ingredient} {o : OptionalField} (hi : i ∈ cb.ingredients) (ho : o ∈ i.optionals)
      (htype : o.type = none) (hparams : o.params = none) :
      Violation cb .optionalShape (.invalidOptionalShape i.name o.name .noShape)
  | emptyGroup {i : Ingredient} {o : OptionalField} (hi : i ∈ cb.ingredients)
      (ho : o ∈ i.optionals) (hparams : o.params = some []) :
      Violation cb .compoundParams (.invalidOptionalShape i.name o.name .emptyParams)
  | groupFlag {i : Ingredient} {o : OptionalField} {params : List Param} {p : Param}
      {t : ParamType} (hi : i ∈ cb.ingredients) (ho : o ∈ i.optionals)
      (hparams : o.params = some params) (hp : p ∈ params)
      (htype : ParamType.parse? cb p.type = some t) (flag : t.base = .flag) :
      Violation cb .compoundParams (.invalidOptionalShape i.name o.name .flagParam)
  | groupVararg {i : Ingredient} {o : OptionalField} {params : List Param} {p : Param}
      {t : ParamType} (hi : i ∈ cb.ingredients) (ho : o ∈ i.optionals)
      (hparams : o.params = some params) (notLast : p ∈ params.dropLast)
      (htype : ParamType.parse? cb p.type = some t) (vararg : t.vararg = true) :
      Violation cb .compoundVarargLast (.misplacedVararg (.optional o.name i.name) p.name)
  | enumName {name : String} (twice : 1 < (cb.enums.map (·.name)).count name) :
      Violation cb .uniqueEnumNames (.duplicateName .enum name none)
  | noValues {d : EnumDef} (hd : d ∈ cb.enums) (hvalues : d.values = []) :
      Violation cb .enumValues (.invalidEnum d.name .noValues)
  | enumValue {d : EnumDef} {value : String} (hd : d ∈ cb.enums)
      (twice : 1 < d.values.count value) :
      Violation cb .enumValues (.invalidEnum d.name (.duplicateValue value))
  | enumIdentifier {d : EnumDef} (hd : d ∈ cb.enums) (hname : ¬IsIdentifier d.name) :
      Violation cb .enumNameSyntax (.invalidEnum d.name .notIdentifier)
  | enumKeyword {d : EnumDef} (hd : d ∈ cb.enums) (hname : d.name ∈ builtinKeywords) :
      Violation cb .enumNameSyntax (.invalidEnum d.name .shadowsBuiltin)
  | requiredFlag {i : Ingredient} {r : Required} {t : ParamType} (hi : i ∈ cb.ingredients)
      (hr : r ∈ i.required) (htype : ParamType.parse? cb r.type = some t) (flag : t.base = .flag) :
      Violation cb .flagPlacement (.flagNotAllowed i.name r.name)
  | varargFlag {i : Ingredient} {o : OptionalField} {type : String} {t : ParamType}
      (hi : i ∈ cb.ingredients) (ho : o ∈ i.optionals) (hsimple : o.type = some type)
      (htype : ParamType.parse? cb type = some t) (flag : t.base = .flag)
      (vararg : t.vararg = true) :
      Violation cb .flagPlacement (.invalidOptionalShape i.name o.name .varargFlag)
  | defaultForm {i : Ingredient} {r : Required} {v w : Literal} {t u : ParamType}
      (hi : i ∈ cb.ingredients) (hr : r ∈ i.required) (hdefault : r.default = some v)
      (htype : ParamType.parse? cb r.type = some t) (hmeets : t.Meets v u w)
      (misfit : ¬u.Conforms cb w)
      (deepest : ∀ elem items, u.element? = some elem → w ≠ .list items) :
      Violation cb .defaultsConform
        (.valueTypeMismatch (fieldSubject i.name r.name) u.render w.text)
  | defaultMember {i : Ingredient} {r : Required} {v : Literal} {t : ParamType} {d : EnumDef}
      {name member : String} (hi : i ∈ cb.ingredients) (hr : r ∈ i.required)
      (hdefault : r.default = some v) (htype : ParamType.parse? cb r.type = some t)
      (hmeets : t.Meets v (.enumRef name) (.string member)) (found : cb.findEnum? name = some d)
      (unlisted : member ∉ d.values) :
      Violation cb .defaultsConform (.valueNotInEnum name member)
  | notKeyed {i : Ingredient} (hi : i ∈ cb.ingredients) (hkeyed : i.keyed = false)
      (hconstants : i.keyConstants ≠ []) :
      Violation cb .keyConstants (.invalidKeyConstants i.name .notKeyed)
  | keyConstant {i : Ingredient} {c : String} (hi : i ∈ cb.ingredients) (hkeyed : i.keyed = true)
      (twice : 1 < i.keyConstants.count c) :
      Violation cb .keyConstants (.invalidKeyConstants i.name (.duplicateConstant c))

open Rule (Violation)

/-! ## Types and parameters -/

theorem Cookbook.resolve_eq_error {cb : Cookbook} {subject type : String} {e : SchemaError}
    (h : cb.resolve subject type = .error e) :
    ParamType.parse? cb type = none ∧ e = .unknownType subject type := by
  rw [Cookbook.resolve] at h
  cases hparse : ParamType.parse? cb type with
  | some t =>
    rw [hparse] at h
    cases h
  | none =>
    rw [hparse] at h
    exact ⟨rfl, (Except.error.inj h).symm⟩

namespace Ingredient

variable {cb : Cookbook} {i : Ingredient} {e : SchemaError}

theorem violation_of_checkTypesResolve (hi : i ∈ cb.ingredients)
    (h : i.checkTypesResolve cb = .error e) : Violation cb .typesResolve e := by
  have hplace {optional : Option String} {name type : String}
      (hdeclared : i.Declares optional name type)
      (h : discard (cb.resolve (placeSubject i.name optional name) type) = .error e) :
      Violation cb .typesResolve e := by
    obtain ⟨hnone, rfl⟩ := Cookbook.resolve_eq_error (discard_eq_error_iff.mp h)
    exact .type hi hdeclared hnone
  rw [checkTypesResolve] at h
  rcases seq_eq_error_iff.mp h with h | ⟨-, h⟩
  · obtain ⟨r, hr, h⟩ := exists_mem_of_forM_eq_error h
    exact hplace (.required hr) h
  · obtain ⟨o, ho, h⟩ := exists_mem_of_forM_eq_error h
    rcases seq_eq_error_iff.mp h with h | ⟨-, h⟩
    · cases htype : o.type with
      | none =>
        rw [htype] at h
        cases h
      | some type =>
        rw [htype] at h
        exact hplace (.optional ho htype) h
    · obtain ⟨p, hp, h⟩ := exists_mem_of_forM_eq_error h
      cases hparams : o.params with
      | none =>
        rw [hparams] at hp
        cases hp
      | some params =>
        rw [hparams] at hp
        exact hplace (.member ho hparams hp) h

theorem violation_of_checkParamsDeclared (hi : i ∈ cb.ingredients)
    (h : i.checkParamsDeclared = .error e) : Violation cb .initializerParamsDeclared e := by
  obtain ⟨⟨init, index⟩, hx, h⟩ := exists_mem_of_forM_eq_error h
  have hinit : i.initializers[index]? = some init := List.mk_mem_zipIdx_iff_getElem?.mp hx
  dsimp only at h
  cases hfind : init.params.find? fun p ↦ (i.findRequired? p).isNone with
  | none =>
    rw [hfind] at h
    cases h
  | some p =>
    rw [hfind] at h
    obtain rfl := Except.error.inj h
    have hnone := List.find?_some hfind
    exact .param hi hinit (List.mem_of_find?_eq_some hfind) (findRequired?_isNone_iff.mp hnone)

theorem violation_of_checkCoverage (hi : i ∈ cb.ingredients) (h : i.checkCoverage = .error e) :
    Violation cb .requiredCoverage e := by
  obtain ⟨r, hr, h⟩ := exists_mem_of_forM_eq_error h
  obtain ⟨hr, hdefault⟩ := List.mem_filter.mp hr
  obtain ⟨⟨init, index⟩, hx, h⟩ := exists_mem_of_forM_eq_error h
  have hinit : i.initializers[index]? = some init := List.mk_mem_zipIdx_iff_getElem?.mp hx
  dsimp only at h
  by_cases hmem : init.params.contains r.name
  · rw [if_pos hmem] at h
    cases h
  · rw [if_neg hmem] at h
    obtain rfl := Except.error.inj h
    rw [List.contains_iff_mem] at hmem
    exact .coverage hi hr (Option.isNone_iff_eq_none.mp hdefault) hinit hmem

/-! ## Signatures and varargs

From here on the earlier conditions make every parameter of an initializer have a type. -/

/-- The scan keeps the erased signatures of the initializers it has passed, each with its position.
So a hit is a pair of initializers, and the one passed first comes first. -/
theorem exists_pair_of_checkSignaturesAfter {seen : List (List ParamType × Nat)}
    {rest : List (Initializer × Nat)}
    (htotal : ∀ x ∈ rest, ∃ types, i.paramTypes cb x.1 = .ok types)
    (hseen : ∀ s ∈ seen, ∃ init types, i.initializers[s.2]? = some init ∧
      i.paramTypes cb init = .ok types ∧ types.map ParamType.erase = s.1)
    (hrest : ∀ x ∈ rest, i.initializers[x.2]? = some x.1)
    (horder : ∀ s ∈ seen, ∀ x ∈ rest, s.2 < x.2) (hsorted : rest.Pairwise fun x y ↦ x.2 < y.2)
    (h : i.checkSignaturesAfter cb seen rest = .error e) :
    ∃ first second init init' types types', first < second ∧
      i.initializers[first]? = some init ∧ i.initializers[second]? = some init' ∧
      i.paramTypes cb init = .ok types ∧ i.paramTypes cb init' = .ok types' ∧
      types.map ParamType.erase = types'.map ParamType.erase ∧
      e = .ambiguousInitializerSignature i.name first second
        (renderSignature (types.map ParamType.erase)) := by
  induction rest generalizing seen with
  | nil => cases h
  | cons x rest ih =>
    obtain ⟨init, index⟩ := x
    obtain ⟨⟨types, htypes⟩, htotal⟩ := List.forall_mem_cons.mp htotal
    obtain ⟨hinit, hrest⟩ := List.forall_mem_cons.mp hrest
    obtain ⟨hhead, hsorted⟩ := List.pairwise_cons.mp hsorted
    rw [checkSignaturesAfter, htypes] at h
    dsimp only [bind, Except.bind] at h
    cases hlookup : seen.lookup (types.map ParamType.erase) with
    | some first =>
      rw [hlookup] at h
      obtain ⟨before, after, rfl, -⟩ := List.lookup_eq_some_iff.mp hlookup
      have hmem : (types.map ParamType.erase, first) ∈
          before ++ (types.map ParamType.erase, first) :: after := by simp
      obtain ⟨init', types', hinit', htypes', hsame⟩ := hseen _ hmem
      have hlt : first < index := horder _ hmem _ List.mem_cons_self
      refine ⟨first, index, init', init, types', types, hlt, hinit', hinit, htypes', htypes, hsame,
        ?_⟩
      rw [← Except.error.inj h]
      exact congrArg _ (congrArg renderSignature hsame.symm)
    | none =>
      rw [hlookup] at h
      -- The head joins what has been seen: it stands before the rest, as the others there do.
      refine ih htotal (List.forall_mem_cons.mpr ⟨⟨init, types, hinit, htypes, rfl⟩, hseen⟩) hrest
        (List.forall_mem_cons.mpr ⟨hhead, fun s hs x hx ↦ ?_⟩) hsorted h
      exact horder s hs x (List.mem_cons_of_mem _ hx)

section Parameters

variable (hnames : (i.required.map (·.name)).Nodup)
  (htypes : ∀ r ∈ i.required, ∃ t, ParamType.parse? cb r.type = some t)
  (hparams : ∀ init ∈ i.initializers, ∀ p ∈ init.params, ∃ r ∈ i.required, r.name = p)

include hnames htypes hparams

theorem exists_paramTypes {init : Initializer} (hinit : init ∈ i.initializers) :
    ∃ types, i.paramTypes cb init = .ok types := by
  obtain ⟨types, h⟩ := exists_hasSignature htypes (hparams init hinit)
  exact ⟨types, (paramTypes_eq_ok_iff hnames).mpr h⟩

theorem violation_of_checkSignatures (hi : i ∈ cb.ingredients)
    (h : i.checkSignatures cb = .error e) : Violation cb .unambiguousInitializers e := by
  have hsorted : i.indexedInitializers.Pairwise fun x y ↦ x.2 < y.2 := by
    have hlt : (i.initializers.zipIdx.map Prod.snd).Pairwise (· < ·) := by
      rw [List.zipIdx_map_snd]
      exact List.pairwise_lt_range'
    exact List.pairwise_map.mp hlt
  have hnone : ∀ s ∈ ([] : List (List ParamType × Nat)), ∃ init types,
      i.initializers[s.2]? = some init ∧ i.paramTypes cb init = .ok types ∧
        types.map ParamType.erase = s.1 := by simp
  obtain ⟨first, second, init, init', types, types', hlt, hinit, hinit', hsig, hsig', hsame, rfl⟩ :=
    exists_pair_of_checkSignaturesAfter
      (fun x hx ↦ exists_paramTypes hnames htypes hparams (List.fst_mem_of_mem_zipIdx hx)) hnone
      (fun x hx ↦ List.mk_mem_zipIdx_iff_getElem?.mp hx) (by simp) hsorted h
  exact .signature hi hlt hinit hinit' ((paramTypes_eq_ok_iff hnames).mp hsig)
    ((paramTypes_eq_ok_iff hnames).mp hsig') hsame

end Parameters

end Ingredient

/-- The scan for misplaced varargs stops at an entry that is not the last one. -/
theorem exists_vararg_of_checkVarargLast {α : Type} {R : α → ParamType → Prop} {name : α → String}
    {l : List α} {types : List ParamType} {owner : ParamOwner} {e : SchemaError}
    (hall : List.Forall₂ R l types)
    (h : checkVarargLast owner ((l.map name).zip types) = .error e) :
    ∃ a ∈ l.dropLast, ∃ t, R a t ∧ t.vararg = true ∧ e = .misplacedVararg owner (name a) := by
  induction hall with
  | nil => cases h
  | @cons a t l types ht hall ih =>
    cases hall with
    | nil => cases h
    | @cons a' t' l types ht' hall =>
      rw [List.map_cons, List.map_cons, List.zip_cons_cons, List.zip_cons_cons, checkVarargLast,
        ite_error_eq_error_iff] at h
      · rcases h with ⟨hvararg, rfl⟩ | ⟨-, h⟩
        · exact ⟨a, List.mem_cons_self, t, ht, hvararg, rfl⟩
        · obtain ⟨b, hb, hrest⟩ := ih h
          exact ⟨b, List.mem_cons_of_mem a hb, hrest⟩
      · intro hnil
        cases hnil

theorem Ingredient.violation_of_checkInitializerVarargs {cb : Cookbook} {i : Ingredient}
    {e : SchemaError} (hnames : (i.required.map (·.name)).Nodup)
    (htypes : ∀ r ∈ i.required, ∃ t, ParamType.parse? cb r.type = some t)
    (hparams : ∀ init ∈ i.initializers, ∀ p ∈ init.params, ∃ r ∈ i.required, r.name = p)
    (hi : i ∈ cb.ingredients) (h : i.checkInitializerVarargs cb = .error e) :
    Violation cb .initializerVarargLast e := by
  obtain ⟨⟨init, index⟩, hx, h⟩ := exists_mem_of_forM_eq_error h
  have hinit : i.initializers[index]? = some init := List.mk_mem_zipIdx_iff_getElem?.mp hx
  obtain ⟨types, hsig⟩ :=
    exists_paramTypes hnames htypes hparams (List.fst_mem_of_mem_zipIdx hx)
  dsimp only at h hsig
  rw [hsig, ← List.map_id init.params] at h
  obtain ⟨p, hp, t, ht, hvararg, rfl⟩ :=
    exists_vararg_of_checkVarargLast ((paramTypes_eq_ok_iff hnames).mp hsig) h
  exact .initializerVararg hi hinit hp ht hvararg

/-! ## Optional fields -/

namespace Ingredient

variable {cb : Cookbook} {i : Ingredient} {e : SchemaError}

theorem violation_of_checkOptionalShapes (hi : i ∈ cb.ingredients)
    (h : i.checkOptionalShapes = .error e) : Violation cb .optionalShape e := by
  obtain ⟨o, ho, h⟩ := exists_mem_of_forM_eq_error h
  cases htype : o.type with
  | none =>
    cases hparams : o.params with
    | none =>
      rw [htype, hparams] at h
      obtain rfl := Except.error.inj h
      exact .noShape hi ho htype hparams
    | some params =>
      rw [htype, hparams] at h
      cases h
  | some type =>
    cases hparams : o.params with
    | none =>
      rw [htype, hparams] at h
      cases h
    | some params =>
      rw [htype, hparams] at h
      obtain rfl := Except.error.inj h
      exact .bothShapes hi ho (by simp [htype]) (by simp [hparams])

section Shapes

variable (hshape : ∀ o ∈ i.optionals, (∃ type, o.type = some type ∧ o.params = none) ∨
    ∃ params, o.type = none ∧ o.params = some params)
  (htypes : ∀ o ∈ i.optionals,
    (∀ type, o.type = some type → ∃ t, ParamType.parse? cb type = some t) ∧
      ∀ params, o.params = some params → ∀ p ∈ params, ∃ t, ParamType.parse? cb p.type = some t)

include hshape htypes

theorem violation_of_checkCompoundParams (hi : i ∈ cb.ingredients)
    (h : i.checkCompoundParams cb = .error e) : Violation cb .compoundParams e := by
  obtain ⟨o, ho, h⟩ := exists_mem_of_forM_eq_error h
  rcases hshape o ho with ⟨type, htype, hparams⟩ | ⟨params, htype, hparams⟩
  · rw [OptionalField.shape?_eq_simple htype hparams] at h
    cases h
  · rw [OptionalField.shape?_eq_compound htype hparams] at h
    obtain ⟨types, hall⟩ := exists_forall₂ ((htypes o ho).2 params hparams)
    cases params with
    | nil =>
      obtain rfl := Except.error.inj h
      exact .emptyGroup hi ho hparams
    | cons p params =>
      dsimp only at h
      rw [Cookbook.groupTypes_eq_ok_iff.mpr hall] at h
      rcases ite_error_eq_error_iff.mp h with ⟨hflag, rfl⟩ | ⟨-, h⟩
      · obtain ⟨t, ht, hflag⟩ := List.any_eq_true.mp hflag
        obtain ⟨q, hq, hqt⟩ := (exists_mem_of_forall₂ hall).2 t ht
        exact .groupFlag hi ho hparams hq hqt (ParamType.isFlag_iff.mp hflag)
      · cases h

theorem violation_of_checkCompoundVarargs (hi : i ∈ cb.ingredients)
    (h : i.checkCompoundVarargs cb = .error e) : Violation cb .compoundVarargLast e := by
  obtain ⟨o, ho, h⟩ := exists_mem_of_forM_eq_error h
  rcases hshape o ho with ⟨type, htype, hparams⟩ | ⟨params, htype, hparams⟩
  · rw [OptionalField.shape?_eq_simple htype hparams] at h
    cases h
  · rw [OptionalField.shape?_eq_compound htype hparams] at h
    obtain ⟨types, hall⟩ := exists_forall₂ ((htypes o ho).2 params hparams)
    dsimp only at h
    rw [Cookbook.groupTypes_eq_ok_iff.mpr hall] at h
    obtain ⟨p, hp, t, ht, hvararg, rfl⟩ := exists_vararg_of_checkVarargLast hall h
    exact .groupVararg hi ho hparams hp ht hvararg

theorem violation_of_checkFlags (hnames : (i.required.map (·.name)).Nodup)
    (hrequired : ∀ r ∈ i.required, ∃ t, ParamType.parse? cb r.type = some t)
    (hi : i ∈ cb.ingredients) (h : i.checkFlags cb = .error e) :
    Violation cb .flagPlacement e := by
  rw [checkFlags] at h
  rcases seq_eq_error_iff.mp h with h | ⟨-, h⟩
  · obtain ⟨r, hr, h⟩ := exists_mem_of_forM_eq_error h
    obtain ⟨t, ht⟩ := hrequired r hr
    rw [(requiredType_eq_ok_iff hnames).mpr ⟨r, hr, rfl, ht⟩] at h
    rcases ite_error_eq_error_iff.mp h with ⟨hflag, rfl⟩ | ⟨-, h⟩
    · exact .requiredFlag hi hr ht (ParamType.isFlag_iff.mp hflag)
    · cases h
  · obtain ⟨o, ho, h⟩ := exists_mem_of_forM_eq_error h
    rcases hshape o ho with ⟨type, htype, hparams⟩ | ⟨params, htype, hparams⟩
    · rw [OptionalField.shape?_eq_simple htype hparams] at h
      obtain ⟨t, ht⟩ := (htypes o ho).1 type htype
      dsimp only at h
      rw [Cookbook.resolve_eq_ok_iff.mpr ht] at h
      rcases ite_error_eq_error_iff.mp h with ⟨hflag, rfl⟩ | ⟨-, h⟩
      · obtain ⟨hflag, hvararg⟩ := Bool.and_eq_true_iff.mp hflag
        exact .varargFlag hi ho htype ht (ParamType.isFlag_iff.mp hflag) hvararg
      · cases h
    · rw [OptionalField.shape?_eq_compound htype hparams] at h
      cases h

end Shapes

end Ingredient

/-! ## Defaults

An error of the check is about one literal inside the default, and it is found by following the type
down. The check of a type over an undeclared enum has an error too, but a type that can be read is
over a declared one, at every depth. -/

/-- Following a type down, one stays over the same enum. -/
theorem ParamType.Meets.enumName?_eq {t u : ParamType} {v w : Literal} (h : t.Meets v u w) :
    u.enumName? = t.enumName? := by
  induction h with
  | whole t v => rfl
  | item helem _ _ ih => rw [ih, enumName?_of_element? helem]

/-- Why a literal is refused where it stands, whatever it stands in. -/
inductive ParamType.Rejects (cb : Cookbook) : ParamType → Literal → ValueError → Prop
  | form {u : ParamType} {w : Literal} (misfit : ¬u.Conforms cb w)
      (deepest : ∀ elem items, u.element? = some elem → w ≠ .list items) :
      Rejects cb u w (u.mismatch w)
  | member {name member : String} {d : EnumDef} (found : cb.findEnum? name = some d)
      (unlisted : member ∉ d.values) :
      Rejects cb (.enumRef name) (.string member) (.notInEnum name member)
  | undeclared {name member : String} (missing : cb.findEnum? name = none) :
      Rejects cb (.enumRef name) (.string member) (.unknownEnum name)

/-- A refusal deep in a literal is a refusal of the literal that stands there. -/
theorem ParamType.Refuses.exists_rejects {cb : Cookbook} {t : ParamType} {v : Literal}
    {err : ValueError} (h : t.Refuses cb v err) : ∃ u w, t.Meets v u w ∧ u.Rejects cb w err := by
  induction h with
  | form misfit noList _ => exact ⟨_, _, .whole _ _, .form misfit noList⟩
  | member found unlisted => exact ⟨_, _, .whole _ _, .member found unlisted⟩
  | undeclared missing => exact ⟨_, _, .whole _ _, .undeclared missing⟩
  | item helement _ _ ih =>
    obtain ⟨u, w, hmeets, hrejects⟩ := ih
    exact ⟨u, w, .item helement (by simp) hmeets, hrejects⟩

theorem Ingredient.violation_of_checkDefaults {cb : Cookbook} {i : Ingredient} {e : SchemaError}
    (hrequired : ∀ r ∈ i.required, ∃ t, ParamType.parse? cb r.type = some t)
    (hi : i ∈ cb.ingredients) (h : i.checkDefaults cb = .error e) :
    Violation cb .defaultsConform e := by
  obtain ⟨r, hr, h⟩ := exists_mem_of_forM_eq_error h
  obtain ⟨t, ht⟩ := hrequired r hr
  cases hdefault : r.default with
  | none =>
    rw [hdefault] at h
    cases h
  | some v =>
    rw [hdefault] at h
    dsimp only at h
    rw [Cookbook.resolve_eq_ok_iff.mpr ht] at h
    obtain ⟨err, herr, rfl⟩ := mapError_eq_error_iff.mp h
    obtain ⟨u, w, hmeets, hrejects⟩ := (ParamType.refuses_of_check herr).exists_rejects
    cases hrejects with
    | form misfit deepest => exact .defaultForm hi hr hdefault ht hmeets misfit deepest
    | member found unlisted => exact .defaultMember hi hr hdefault ht hmeets found unlisted
    | @undeclared name member missing =>
      obtain ⟨d, hd, hname⟩ := ParamType.exists_enum_of_parse? ht hmeets.enumName?_eq.symm
      have hsome : (cb.findEnum? name).isSome = true :=
        Cookbook.findEnum?_isSome_iff.mpr ⟨d, hd, hname⟩
      rw [missing] at hsome
      cases hsome

/-! ## Key constants and enums -/

theorem Ingredient.violation_of_checkKeyConstants {cb : Cookbook} {i : Ingredient}
    {e : SchemaError} (hi : i ∈ cb.ingredients) (h : i.checkKeyConstants = .error e) :
    Violation cb .keyConstants e := by
  rcases ite_error_eq_error_iff.mp h with ⟨hkeyed, rfl⟩ | ⟨hkeyed, h⟩
  · simp only [Bool.and_eq_true, Bool.not_eq_true', List.isEmpty_eq_false_iff] at hkeyed
    exact .notKeyed hi hkeyed.1 hkeyed.2
  · cases hfound : firstDuplicate? i.keyConstants with
    | none =>
      rw [hfound] at h
      cases h
    | some c =>
      rw [hfound] at h
      obtain rfl := Except.error.inj h
      have htwice := one_lt_count_of_firstDuplicate? hfound
      -- Constants that repeat are constants, so the ingredient that passed is keyed.
      have hne : i.keyConstants ≠ [] := by
        intro hnil
        rw [hnil] at htwice
        cases htwice
      have hkeyed : i.keyed = true := by
        simpa [hne] using hkeyed
      exact .keyConstant hi hkeyed htwice

namespace EnumDef

variable {cb : Cookbook} {d : EnumDef} {e : SchemaError}

theorem violation_of_checkValues (hd : d ∈ cb.enums) (h : d.checkValues = .error e) :
    Violation cb .enumValues e := by
  rcases ite_error_eq_error_iff.mp h with ⟨hempty, rfl⟩ | ⟨-, h⟩
  · exact .noValues hd (List.isEmpty_iff.mp hempty)
  · cases hfound : firstDuplicate? d.values with
    | none =>
      rw [hfound] at h
      cases h
    | some value =>
      rw [hfound] at h
      obtain rfl := Except.error.inj h
      exact .enumValue hd (one_lt_count_of_firstDuplicate? hfound)

theorem violation_of_checkName (hd : d ∈ cb.enums) (h : d.checkName = .error e) :
    Violation cb .enumNameSyntax e := by
  rcases ite_error_eq_error_iff.mp h with ⟨hname, rfl⟩ | ⟨-, h⟩
  · refine .enumIdentifier hd fun hident ↦ ?_
    rw [isIdentifier_iff.mpr hident] at hname
    cases hname
  · rcases ite_error_eq_error_iff.mp h with ⟨hname, rfl⟩ | ⟨-, h⟩
    · exact .enumKeyword hd (List.contains_iff_mem.mp hname)
    · cases h

end EnumDef

/-! ## Rules and cookbooks -/

namespace Rule

variable {cb : Cookbook} {e : SchemaError}

/-- Where the earlier conditions hold, the error of a rule is a violation of that rule. -/
theorem violation_of_check {rule : Rule} (hearlier : ∀ r ∈ rule.earlier, r.Holds cb)
    (h : rule.check cb = .error e) : rule.Violation cb e := by
  -- A rule has three kinds of input: names of the whole cookbook, one ingredient, one enum.
  cases rule with
  | uniqueIngredientNames =>
    obtain ⟨name, htwice, rfl⟩ := refuseDuplicate_eq_error h
    exact .ingredientName htwice
  | uniqueFieldNames =>
    obtain ⟨i, hi, h⟩ := exists_mem_of_forM_eq_error h
    obtain ⟨name, htwice, rfl⟩ := refuseDuplicate_eq_error h
    exact .fieldName hi htwice
  | typesResolve =>
    obtain ⟨i, hi, h⟩ := exists_mem_of_forM_eq_error h
    exact Ingredient.violation_of_checkTypesResolve hi h
  | initializerParamsDeclared =>
    obtain ⟨i, hi, h⟩ := exists_mem_of_forM_eq_error h
    exact Ingredient.violation_of_checkParamsDeclared hi h
  | requiredCoverage =>
    obtain ⟨i, hi, h⟩ := exists_mem_of_forM_eq_error h
    exact Ingredient.violation_of_checkCoverage hi h
  | unambiguousInitializers =>
    obtain ⟨i, hi, h⟩ := exists_mem_of_forM_eq_error h
    have hnames : uniqueFieldNames.Holds cb := hearlier _ (by decide)
    have htypes : typesResolve.Holds cb := hearlier _ (by decide)
    have hparams : initializerParamsDeclared.Holds cb := hearlier _ (by decide)
    exact Ingredient.violation_of_checkSignatures (nodup_required_of_holds hnames hi)
      (htypes i hi).1 (hparams i hi) hi h
  | initializerVarargLast =>
    obtain ⟨i, hi, h⟩ := exists_mem_of_forM_eq_error h
    have hnames : uniqueFieldNames.Holds cb := hearlier _ (by decide)
    have htypes : typesResolve.Holds cb := hearlier _ (by decide)
    have hparams : initializerParamsDeclared.Holds cb := hearlier _ (by decide)
    exact Ingredient.violation_of_checkInitializerVarargs (nodup_required_of_holds hnames hi)
      (htypes i hi).1 (hparams i hi) hi h
  | optionalShape =>
    obtain ⟨i, hi, h⟩ := exists_mem_of_forM_eq_error h
    exact Ingredient.violation_of_checkOptionalShapes hi h
  | compoundParams =>
    obtain ⟨i, hi, h⟩ := exists_mem_of_forM_eq_error h
    have htypes : typesResolve.Holds cb := hearlier _ (by decide)
    have hshape : optionalShape.Holds cb := hearlier _ (by decide)
    exact Ingredient.violation_of_checkCompoundParams (hshape i hi) (htypes i hi).2 hi h
  | compoundVarargLast =>
    obtain ⟨i, hi, h⟩ := exists_mem_of_forM_eq_error h
    have htypes : typesResolve.Holds cb := hearlier _ (by decide)
    have hshape : optionalShape.Holds cb := hearlier _ (by decide)
    exact Ingredient.violation_of_checkCompoundVarargs (hshape i hi) (htypes i hi).2 hi h
  | uniqueEnumNames =>
    obtain ⟨name, htwice, rfl⟩ := refuseDuplicate_eq_error h
    exact .enumName htwice
  | enumValues =>
    obtain ⟨d, hd, h⟩ := exists_mem_of_forM_eq_error h
    exact EnumDef.violation_of_checkValues hd h
  | enumNameSyntax =>
    obtain ⟨d, hd, h⟩ := exists_mem_of_forM_eq_error h
    exact EnumDef.violation_of_checkName hd h
  | flagPlacement =>
    obtain ⟨i, hi, h⟩ := exists_mem_of_forM_eq_error h
    have hnames : uniqueFieldNames.Holds cb := hearlier _ (by decide)
    have htypes : typesResolve.Holds cb := hearlier _ (by decide)
    have hshape : optionalShape.Holds cb := hearlier _ (by decide)
    exact Ingredient.violation_of_checkFlags (hshape i hi) (htypes i hi).2
      (nodup_required_of_holds hnames hi) (htypes i hi).1 hi h
  | defaultsConform =>
    obtain ⟨i, hi, h⟩ := exists_mem_of_forM_eq_error h
    have htypes : typesResolve.Holds cb := hearlier _ (by decide)
    exact Ingredient.violation_of_checkDefaults (htypes i hi).1 hi h
  | keyConstants =>
    obtain ⟨i, hi, h⟩ := exists_mem_of_forM_eq_error h
    exact Ingredient.violation_of_checkKeyConstants hi h

end Rule

/-- Rules that pass one after the other, from the first one on, pass because their conditions
hold. -/
theorem Rule.holds_of_check_before {cb : Cookbook} {before after : List Rule}
    (hall : Rule.all = before ++ after) (h : ∀ r ∈ before, r.check cb = .ok ()) :
    ∀ r ∈ before, r.Holds cb := by
  have hstep : ∀ earlier rule later, before = earlier ++ rule :: later →
      (∀ r ∈ earlier, r.Holds cb) → (rule.check cb = .ok () ↔ rule.Holds cb) := by
    intro earlier rule later hsplit hearlier
    rw [hsplit, List.append_assoc, List.cons_append] at hall
    refine Rule.check_eq_ok_iff ?_
    rwa [Rule.earlier_eq_of_all_eq hall]
  exact (forM_eq_ok_iff_of_earlier hstep).mp (forM_eq_ok_iff.mpr h)

/-- **Validation errors are true.** When validation refuses a cookbook, there is a first rule whose
condition fails: the conditions of all earlier rules hold. The error is of that rule, and what it
names is a violation of it. -/
theorem Cookbook.violation_of_validate_error (cb : Cookbook) (e : SchemaError)
    (h : cb.validate = .error e) :
    ∃ rule : Rule, (∀ r ∈ rule.earlier, r.Holds cb) ∧ ¬rule.Holds cb ∧
      rule.check cb = .error e ∧ rule.Violation cb e := by
  obtain ⟨before, rule, after, hall, hbefore, hrule⟩ := forM_eq_error_iff.mp h
  have hearlier : ∀ r ∈ rule.earlier, r.Holds cb := by
    rw [Rule.earlier_eq_of_all_eq hall]
    exact Rule.holds_of_check_before hall hbefore
  refine ⟨rule, hearlier, fun hholds ↦ ?_, hrule, Rule.violation_of_check hearlier hrule⟩
  rw [(Rule.check_eq_ok_iff hearlier).mpr hholds] at hrule
  cases hrule

/-- The second initializer lists a parameter that no field declares, and the error says so of the
second, not of the first. -/
theorem Cookbook.violation_of_validate_error_stir :
    let stir : Ingredient := {
      name := "Stir"
      required := [⟨"pot", "string", none⟩]
      initializers := [⟨["pot"]⟩, ⟨["pot", "spoon"]⟩] }
    let cb : Cookbook := { ingredients := [stir] }
    cb.validate = .error (.undeclaredInitializerParam "Stir" 1 "spoon") ∧
      ∃ rule : Rule, (∀ r ∈ rule.earlier, r.Holds cb) ∧ ¬rule.Holds cb ∧
        rule.check cb = .error (.undeclaredInitializerParam "Stir" 1 "spoon") ∧
        rule.Violation cb (.undeclaredInitializerParam "Stir" 1 "spoon") :=
  ⟨rfl, Cookbook.violation_of_validate_error _ _ rfl⟩

end Cookery
