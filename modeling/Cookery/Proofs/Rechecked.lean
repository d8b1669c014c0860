import Cookery.Proofs.Generation

/-!
# What generation checks again

`generate` is meant for valid cookbooks, and it runs none of the rules. Still it depends on some of
them, and on a cookbook that was never validated it cannot succeed against them: whatever it needs
it looks for, and what it does not find it reports. So a cookbook for which records exist satisfies
six of the rules, and more that no rule asks by itself, whatever else may be wrong with it.

The rules come back in different ways. Types and parameters were looked up, so they can be found.
Defaults were spelled, so they conform. Names are the surprising case: generation compares
identifiers and never names, but identifiers are made of the names one by one, and distinct
identifiers can only come from distinct names.
-/

namespace Cookery

/-- The rules that generation depends on, and checks in its own way. -/
def recheckedRules : List Rule :=
  [.uniqueFieldNames, .typesResolve, .initializerParamsDeclared, .requiredCoverage, .optionalShape,
    .defaultsConform]

variable {b : Binding} {cb : Cookbook}

/-! ## Ingredients -/

namespace IngredientRecord.BuiltFrom

variable {i : Ingredient} {fields : List ResolvedField} {parts : List OptionalParts}
  {r : IngredientRecord}

theorem forall₂_resolves (h : r.BuiltFrom b cb i fields parts) :
    List.Forall₂ (ResolvedField.Resolves cb) i.required fields :=
  h.fields_of.imp fun _ _ ↦ ResolvedField.resolves_of_ofRequired

theorem forall₂_describes (h : r.BuiltFrom b cb i fields parts) :
    List.Forall₂ (OptionalParts.Describes b cb) i.optionals parts :=
  h.parts_of.imp fun _ _ ↦ describes_of_optionalParts

theorem nodup_fieldNames (h : r.BuiltFrom b cb i fields parts) : i.fieldNames.Nodup := by
  -- Names are never compared, but their identifiers are, and these are a function of the names.
  have hidents := h.fields_nodup
  rw [h.required_eq, h.optionals_eq, map_ident_fields h.forall₂_resolves h.forall₂_describes]
    at hidents
  exact hidents.of_map b.mapIdentifier

theorem exists_type_required (h : r.BuiltFrom b cb i fields parts) :
    ∀ q ∈ i.required, ∃ t, ParamType.parse? cb q.type = some t := by
  intro q hq
  obtain ⟨f, -, hqf⟩ := (exists_mem_of_forall₂ h.forall₂_resolves).1 q hq
  exact ⟨f.type, hqf.type_eq⟩

/-- Optional fields have a shape, readable types, and no empty group. -/
theorem optional_wellFormed (h : r.BuiltFrom b cb i fields parts) {o : OptionalField}
    (ho : o ∈ i.optionals) :
    ((∃ type, o.type = some type ∧ o.params = none) ∨
        ∃ params, o.type = none ∧ o.params = some params) ∧
      (∀ type, o.type = some type → ∃ t, ParamType.parse? cb type = some t) ∧
      (∀ params, o.params = some params →
        ∀ p ∈ params, ∃ t, ParamType.parse? cb p.type = some t) ∧
      o.params ≠ some [] := by
  obtain ⟨p, -, hp⟩ := (exists_mem_of_forall₂ h.parts_of).1 o ho
  rcases optionalParts_cases hp with ⟨type, t, hshape, ht, -⟩ |
    ⟨params, first, rest, -, hshape, htypes, -⟩
  · obtain ⟨htype, hparams⟩ := OptionalField.shape?_eq_simple_iff.mp hshape
    rw [htype, hparams]
    refine ⟨.inl ⟨type, rfl, rfl⟩, fun type' htype' ↦ ?_, fun params h ↦ (nomatch h), ?_⟩
    · rw [← Option.some.inj htype']
      exact ⟨t, ht⟩
    · exact Option.some_ne_none _ |>.symm
  · obtain ⟨htype, hparams⟩ := OptionalField.shape?_eq_compound_iff.mp hshape
    rw [htype, hparams]
    refine ⟨.inr ⟨params, rfl, rfl⟩, fun type h ↦ (nomatch h), fun params' hparams' p hp ↦ ?_, ?_⟩
    · rw [← Option.some.inj hparams'] at hp
      obtain ⟨t, -, ht⟩ := (exists_mem_of_forall₂ htypes).1 p hp
      exact ⟨t, ht⟩
    · rintro h
      rw [Option.some.inj h] at htypes
      exact nomatch htypes

/-- A field that is found by a name has the type that a parameter of that name takes. -/
theorem takesType_of_find? (h : r.BuiltFrom b cb i fields parts) {p : String} {f : ResolvedField}
    (hf : fields.find? (·.name == p) = some f) : i.TakesType cb p f.type := by
  have hname := List.find?_some hf
  obtain ⟨q, hq, hqf⟩ :=
    (exists_mem_of_forall₂ h.forall₂_resolves).2 f (List.mem_of_find?_eq_some hf)
  exact ⟨q, hq, hqf.name_eq.symm.trans (beq_iff_eq.mp hname), hqf.type_eq⟩

theorem exists_required_param (h : r.BuiltFrom b cb i fields parts) :
    ∀ init ∈ i.initializers, ∀ p ∈ init.params, ∃ q ∈ i.required, q.name = p := by
  intro init hinit p hp
  obtain ⟨record, -, hrecord⟩ :=
    (exists_mem_of_forall₂ (describes_of_initializerRecords h.initializers_of)).1 init hinit
  obtain ⟨taken, -, htaken, -⟩ := hrecord.exists_taken
  obtain ⟨f, -, hf⟩ := (exists_mem_of_forall₂ htaken).1 p hp
  obtain ⟨q, hq, hname, -⟩ := h.takesType_of_find? hf
  exact ⟨q, hq, hname⟩

/-- A field that an initializer leaves out is assigned from its default, so it has one. -/
theorem mem_params_of_default_eq_none (h : r.BuiltFrom b cb i fields parts) :
    ∀ q ∈ i.required, q.default = none → ∀ init ∈ i.initializers, q.name ∈ init.params := by
  intro q hq hnone init hinit
  by_contra hleft
  obtain ⟨record, -, hrecord⟩ :=
    (exists_mem_of_forall₂ (describes_of_initializerRecords h.initializers_of)).1 init hinit
  obtain ⟨f, hf, hqf⟩ := (exists_mem_of_forall₂ h.fields_of).1 q hq
  obtain ⟨hname, -, hdefault⟩ := ResolvedField.ofRequired_eq_ok_iff.mp hqf
  have hassigned : f ∈ fields.filter fun f ↦ !init.params.contains f.name := by
    refine List.mem_filter.mpr ⟨hf, ?_⟩
    rw [hname, Bool.not_eq_true', ← Bool.not_eq_true, List.contains_iff_mem]
    exact hleft
  obtain ⟨a, -, hvalue, -⟩ := (exists_mem_of_forall₂ hrecord.defaults).1 f hassigned
  rw [hnone, hvalue] at hdefault
  exact nomatch hdefault

theorem conforms_default (hb : b.IsStandard) (h : r.BuiltFrom b cb i fields parts) :
    ∀ q ∈ i.required, ∀ v, q.default = some v →
      ∀ t, ParamType.parse? cb q.type = some t → t.Conforms cb v := by
  intro q hq v hv t ht
  obtain ⟨f, -, hqf⟩ := (exists_mem_of_forall₂ h.fields_of).1 q hq
  obtain ⟨-, htype, hdefault⟩ := ResolvedField.ofRequired_eq_ok_iff.mp hqf
  obtain rfl : t = f.type := Option.some.inj (ht.symm.trans htype)
  cases hf : f.default with
  | none =>
    rw [hv, hf] at hdefault
    exact nomatch hdefault
  | some text =>
    rw [hv, hf, Option.rel_some_some] at hdefault
    exact hb.conforms_of_mapValue hdefault

theorem nodup_keyConstants (h : r.BuiltFrom b cb i fields parts) : i.keyConstants.Nodup := by
  have hidents := h.constants_nodup
  rw [map_eq_map_of_forall₂ h.constants_of fun v k hk ↦ (constantRecord_eq_ok_iff.mp hk).2.2]
    at hidents
  exact hidents.of_map _

end IngredientRecord.BuiltFrom

/-! ## Enums -/

theorem nodup_values_of_enumRecord {d : EnumDef} {r : EnumRecord}
    (h : enumRecord b cb d = .ok r) : d.values.Nodup := by
  obtain ⟨hmembers, hidents, -⟩ := enumRecord_eq_ok_iff.mp h
  rw [map_eq_map_of_forall₂ hmembers fun v m hm ↦ (memberRecord_eq_ok_iff.mp hm).2.2] at hidents
  exact hidents.of_map _

/-! ## Cookbooks -/

/-- **Generation rechecks what it relies on.** If a standard binding makes records of a cookbook,
valid or not, then six rules pass it, each run on its own; the values of every enum and the key
constants of every ingredient are distinct; and no group is empty. -/
theorem rechecked_of_generate (b : Binding) (hb : b.IsStandard) (cb : Cookbook)
    (records : List ArtifactRecord) (h : generate b cb = .ok records) :
    (∀ rule ∈ recheckedRules, rule.check cb = .ok ()) ∧ (∀ d ∈ cb.enums, d.values.Nodup) ∧
      ∀ i ∈ cb.ingredients, i.keyConstants.Nodup ∧ ∀ o ∈ i.optionals, o.params ≠ some [] := by
  have hbuilt (i : Ingredient) (hi : i ∈ cb.ingredients) :
      ∃ r fields parts, IngredientRecord.BuiltFrom b cb i fields parts r := by
    obtain ⟨r, -, hr⟩ := (mem_generate_ingredient h).1 i hi
    exact ⟨r, exists_builtFrom_of_ingredientRecord hr⟩
  refine ⟨fun rule hrule ↦ ?_, fun d hd ↦ ?_, fun i hi ↦ ?_⟩
  · simp only [recheckedRules, List.mem_cons, List.not_mem_nil, or_false] at hrule
    rcases hrule with rfl | rfl | rfl | rfl | rfl | rfl
    -- Each of the rules goes through the ingredients and asks something of each alone.
    all_goals
      refine forM_eq_ok_iff.mpr fun i hi ↦ ?_
      obtain ⟨r, fields, parts, hr⟩ := hbuilt i hi
    · exact refuseDuplicate_eq_ok_iff.mpr hr.nodup_fieldNames
    · refine Ingredient.checkTypesResolve_eq_ok_iff.mpr ⟨hr.exists_type_required, fun o ho ↦ ?_⟩
      obtain ⟨-, htype, hparams, -⟩ := hr.optional_wellFormed ho
      exact ⟨htype, hparams⟩
    · exact Ingredient.checkParamsDeclared_eq_ok_iff.mpr hr.exists_required_param
    · exact Ingredient.checkCoverage_eq_ok_iff.mpr hr.mem_params_of_default_eq_none
    · refine Ingredient.checkOptionalShapes_eq_ok_iff.mpr fun o ho ↦ ?_
      exact (hr.optional_wellFormed ho).1
    · exact (Ingredient.checkDefaults_eq_ok_iff hr.exists_type_required).mpr
        (hr.conforms_default hb)
  · obtain ⟨r, -, hr⟩ := (mem_generate_enum h).1 d hd
    exact nodup_values_of_enumRecord hr
  · obtain ⟨r, fields, parts, hr⟩ := hbuilt i hi
    exact ⟨hr.nodup_keyConstants, fun o ho ↦ (hr.optional_wellFormed ho).2.2.2⟩

/-- Two ingredients of one name, two overloads that cannot be told apart, a vararg before the last
parameter: no valid cookbook, but one that records are made of. -/
theorem rechecked_of_generate_invalid :
    let soup : Ingredient := {
      name := "Soup"
      required := [⟨"herbs", "string...", none⟩, ⟨"salt", "int", some (.int 3)⟩]
      initializers := [⟨["herbs", "salt"]⟩, ⟨["herbs", "salt"]⟩]
      optionals := [.compound "serve" [⟨"bowls", "int"⟩] false] }
    let cb : Cookbook := { ingredients := [soup, soup] }
    cb.validate ≠ .ok () ∧ (∃ records, generate .java cb = .ok records) ∧
      ∀ rule ∈ recheckedRules, rule.check cb = .ok () :=
  ⟨fun h ↦ (nomatch h), ⟨_, rfl⟩, (rechecked_of_generate .java rfl _ _ rfl).1⟩

end Cookery
