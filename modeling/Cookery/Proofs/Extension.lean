import Cookery.Proofs.EnumReferences
import Cookery.Proofs.Generation

/-!
# More enums change nothing

A cookbook is read in the context of its enums, and everything that reads it looks enums up by name:
the reader of types, the check of literals, the walk that spells them. So it does not matter where
an enum is declared, nor what else is declared, as long as the same lookups have the same results.
`Cookbook.Extends` is that condition on two cookbooks.

It is one-sided, and so is what follows from it: what could be read, checked or mapped in the
smaller cookbook can be in the larger one, with the same result. What could not be read there may be
readable now, since a new enum gives a meaning to its name. A valid cookbook leaves no room for
that, because all its types can be read already; that is where the two directions of
`Binding.distinctInIngredient_iff_of_extends` come from.
-/

namespace Cookery

/-- Whatever enum is found in `cb` is also found in `cb'`. -/
def Cookbook.Extends (cb' cb : Cookbook) : Prop :=
  ∀ name d, cb.findEnum? name = some d → cb'.findEnum? name = some d

variable {cb cb' : Cookbook}

/-! ## Reading types -/

theorem BaseType.ofWord?_of_extends (h : cb'.Extends cb) {word : String} {depth : Nat}
    {base : BaseType} (hword : ofWord? cb word depth = some base) :
    ofWord? cb' word depth = some base := by
  rw [ofWord?_eq_some_iff] at hword ⊢
  rcases hword with hkeyword | hflag | ⟨hnot, hdeclared, hbase⟩
  · exact .inl hkeyword
  · exact .inr (.inl hflag)
  · refine .inr (.inr ⟨hnot, ?_, hbase⟩)
    rw [← Cookbook.findEnum?_isSome_iff, Option.isSome_iff_exists] at hdeclared ⊢
    obtain ⟨d, hd⟩ := hdeclared
    exact ⟨d, h word d hd⟩

/-- A type that can be read keeps its meaning. -/
theorem ParamType.parse?_of_extends (h : cb'.Extends cb) {s : String} {t : ParamType}
    (hs : parse? cb s = some t) : parse? cb' s = some t := by
  rw [parse?] at hs ⊢
  obtain ⟨base, hbase, ht⟩ := Option.map_eq_some_iff.mp hs
  exact Option.map_eq_some_iff.mpr ⟨base, BaseType.ofWord?_of_extends h hbase, ht⟩

/-- A type that could be read before has no other meaning now. -/
theorem ParamType.parse?_eq_of_extends (h : cb'.Extends cb) {s : String}
    (hs : ∃ t, parse? cb s = some t) : parse? cb' s = parse? cb s := by
  obtain ⟨t, ht⟩ := hs
  rw [ht, parse?_of_extends h ht]

theorem Cookbook.resolve_below (h : cb'.Extends cb) (subject type : String) :
    Below (cb.resolve subject type) (cb'.resolve subject type) := by
  intro t ht
  rw [Cookbook.resolve_eq_ok_iff] at ht ⊢
  exact ParamType.parse?_of_extends h ht

theorem Cookbook.groupTypes_below (h : cb'.Extends cb) (ingredient optional : String)
    (params : List Param) :
    Below (cb.groupTypes ingredient optional params)
      (cb'.groupTypes ingredient optional params) := by
  rw [Cookbook.groupTypes, Cookbook.groupTypes]
  refine Below.mapM ?_ params
  intro p
  exact resolve_below h _ p.type

/-! ## Literals -/

theorem BaseType.Conforms.of_extends (h : cb'.Extends cb) {base : BaseType} {v : Literal}
    (hv : base.Conforms cb v) : base.Conforms cb' v := by
  induction hv with
  | boolean b => exact .boolean b
  | flag b => exact .flag b
  | int lower upper => exact .int lower upper
  | float x => exact .float x
  | floatOfInt i => exact .floatOfInt i
  | string s => exact .string s
  | enumRef found listed => exact .enumRef (h _ _ found) listed
  | array _ ih => exact .array ih

theorem ParamType.Conforms.of_extends (h : cb'.Extends cb) {t : ParamType} {v : Literal}
    (hv : t.Conforms cb v) : t.Conforms cb' v := by
  cases hv with
  | single hv => exact .single (hv.of_extends h)
  | vararg each => exact .vararg fun v hv ↦ (each v hv).of_extends h

/-- Only enums are looked up, so only at enums does the walk see the cookbook. -/
theorem Spelling.spellBaseValue_below (b : Spelling) (h : cb'.Extends cb) (base : BaseType)
    (v : Literal) : Below (b.spellBaseValue cb base v) (b.spellBaseValue cb' base v) := by
  induction base generalizing v with
  | primitive p => cases p <;> cases v <;> exact .refl _
  | flag => cases v <;> exact .refl _
  | enumRef name =>
    intro text htext
    cases hfound : cb.findEnum? name with
    | some d =>
      rw [spellBaseValue_enumRef_eq_ok_iff hfound] at htext
      exact (spellBaseValue_enumRef_eq_ok_iff (h name d hfound)).mpr htext
    | none =>
      cases v with
      | string member =>
        rw [spellBaseValue, hfound] at htext
        cases htext
      | _ => cases htext
  | array item ih =>
    cases v with
    | list items => exact (Below.mapM ih items).bind fun _ ↦ .refl _
    | _ => exact .refl _

theorem Binding.IsStandard.mapValue_below {b : Binding} (hb : b.IsStandard) (h : cb'.Extends cb)
    (t : ParamType) (v : Literal) : Below (b.mapValue cb t v) (b.mapValue cb' t v) := by
  intro text htext
  rw [hb, Spelling.spellValue_eq_ok_iff] at htext ⊢
  exact b.toSpelling.spellBaseValue_below h t.erase.base v text htext

/-! ## Records -/

section Records

variable {b : Binding} (hb : b.IsStandard) (h : cb'.Extends cb)

include h

theorem optionalParts_below (b : Binding) (ingredient : String) (o : OptionalField) :
    Below (optionalParts b cb ingredient o) (optionalParts b cb' ingredient o) := by
  rw [optionalParts, optionalParts]
  cases o.shape? with
  | none => exact .refl _
  | some shape =>
    cases shape with
    | simple type => exact (Cookbook.resolve_below h _ type).bind fun _ ↦ .refl _
    | compound params => exact (Cookbook.groupTypes_below h _ _ params).bind fun _ ↦ .refl _

include hb

theorem ResolvedField.ofRequired_below (ingredient : String) (r : Required) :
    Below (ofRequired b cb ingredient r) (ofRequired b cb' ingredient r) := by
  refine (Cookbook.resolve_below h _ r.type).bind fun t ↦ ?_
  exact (Below.optionMapM (hb.mapValue_below h t) r.default).bind fun _ ↦ .refl _

theorem constantRecord_below (value : String) :
    Below (constantRecord b cb value) (constantRecord b cb' value) :=
  (hb.mapValue_below h .string (.string value)).bind fun _ ↦ .refl _

theorem memberRecord_below (enumName value : String) :
    Below (memberRecord b cb enumName value) (memberRecord b cb' enumName value) :=
  (hb.mapValue_below h (.enumRef enumName) (.string value)).bind fun _ ↦ .refl _

/-- The record of an ingredient does not change. -/
theorem ingredientRecord_below (i : Ingredient) :
    Below (ingredientRecord b cb i) (ingredientRecord b cb' i) := by
  refine (Below.mapM (ResolvedField.ofRequired_below hb h i.name) _).bind fun fields ↦ ?_
  refine (Below.refl _).bind fun initializers ↦ ?_
  refine (Below.mapM (optionalParts_below h b i.name) _).bind fun parts ↦ ?_
  -- The three lists of names that come next are made of what has been computed.
  refine (Below.refl _).bind fun _ ↦ (Below.refl _).bind fun _ ↦ (Below.refl _).bind fun _ ↦ ?_
  exact (Below.mapM (constantRecord_below hb h) _).bind fun _ ↦ .refl _

/-- The record of an enum does not change. -/
theorem enumRecord_below (d : EnumDef) : Below (enumRecord b cb d) (enumRecord b cb' d) :=
  (Below.mapM (memberRecord_below hb h d.name) _).bind fun _ ↦ .refl _

end Records

/-! ## Valid cookbooks

All types of a valid cookbook can be read, so from here on reading gives the same in both. -/

section Valid

variable {i : Ingredient} (h : cb'.Extends cb) (htypes : Rule.typesResolve.Holds cb)
  (hi : i ∈ cb.ingredients)

include h htypes hi

theorem parse?_required_eq {r : Required} (hr : r ∈ i.required) :
    ParamType.parse? cb' r.type = ParamType.parse? cb r.type :=
  ParamType.parse?_eq_of_extends h ((htypes i hi).1 r hr)

theorem parse?_optional_eq {o : OptionalField} (ho : o ∈ i.optionals) {type : String}
    (htype : o.type = some type) : ParamType.parse? cb' type = ParamType.parse? cb type :=
  ParamType.parse?_eq_of_extends h (((htypes i hi).2 o ho).1 type htype)

theorem parse?_member_eq {o : OptionalField} (ho : o ∈ i.optionals) {params : List Param}
    (hparams : o.params = some params) {p : Param} (hp : p ∈ params) :
    ParamType.parse? cb' p.type = ParamType.parse? cb p.type :=
  ParamType.parse?_eq_of_extends h (((htypes i hi).2 o ho).2 params hparams p hp)

theorem Ingredient.TakesType.of_extends {p : String} {t : ParamType} (ht : i.TakesType cb' p t) :
    i.TakesType cb p t := by
  obtain ⟨r, hr, hname, ht⟩ := ht
  rw [parse?_required_eq h htypes hi hr] at ht
  exact ⟨r, hr, hname, ht⟩

theorem Ingredient.HasSignature.of_extends {init : Initializer} {types : List ParamType}
    (hsignature : i.HasSignature cb' init types) : i.HasSignature cb init types :=
  hsignature.imp fun _ _ ht ↦ ht.of_extends h htypes hi

end Valid

/-- A valid cookbook stays valid when its context grows. Only the rules on enums have to be checked
again. -/
theorem Rule.holds_of_extends (hvalid : ∀ rule : Rule, rule.Holds cb) (h : cb'.Extends cb)
    (hperm : cb'.ingredients.Perm cb.ingredients) (hnames : uniqueEnumNames.Holds cb')
    (hvalues : enumValues.Holds cb') (hidentifier : enumNameSyntax.Holds cb') (rule : Rule) :
    rule.Holds cb' := by
  have hmem {i : Ingredient} (hi : i ∈ cb'.ingredients) : i ∈ cb.ingredients := hperm.mem_iff.mp hi
  have htypes : typesResolve.Holds cb := hvalid _
  cases rule with
  | uniqueIngredientNames => exact (hperm.map _).nodup_iff.mpr (hvalid uniqueIngredientNames)
  | uniqueFieldNames => exact fun i hi ↦ hvalid uniqueFieldNames i (hmem hi)
  | typesResolve =>
    intro i hi
    refine ⟨fun r hr ↦ ?_, fun o ho ↦ ⟨fun type htype ↦ ?_, fun params hparams p hp ↦ ?_⟩⟩
    · rw [parse?_required_eq h htypes (hmem hi) hr]
      exact (htypes i (hmem hi)).1 r hr
    · rw [parse?_optional_eq h htypes (hmem hi) ho htype]
      exact ((htypes i (hmem hi)).2 o ho).1 type htype
    · rw [parse?_member_eq h htypes (hmem hi) ho hparams hp]
      exact ((htypes i (hmem hi)).2 o ho).2 params hparams p hp
  | initializerParamsDeclared => exact fun i hi ↦ hvalid initializerParamsDeclared i (hmem hi)
  | requiredCoverage => exact fun i hi ↦ hvalid requiredCoverage i (hmem hi)
  | unambiguousInitializers =>
    intro i hi
    refine List.Pairwise.imp ?_ (hvalid unambiguousInitializers i (hmem hi))
    intro first second hne types hfirst types' hsecond
    exact hne types (hfirst.of_extends h htypes (hmem hi)) types'
      (hsecond.of_extends h htypes (hmem hi))
  | initializerVarargLast =>
    intro i hi init hinit p hp t ht
    exact hvalid initializerVarargLast i (hmem hi) init hinit p hp t
      (ht.of_extends h htypes (hmem hi))
  | optionalShape => exact fun i hi ↦ hvalid optionalShape i (hmem hi)
  | compoundParams =>
    intro i hi o ho params hparams
    obtain ⟨hne, hflag⟩ := hvalid compoundParams i (hmem hi) o ho params hparams
    refine ⟨hne, fun p hp t ht ↦ hflag p hp t ?_⟩
    rwa [← parse?_member_eq h htypes (hmem hi) ho hparams hp]
  | compoundVarargLast =>
    intro i hi o ho params hparams p hp t ht
    have hp' : p ∈ params := (List.dropLast_sublist params).subset hp
    refine hvalid compoundVarargLast i (hmem hi) o ho params hparams p hp t ?_
    rwa [← parse?_member_eq h htypes (hmem hi) ho hparams hp']
  | uniqueEnumNames => exact hnames
  | enumValues => exact hvalues
  | enumNameSyntax => exact hidentifier
  | flagPlacement =>
    intro i hi
    obtain ⟨hrequired, hoptional⟩ := hvalid flagPlacement i (hmem hi)
    refine ⟨fun r hr t ht ↦ hrequired r hr t ?_, fun o ho type htype t ht ↦ ?_⟩
    · rwa [← parse?_required_eq h htypes (hmem hi) hr]
    · refine hoptional o ho type htype t ?_
      rwa [← parse?_optional_eq h htypes (hmem hi) ho htype]
  | defaultsConform =>
    intro i hi r hr v hv t ht
    rw [parse?_required_eq h htypes (hmem hi) hr] at ht
    exact (hvalid defaultsConform i (hmem hi) r hr v hv t ht).of_extends h
  | keyConstants => exact fun i hi ↦ hvalid keyConstants i (hmem hi)

/-! ## Generated names -/

namespace Binding

variable (b : Binding)

theorem accessorAt?_eq_of_parse?_eq {type : String}
    (h : ParamType.parse? cb' type = ParamType.parse? cb type) (field : String) (compound : Bool) :
    b.accessorAt? cb' field type compound = b.accessorAt? cb field type compound := by
  rw [accessorAt?, accessorAt?, h]

section Valid

variable {i : Ingredient} (h : cb'.Extends cb) (htypes : Rule.typesResolve.Holds cb)
  (hi : i ∈ cb.ingredients)

include h htypes hi

theorem optionalAccessor?_eq_of_extends {o : OptionalField} (ho : o ∈ i.optionals) :
    b.optionalAccessor? cb' o = b.optionalAccessor? cb o := by
  rw [optionalAccessor?, optionalAccessor?]
  cases hshape : o.shape? with
  | none => rfl
  | some shape =>
    cases shape with
    | simple type =>
      obtain ⟨htype, -⟩ := OptionalField.shape?_eq_simple_iff.mp hshape
      exact b.accessorAt?_eq_of_parse?_eq (parse?_optional_eq h htypes hi ho htype) o.name false
    | compound params =>
      obtain ⟨-, hparams⟩ := OptionalField.shape?_eq_compound_iff.mp hshape
      cases params with
      | nil => rfl
      | cons p params =>
        have hp := parse?_member_eq h htypes hi ho hparams List.mem_cons_self
        exact b.accessorAt?_eq_of_parse?_eq hp o.name true

theorem accessorNames_eq_of_extends : b.accessorNames cb' i = b.accessorNames cb i := by
  have hrequired : (i.required.filterMap fun r ↦ b.accessorAt? cb' r.name r.type false)
      = i.required.filterMap fun r ↦ b.accessorAt? cb r.name r.type false :=
    List.filterMap_congr fun r hr ↦
      b.accessorAt?_eq_of_parse?_eq (parse?_required_eq h htypes hi hr) r.name false
  have hoptional : i.optionals.filterMap (b.optionalAccessor? cb')
      = i.optionals.filterMap (b.optionalAccessor? cb) :=
    List.filterMap_congr fun o ho ↦ b.optionalAccessor?_eq_of_extends h htypes hi ho
  rw [accessorNames, accessorNames, hrequired, hoptional]

theorem distinctInGroup_iff_of_extends {o : OptionalField} (ho : o ∈ i.optionals)
    {params : List Param} (hparams : o.params = some params) :
    b.DistinctInGroup cb' params ↔ b.DistinctInGroup cb params := by
  have haccessors : (params.filterMap fun p ↦ b.accessorAt? cb' p.name p.type true)
      = params.filterMap fun p ↦ b.accessorAt? cb p.name p.type true :=
    List.filterMap_congr fun p hp ↦
      b.accessorAt?_eq_of_parse?_eq (parse?_member_eq h htypes hi ho hparams hp) p.name true
  constructor
  · rintro ⟨members, accessors⟩
    exact ⟨members, haccessors ▸ accessors⟩
  · rintro ⟨members, accessors⟩
    exact ⟨members, haccessors.symm ▸ accessors⟩

/-- An ingredient of a valid cookbook gets the same names. -/
theorem distinctInIngredient_iff_of_extends :
    b.DistinctInIngredient cb' i ↔ b.DistinctInIngredient cb i := by
  have haccessors := b.accessorNames_eq_of_extends h htypes hi
  have hgroups {o : OptionalField} (ho : o ∈ i.optionals) {params : List Param}
      (hshape : o.shape? = some (.compound params)) :
      b.DistinctInGroup cb' params ↔ b.DistinctInGroup cb params :=
    b.distinctInGroup_iff_of_extends h htypes hi ho
      (OptionalField.shape?_eq_compound_iff.mp hshape).2
  constructor
  · rintro ⟨fields, accessors, compounds, keyConstants, groups⟩
    rw [haccessors] at accessors
    refine ⟨fields, accessors, compounds, keyConstants, fun o ho params hshape ↦ ?_⟩
    exact (hgroups ho hshape).mp (groups o ho params hshape)
  · rintro ⟨fields, accessors, compounds, keyConstants, groups⟩
    rw [← haccessors] at accessors
    refine ⟨fields, accessors, compounds, keyConstants, fun o ho params hshape ↦ ?_⟩
    exact (hgroups ho hshape).mpr (groups o ho params hshape)

end Valid

end Binding

/-! ## One more enum -/

section WithEnum

variable {d : EnumDef}

/-- Lookups find the first enum of a name, and the new enum comes last. -/
theorem Cookbook.extends_withEnum (cb : Cookbook) (d : EnumDef) : (cb.withEnum d).Extends cb := by
  intro name e he
  rw [findEnum?, withEnum, List.find?_append]
  rw [findEnum?] at he
  rw [he, Option.some_or]

theorem Rule.holds_withEnum (hvalid : ∀ rule : Rule, rule.Holds cb)
    (hfresh : ∀ e ∈ cb.enums, e.name ≠ d.name) (hname : IsIdentifier d.name)
    (hkeyword : d.name ∉ builtinKeywords) (hne : d.values ≠ []) (hvalues : d.values.Nodup) :
    ∀ rule : Rule, rule.Holds (cb.withEnum d) := by
  have hmem {P : EnumDef → Prop} (hold : ∀ e ∈ cb.enums, P e) (hnew : P d) :
      ∀ e ∈ (cb.withEnum d).enums, P e := by
    intro e he
    rcases List.mem_append.mp he with he | he
    · exact hold e he
    · rw [List.mem_singleton.mp he]
      exact hnew
  refine Rule.holds_of_extends hvalid (cb.extends_withEnum d) (List.Perm.refl _) ?_
    (hmem (hvalid enumValues) ⟨hne, hvalues⟩) (hmem (hvalid enumNameSyntax) ⟨hname, hkeyword⟩)
  have hnames : (cb.withEnum d).enums.map (·.name) = cb.enums.map (·.name) ++ [d.name] :=
    List.map_append
  rw [Rule.Holds, hnames, ← List.concat_eq_append, List.nodup_concat]
  refine ⟨fun hd ↦ ?_, hvalid uniqueEnumNames⟩
  obtain ⟨e, he, heq⟩ := List.mem_map.mp hd
  exact hfresh e he heq

theorem Binding.distinctNames_withEnum_iff (b : Binding) (htypes : Rule.typesResolve.Holds cb) :
    b.DistinctNames (cb.withEnum d) ↔
      b.DistinctNames cb ∧ (d.values.map b.mapEnumMember).Nodup := by
  have hsame (i : Ingredient) (hi : i ∈ cb.ingredients) :=
    b.distinctInIngredient_iff_of_extends (cb.extends_withEnum d) htypes hi
  constructor
  · rintro ⟨ingredients, enums⟩
    refine ⟨⟨fun i hi ↦ (hsame i hi).mp (ingredients i hi), fun e he ↦ ?_⟩, ?_⟩
    · exact enums e (List.mem_append_left [d] he)
    · exact enums d (List.mem_append_right cb.enums List.mem_cons_self)
  · rintro ⟨⟨ingredients, enums⟩, hd⟩
    refine ⟨fun i hi ↦ (hsame i hi).mpr (ingredients i hi), fun e he ↦ ?_⟩
    rcases List.mem_append.mp he with he | he
    · exact enums e he
    · rw [List.mem_singleton.mp he]
      exact hd

theorem manifestRecord_withEnum (b : Binding) (cb : Cookbook) (d : EnumDef) :
    manifestRecord b (cb.withEnum d)
      = { manifestRecord b cb with enums := (manifestRecord b cb).enums ++ [d.name] } := by
  rw [manifestRecord, manifestRecord, Cookbook.withEnum, List.map_append, List.map_singleton]

/-- The old records stay as they are, the new one comes after those of the other enums. -/
theorem generate_withEnum_eq_ok {b : Binding} (hb : b.IsStandard)
    {ingredients : List IngredientRecord} {enums : List EnumRecord} {e : EnumRecord}
    (hingredients : List.Forall₂ (fun i r ↦ ingredientRecord b cb i = .ok r) cb.ingredients
      ingredients)
    (henums : List.Forall₂ (fun d r ↦ enumRecord b cb d = .ok r) cb.enums enums)
    (he : enumRecord b (cb.withEnum d) d = .ok e) :
    generate b (cb.withEnum d) = .ok (ingredients.map .ingredient ++ (enums ++ [e]).map .enum ++
      [.manifest { manifestRecord b cb with
        enums := (manifestRecord b cb).enums ++ [d.name] }]) := by
  have h := cb.extends_withEnum d
  refine generate_eq_ok_iff.mpr ⟨ingredients, enums ++ [e], ?_, ?_, ?_⟩
  · exact hingredients.imp fun i r hir ↦ ingredientRecord_below hb h i r hir
  · refine List.rel_append ?_ (.cons he .nil)
    exact henums.imp fun d r hdr ↦ enumRecord_below hb h d r hdr
  · rw [manifestRecord_withEnum]

end WithEnum

/-- **Adding an enum is a conservative extension.** A valid cookbook takes one more enum, provided
that the enum keeps the rules for enums and has a name of its own. It stays valid, every type that
could be read is read as before, and records are made of it exactly when they were made before and
the members of the new enum get distinct identifiers. Then all records are as before, up to the new
one and its entry in the index. -/
theorem conservative_withEnum (cb : Cookbook) (hvalid : cb.validate = .ok ()) (d : EnumDef)
    (hfresh : ∀ e ∈ cb.enums, e.name ≠ d.name) (hname : IsIdentifier d.name)
    (hkeyword : d.name ∉ builtinKeywords) (hne : d.values ≠ []) (hvalues : d.values.Nodup) :
    (cb.withEnum d).validate = .ok () ∧
      (∀ s t, ParamType.parse? cb s = some t → ParamType.parse? (cb.withEnum d) s = some t) ∧
      ∀ b : Binding, b.IsStandard →
        ((∃ records, generate b (cb.withEnum d) = .ok records) ↔
          (∃ records, generate b cb = .ok records) ∧ (d.values.map b.mapEnumMember).Nodup) ∧
        ∀ records, generate b (cb.withEnum d) = .ok records →
          ∃ (ingredients : List IngredientRecord) (enums : List EnumRecord) (e : EnumRecord),
            enumRecord b (cb.withEnum d) d = .ok e ∧
            generate b cb = .ok (ingredients.map .ingredient ++ enums.map .enum ++
              [.manifest (manifestRecord b cb)]) ∧
            records = ingredients.map .ingredient ++ (enums ++ [e]).map .enum ++
              [.manifest { manifestRecord b cb with
                enums := (manifestRecord b cb).enums ++ [d.name] }] := by
  have hrules := Rule.holds_of_validate hvalid
  have hrules' := Rule.holds_withEnum hrules hfresh hname hkeyword hne hvalues
  have hvalid' : (cb.withEnum d).validate = .ok () :=
    Cookbook.validate_eq_ok_iff.mpr fun rule _ ↦ hrules' rule
  refine ⟨hvalid', fun s t ↦ ParamType.parse?_of_extends (cb.extends_withEnum d), fun b hb ↦ ?_⟩
  have hiff : (∃ records, generate b (cb.withEnum d) = .ok records) ↔
      (∃ records, generate b cb = .ok records) ∧ (d.values.map b.mapEnumMember).Nodup := by
    rw [(generate_succeedsIff hb hrules).exists_ok_iff,
      (generate_succeedsIff hb hrules').exists_ok_iff,
      b.distinctNames_withEnum_iff (hrules .typesResolve)]
  refine ⟨hiff, fun records h ↦ ?_⟩
  obtain ⟨⟨old, hold⟩, -⟩ := hiff.mp ⟨records, h⟩
  obtain ⟨ingredients, enums, hingredients, henums, rfl⟩ := generate_eq_ok_iff.mp hold
  have hd : d ∈ (cb.withEnum d).enums := List.mem_append_right cb.enums List.mem_cons_self
  obtain ⟨e, -, he⟩ := (mem_generate_enum h).1 d hd
  have hnew := generate_withEnum_eq_ok hb hingredients henums he
  exact ⟨ingredients, enums, e, he, hold, Except.ok.inj (h.symm.trans hnew)⟩

/-- An enum that comes second leaves the first one and the ingredient that uses it alone. -/
theorem conservative_withEnum_pizza :
    let d : EnumDef := ⟨"Crust", ["thin", "extra-thick"]⟩
    pizzaCookbook.validate = .ok () ∧ (pizzaCookbook.withEnum d).validate = .ok () ∧
      ∃ (ingredients : List IngredientRecord) (enums : List EnumRecord) (e : EnumRecord),
        enumRecord .kotlin (pizzaCookbook.withEnum d) d = .ok e ∧
        generate .kotlin pizzaCookbook = .ok (ingredients.map .ingredient ++ enums.map .enum ++
          [.manifest (manifestRecord .kotlin pizzaCookbook)]) ∧
        generate .kotlin (pizzaCookbook.withEnum d) = .ok (ingredients.map .ingredient ++
          (enums ++ [e]).map .enum ++ [.manifest { manifestRecord .kotlin pizzaCookbook with
            enums := ["Size", "Crust"] }]) := by
  intro d
  have hfresh : ∀ e ∈ pizzaCookbook.enums, e.name ≠ d.name := by
    intro e he
    rw [List.mem_singleton.mp he]
    decide
  obtain ⟨hvalid, -, hgenerate⟩ := conservative_withEnum pizzaCookbook rfl d hfresh
    (isIdentifier_iff.mp (by decide)) (by decide) (List.cons_ne_nil _ _) (by decide)
  obtain ⟨hiff, hrecords⟩ := hgenerate .kotlin rfl
  obtain ⟨records, h⟩ := hiff.mpr ⟨⟨_, rfl⟩, firstDuplicate?_eq_none_iff.mp rfl⟩
  obtain ⟨ingredients, enums, e, he, hold, rfl⟩ := hrecords records h
  exact ⟨rfl, hvalid, ingredients, enums, e, he, hold, h⟩

end Cookery
