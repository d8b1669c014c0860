import Cookery.Proofs.Assembly

/-!
# What a valid cookbook can still fail on

`generate` reports whatever it needs and does not find: a type that cannot be read, a default that
does not fit, a parameter without field. In a valid cookbook nothing of the kind happens, since each
of these failures is excluded by some rule. What no rule can exclude is that a binding gives one
identifier to two names. So a valid cookbook goes through a standard binding exactly when the lists
of generated names are free of duplicates, and the only errors are duplicate names.

## The names

The lists are formed here from the cookbook and the spelling functions of the binding alone.
Accessors depend on the type of their field, and a field whose type cannot be read has none; valid
cookbooks have no such fields.
-/

namespace Cookery

/-! ## The generated names -/

namespace Binding

/-- The accessor of a field by the written type; the flag says whether it is in or for a group. -/
def accessorAt? (b : Binding) (cb : Cookbook) (field type : String) (compound : Bool) :
    Option String :=
  (ParamType.parse? cb type).map (b.mapAccessorName field · compound)

/-- The accessor of an optional field. For a group the type is that of its first member. -/
def optionalAccessor? (b : Binding) (cb : Cookbook) (o : OptionalField) : Option String :=
  match o.shape? with
  | some (.simple type) => b.accessorAt? cb o.name type false
  | some (.compound (p :: _)) => b.accessorAt? cb o.name p.type true
  | _ => none

/-- The accessors of all fields of an ingredient. -/
def accessorNames (b : Binding) (cb : Cookbook) (i : Ingredient) : List String :=
  i.required.filterMap (fun r ↦ b.accessorAt? cb r.name r.type false) ++
    i.optionals.filterMap (b.optionalAccessor? cb)

/-- The types of the groups among optional fields. -/
def compoundIdents (b : Binding) (optionals : List OptionalField) : List String :=
  (optionals.filter (·.isCompound)).map fun o ↦ b.mapIdentifier (capitalize o.name)

/-- No two members of a group get the same name. -/
structure DistinctInGroup (b : Binding) (cb : Cookbook) (params : List Param) : Prop where
  members : (params.map fun p ↦ b.mapIdentifier p.name).Nodup
  accessors : (params.filterMap fun p ↦ b.accessorAt? cb p.name p.type true).Nodup

/-- No two things in an ingredient get the same name. -/
structure DistinctInIngredient (b : Binding) (cb : Cookbook) (i : Ingredient) : Prop where
  fields : (i.fieldNames.map b.mapIdentifier).Nodup
  accessors : (b.accessorNames cb i).Nodup
  compounds : (b.mapIdentifier i.name :: b.compoundIdents i.optionals).Nodup
  keyConstants : (i.keyConstants.map fun v ↦ b.mapIdentifier (upperSnakeCase (sanitize v))).Nodup
  groups : ∀ o ∈ i.optionals, ∀ params, o.shape? = some (.compound params) →
    b.DistinctInGroup cb params

/-- No two generated names in one place are the same. -/
structure DistinctNames (b : Binding) (cb : Cookbook) : Prop where
  ingredients : ∀ i ∈ cb.ingredients, b.DistinctInIngredient cb i
  enums : ∀ d ∈ cb.enums, (d.values.map b.mapEnumMember).Nodup

end Binding

/-- The places in which generated names can clash. -/
def generatedScopes : List NameScope :=
  [.field, .accessor, .compound, .keyConstant, .enumMember]

/-- The error is a clash of generated names. -/
def SchemaError.IsClash (e : SchemaError) : Prop :=
  ∃ scope ∈ generatedScopes, ∃ name owner, e = .duplicateName scope name owner

theorem ensureDistinct_succeedsIff_isClash (scope : NameScope) (h : scope ∈ generatedScopes)
    (owner : Option String) (names : List String) :
    SucceedsIff (ensureDistinct scope owner names) names.Nodup SchemaError.IsClash := by
  refine (ensureDistinct_succeedsIff scope owner names).weaken ?_
  rintro e ⟨name, rfl⟩
  exact ⟨scope, h, name, owner, rfl⟩

/-! ## Required fields -/

namespace ResolvedField

variable {b : Binding} {cb : Cookbook} {ingredient : String} {r : Required} {f : ResolvedField}

/-- What mapping a required field keeps of it. -/
structure Resolves (cb : Cookbook) (r : Required) (f : ResolvedField) : Prop where
  name_eq : f.name = r.name
  type_eq : ParamType.parse? cb r.type = some f.type
  default_ne_none : r.default ≠ none → f.default ≠ none

theorem resolves_of_ofRequired (h : ofRequired b cb ingredient r = .ok f) : Resolves cb r f := by
  obtain ⟨hname, htype, hdefault⟩ := ofRequired_eq_ok_iff.mp h
  refine ⟨hname, htype, fun hr hnone ↦ ?_⟩
  obtain ⟨v, hv⟩ := Option.ne_none_iff_exists'.mp hr
  rw [hv, hnone] at hdefault
  exact nomatch hdefault

/-- A default that conforms to a readable type can be spelled. -/
theorem exists_ofRequired (hb : b.IsStandard) {t : ParamType}
    (ht : ParamType.parse? cb r.type = some t)
    (hdefault : ∀ v, r.default = some v → t.Conforms cb v) :
    ∃ f, ofRequired b cb ingredient r = .ok f := by
  have hspelled : ∃ d, Option.Rel (fun v text ↦ b.mapValue cb t v = .ok text) r.default d := by
    cases hr : r.default with
    | none => exact ⟨none, .none⟩
    | some v =>
      obtain ⟨text, htext⟩ := hb.exists_mapValue (hdefault v hr)
      exact ⟨some text, .some htext⟩
  obtain ⟨d, hd⟩ := hspelled
  exact ⟨⟨r.name, t, d⟩, ofRequired_eq_ok_iff.mpr ⟨rfl, ht, hd⟩⟩

end ResolvedField

/-! ## Initializers

All that is asked of an initializer is that its parameters name fields, and that the fields it does
not take have defaults. -/

section Initializers

variable {ingredient : String} {fields : List ResolvedField}

theorem exists_initializerFields {init : Initializer} (index : Nat)
    (hparams : ∀ p ∈ init.params, ∃ f ∈ fields, f.name = p) :
    ∃ taken, initializerFields ingredient fields init index = .ok taken := by
  refine exists_mapM fun p hp ↦ ?_
  obtain ⟨f, hf, hname⟩ := hparams p hp
  cases hfind : fields.find? (·.name == p) with
  | some g => exact ⟨g, rfl⟩
  | none => exact absurd (beq_iff_eq.mpr hname) (List.find?_eq_none.mp hfind f hf)

theorem exists_defaultAssignments (b : Binding) {init : Initializer} (index : Nat)
    (hcover : ∀ f ∈ fields, f.name ∉ init.params → f.default ≠ none) :
    ∃ assignments, defaultAssignments b ingredient fields init index = .ok assignments := by
  refine exists_mapM fun f hf ↦ ?_
  obtain ⟨hf, htaken⟩ := List.mem_filter.mp hf
  have hnot : f.name ∉ init.params := by
    rw [Bool.not_eq_true', ← Bool.not_eq_true, List.contains_iff_mem] at htaken
    exact htaken
  obtain ⟨value, hvalue⟩ := Option.ne_none_iff_exists'.mp (hcover f hf hnot)
  rw [hvalue]
  exact ⟨_, rfl⟩

theorem exists_initializerRecords (b : Binding) {initializers : List Initializer}
    (hparams : ∀ init ∈ initializers, ∀ p ∈ init.params, ∃ f ∈ fields, f.name = p)
    (hcover : ∀ init ∈ initializers, ∀ f ∈ fields, f.name ∉ init.params → f.default ≠ none) :
    ∃ records, initializerRecords b ingredient fields initializers = .ok records := by
  have htaken : ∃ taken, (initializers.zipIdx.mapM fun x ↦
      initializerFields ingredient fields x.1 x.2) = .ok taken :=
    exists_mapM fun x hx ↦
      exists_initializerFields x.2 (hparams x.1 (List.fst_mem_of_mem_zipIdx hx))
  obtain ⟨taken, htaken⟩ := htaken
  have hrecords : ∃ records, ((initializers.zip taken).zipIdx.mapM fun x ↦
      initializerRecord b ingredient fields (taken.map erasedSignature) x.1.1 x.2 x.1.2)
        = .ok records := by
    refine exists_mapM fun x hx ↦ ?_
    have hinit : x.1.1 ∈ initializers := (List.of_mem_zip (List.fst_mem_of_mem_zipIdx hx)).1
    obtain ⟨assignments, h⟩ := exists_defaultAssignments b x.2 (hcover x.1.1 hinit)
    exact ⟨_, bind_eq_ok_iff.mpr ⟨assignments, h, rfl⟩⟩
  obtain ⟨records, hrecords⟩ := hrecords
  exact ⟨records, bind_eq_ok_iff.mpr ⟨taken, htaken, hrecords⟩⟩

end Initializers

/-! ## Optional fields -/

section Optionals

variable {b : Binding} {cb : Cookbook} {ingredient : String} {o : OptionalField}

theorem Binding.accessorAt?_eq_some (b : Binding) (field : String) {type : String} {t : ParamType}
    (h : ParamType.parse? cb type = some t) (compound : Bool) :
    b.accessorAt? cb field type compound = some (b.mapAccessorName field t compound) := by
  rw [accessorAt?, h, Option.map_some]

theorem map_ident_compoundRecord (b : Binding) (optional : String) {params : List Param}
    {types : List ParamType}
    (h : List.Forall₂ (fun p t ↦ ParamType.parse? cb p.type = some t) params types) :
    (compoundRecord b optional (params.zip types)).fields.map (·.ident)
      = params.map fun p ↦ b.mapIdentifier p.name := by
  induction h with
  | nil => rfl
  | cons _ _ ih => exact congrArg (List.cons _) ih

theorem map_name_compoundRecord (b : Binding) (optional : String) {params : List Param}
    {types : List ParamType}
    (h : List.Forall₂ (fun p t ↦ ParamType.parse? cb p.type = some t) params types) :
    (compoundRecord b optional (params.zip types)).accessors.map (·.name)
      = params.filterMap fun p ↦ b.accessorAt? cb p.name p.type true := by
  induction h with
  | nil => rfl
  | @cons p t params types hpt _ ih =>
    have hname := b.accessorAt?_eq_some p.name hpt true
    rw [List.filterMap_cons, hname, ← ih]
    rfl

/-- An optional field of a valid cookbook can only fail by a clash within its group. -/
theorem optionalParts_succeedsIff (b : Binding) (ingredient : String)
    (hshape : (∃ type, o.type = some type ∧ o.params = none) ∨
      ∃ params, o.type = none ∧ o.params = some params)
    (htype : ∀ type, o.type = some type → ∃ t, ParamType.parse? cb type = some t)
    (hparams : ∀ params, o.params = some params →
      params ≠ [] ∧ ∀ p ∈ params, ∃ t, ParamType.parse? cb p.type = some t) :
    SucceedsIff (optionalParts b cb ingredient o)
      (∀ params, o.shape? = some (.compound params) → b.DistinctInGroup cb params)
      SchemaError.IsClash := by
  rcases hshape with ⟨type, ho, hnone⟩ | ⟨params, hnone, ho⟩
  · have hsimple := OptionalField.shape?_eq_simple ho hnone
    obtain ⟨t, ht⟩ := htype type ho
    rw [optionalParts, hsimple]
    dsimp only
    rw [Cookbook.resolve_eq_ok_iff.mpr ht]
    refine (SucceedsIff.ok (simpleParts b o t)).congr ⟨fun _ params h ↦ ?_, fun _ ↦ trivial⟩
    cases h
  · have hcompound := OptionalField.shape?_eq_compound hnone ho
    obtain ⟨hne, htypes⟩ := hparams params ho
    obtain ⟨types, hall⟩ := exists_forall₂ htypes
    rw [optionalParts, hcompound]
    dsimp only
    rw [Cookbook.groupTypes_eq_ok_iff.mpr hall]
    cases types with
    | nil => exact absurd (List.forall₂_nil_right_iff.mp hall) hne
    | cons first rest =>
      refine ((ensureDistinct_succeedsIff_isClash .field (by decide) _ _).bind fun _ _ ↦
        (ensureDistinct_succeedsIff_isClash .accessor (by decide) _ _).bind fun _ _ ↦
          SucceedsIff.ok _).congr ?_
      rw [map_ident_compoundRecord b o.name hall, map_name_compoundRecord b o.name hall, and_true]
      constructor
      · rintro ⟨hmembers, haccessors⟩ params h
        obtain rfl := Shape.compound.inj (Option.some.inj h)
        exact ⟨hmembers, haccessors⟩
      · intro h
        exact ⟨(h _ rfl).members, (h _ rfl).accessors⟩

/-- What mapping an optional field keeps of it. -/
structure OptionalParts.Describes (b : Binding) (cb : Cookbook) (o : OptionalField)
    (parts : OptionalParts) : Prop where
  ident_eq : parts.setter.ident = b.mapIdentifier o.name
  accessor_eq : b.optionalAccessor? cb o = some parts.accessor.name
  compound_eq : parts.compound.map (·.ident)
    = if o.isCompound then some (b.mapIdentifier (capitalize o.name)) else none

theorem describes_of_optionalParts {parts : OptionalParts}
    (h : optionalParts b cb ingredient o = .ok parts) : parts.Describes b cb o := by
  rcases optionalParts_cases h with ⟨type, t, hshape, ht, rfl⟩ |
    ⟨params, first, rest, c, hshape, htypes, rfl, -, -, rfl⟩
  · refine ⟨rfl, ?_, ?_⟩
    · rw [Binding.optionalAccessor?, hshape]
      exact b.accessorAt?_eq_some o.name ht false
    · rw [OptionalField.isCompound, hshape]
      rfl
  · refine ⟨rfl, ?_, ?_⟩
    · rw [Binding.optionalAccessor?, hshape]
      cases htypes with
      | cons hfirst _ => exact b.accessorAt?_eq_some o.name hfirst true
    · rw [OptionalField.isCompound, hshape]
      rfl

end Optionals

/-! ## Constants and members

Both are names with a literal. The literal exists, and the identifiers are formed from the names
alone. -/

section Members

variable {b : Binding}

theorem exists_constants (hb : b.IsStandard) (cb : Cookbook) (values : List String) :
    ∃ records, values.mapM (constantRecord b cb) = .ok records ∧ records.map (·.ident)
      = values.map fun v ↦ b.mapIdentifier (upperSnakeCase (sanitize v)) := by
  have hrecord (value : String) : ∃ record, constantRecord b cb value = .ok record := by
    have hvalue : ParamType.string.Conforms cb (.string value) := .single (.string value)
    obtain ⟨literal, h⟩ := hb.exists_mapValue hvalue
    exact ⟨_, bind_eq_ok_iff.mpr ⟨literal, h, rfl⟩⟩
  obtain ⟨records, h⟩ := exists_mapM fun value (_ : value ∈ values) ↦ hrecord value
  refine ⟨records, h, map_eq_map_of_forall₂ (mapM_eq_ok_iff.mp h) fun value record h ↦ ?_⟩
  exact (constantRecord_eq_ok_iff.mp h).2.2

/-- Enum names are distinct, so a declared enum is the one that its name refers to, and all its
values are literals of its type. -/
theorem exists_members (hb : b.IsStandard) {cb : Cookbook} (hnames : Rule.uniqueEnumNames.Holds cb)
    {d : EnumDef} (hd : d ∈ cb.enums) :
    ∃ records, d.values.mapM (memberRecord b cb d.name) = .ok records ∧
      records.map (·.ident) = d.values.map b.mapEnumMember := by
  have hfound : cb.findEnum? d.name = some d := (find?_name_eq_some_iff hnames).mpr ⟨hd, rfl⟩
  have hrecord (value : String) (hvalue : value ∈ d.values) :
      ∃ record, memberRecord b cb d.name value = .ok record := by
    obtain ⟨literal, h⟩ := hb.exists_mapValue (.single (.enumRef hfound hvalue))
    exact ⟨_, bind_eq_ok_iff.mpr ⟨literal, h, rfl⟩⟩
  obtain ⟨records, h⟩ := exists_mapM hrecord
  refine ⟨records, h, map_eq_map_of_forall₂ (mapM_eq_ok_iff.mp h) fun value record h ↦ ?_⟩
  exact (memberRecord_eq_ok_iff.mp h).2.2

end Members

/-! ## Whole records -/

section Records

variable {b : Binding} {cb : Cookbook}

/-- The field names of a record are those of the cookbook. -/
theorem map_ident_fields {i : Ingredient} {fields : List ResolvedField}
    {parts : List OptionalParts}
    (hfields : List.Forall₂ (ResolvedField.Resolves cb) i.required fields)
    (hparts : List.Forall₂ (OptionalParts.Describes b cb) i.optionals parts) :
    (fields.map (·.toRecord b)).map (·.ident) ++ (parts.map (·.setter)).map (·.ident)
      = i.fieldNames.map b.mapIdentifier := by
  rw [Ingredient.fieldNames, List.map_append, List.map_map, List.map_map, List.map_map,
    List.map_map]
  congr 1
  · exact map_eq_map_of_forall₂ hfields fun r f hf ↦ congrArg b.mapIdentifier hf.name_eq
  · exact map_eq_map_of_forall₂ hparts fun o p hp ↦ hp.ident_eq

theorem map_name_accessors {i : Ingredient} {fields : List ResolvedField}
    {parts : List OptionalParts}
    (hfields : List.Forall₂ (ResolvedField.Resolves cb) i.required fields)
    (hparts : List.Forall₂ (OptionalParts.Describes b cb) i.optionals parts) :
    (fields.map (·.accessor b) ++ parts.map (·.accessor)).map (·.name) = b.accessorNames cb i := by
  rw [Binding.accessorNames, List.map_append, List.map_map, List.map_map]
  congr 1
  · refine map_eq_filterMap_of_forall₂ hfields fun r f hf ↦ ?_
    rw [b.accessorAt?_eq_some r.name hf.type_eq false, ← hf.name_eq]
    rfl
  · exact map_eq_filterMap_of_forall₂ hparts fun o p hp ↦ hp.accessor_eq

theorem map_ident_compounds {optionals : List OptionalField} {parts : List OptionalParts}
    (h : List.Forall₂ (OptionalParts.Describes b cb) optionals parts) :
    (parts.filterMap (·.compound)).map (·.ident) = b.compoundIdents optionals :=
  map_filterMap_eq_map_filter_of_forall₂ h fun _ _ hp ↦ hp.compound_eq

/-- In a valid cookbook all required fields can be mapped. -/
theorem exists_fields (hb : b.IsStandard) (hvalid : ∀ rule : Rule, rule.Holds cb) {i : Ingredient}
    (hi : i ∈ cb.ingredients) :
    ∃ fields, i.required.mapM (ResolvedField.ofRequired b cb i.name) = .ok fields ∧
      List.Forall₂ (ResolvedField.Resolves cb) i.required fields := by
  have htypes : Rule.typesResolve.Holds cb := hvalid _
  have hdefaults : Rule.defaultsConform.Holds cb := hvalid _
  have hfield (r : Required) (hr : r ∈ i.required) :
      ∃ f, ResolvedField.ofRequired b cb i.name r = .ok f := by
    obtain ⟨t, ht⟩ := (htypes i hi).1 r hr
    exact ResolvedField.exists_ofRequired hb ht fun v hv ↦ hdefaults i hi r hr v hv t ht
  obtain ⟨fields, h⟩ := exists_mapM hfield
  exact ⟨fields, h, (mapM_eq_ok_iff.mp h).imp fun _ _ ↦ ResolvedField.resolves_of_ofRequired⟩

/-- In a valid cookbook every initializer finds its fields and the defaults of the others. -/
theorem exists_initializers (hvalid : ∀ rule : Rule, rule.Holds cb) {i : Ingredient}
    (hi : i ∈ cb.ingredients) {fields : List ResolvedField}
    (hfields : List.Forall₂ (ResolvedField.Resolves cb) i.required fields) :
    ∃ records, initializerRecords b i.name fields i.initializers = .ok records := by
  have hdeclared : Rule.initializerParamsDeclared.Holds cb := hvalid _
  have hcovered : Rule.requiredCoverage.Holds cb := hvalid _
  obtain ⟨hright, hleft⟩ := exists_mem_of_forall₂ hfields
  refine exists_initializerRecords b (fun init hinit p hp ↦ ?_) fun init hinit f hf hnot ↦ ?_
  · obtain ⟨r, hr, hname⟩ := hdeclared i hi init hinit p hp
    obtain ⟨f, hf, hrf⟩ := hright r hr
    exact ⟨f, hf, hrf.name_eq.trans hname⟩
  · obtain ⟨r, hr, hrf⟩ := hleft f hf
    refine hrf.default_ne_none fun hnone ↦ hnot ?_
    rw [hrf.name_eq]
    exact hcovered i hi r hr hnone init hinit

/-- In a valid cookbook the optional fields fail only by a clash within a group. -/
theorem optionals_succeedsIff (hvalid : ∀ rule : Rule, rule.Holds cb) {i : Ingredient}
    (hi : i ∈ cb.ingredients) :
    SucceedsIff (i.optionals.mapM (optionalParts b cb i.name))
      (∀ o ∈ i.optionals, ∀ params, o.shape? = some (.compound params) →
        b.DistinctInGroup cb params) SchemaError.IsClash := by
  have htypes : Rule.typesResolve.Holds cb := hvalid _
  have hshape : Rule.optionalShape.Holds cb := hvalid _
  have hgroups : Rule.compoundParams.Holds cb := hvalid _
  refine SucceedsIff.mapM fun o ho ↦ ?_
  obtain ⟨htype, hparams⟩ := (htypes i hi).2 o ho
  refine optionalParts_succeedsIff b i.name (hshape i hi o ho) htype fun params h ↦ ?_
  exact ⟨(hgroups i hi o ho params h).1, hparams params h⟩

theorem ingredientRecord_succeedsIff (hb : b.IsStandard) (hvalid : ∀ rule : Rule, rule.Holds cb)
    {i : Ingredient} (hi : i ∈ cb.ingredients) :
    SucceedsIff (ingredientRecord b cb i) (b.DistinctInIngredient cb i) SchemaError.IsClash := by
  obtain ⟨fields, hfields, hresolves⟩ := exists_fields hb hvalid hi
  obtain ⟨initializers, hinitializers⟩ := exists_initializers hvalid hi hresolves
  obtain ⟨constants, hconstants, hidents⟩ := exists_constants hb cb i.keyConstants
  rw [ingredientRecord, hfields]
  change SucceedsIff (initializerRecords b i.name fields i.initializers >>= _) _ _
  rw [hinitializers]
  -- What is left can fail on the groups and then on four lists of names, none of which depends on
  -- what has been computed: they are lists of the cookbook.
  refine ((optionals_succeedsIff hvalid hi).bind (Q := (i.fieldNames.map b.mapIdentifier).Nodup ∧
    (b.accessorNames cb i).Nodup ∧ (b.mapIdentifier i.name :: b.compoundIdents i.optionals).Nodup ∧
      (i.keyConstants.map fun v ↦ b.mapIdentifier (upperSnakeCase (sanitize v))).Nodup)
    fun parts h ↦ ?_).congr ?_
  · have hdescribes : List.Forall₂ (OptionalParts.Describes b cb) i.optionals parts :=
      (mapM_eq_ok_iff.mp h).imp fun _ _ ↦ describes_of_optionalParts
    rw [← map_ident_fields hresolves hdescribes, ← map_name_accessors hresolves hdescribes,
      ← map_ident_compounds hdescribes, ← hidents, hconstants]
    refine (ensureDistinct_succeedsIff_isClash .field (by decide) _ _).bind fun _ _ ↦
      (ensureDistinct_succeedsIff_isClash .accessor (by decide) _ _).bind fun _ _ ↦
        (ensureDistinct_succeedsIff_isClash .compound (by decide) _ _).bind fun _ _ ↦ ?_
    exact ((ensureDistinct_succeedsIff_isClash .keyConstant (by decide) _ _).bind
      fun _ _ ↦ SucceedsIff.ok _).congr (and_iff_left trivial)
  · constructor
    · rintro ⟨groups, fields, accessors, compounds, keyConstants⟩
      exact { fields, accessors, compounds, keyConstants, groups }
    · intro h
      exact ⟨h.groups, h.fields, h.accessors, h.compounds, h.keyConstants⟩

theorem enumRecord_succeedsIff (hb : b.IsStandard) (hnames : Rule.uniqueEnumNames.Holds cb)
    {d : EnumDef} (hd : d ∈ cb.enums) :
    SucceedsIff (enumRecord b cb d) (d.values.map b.mapEnumMember).Nodup SchemaError.IsClash := by
  obtain ⟨members, hmembers, hidents⟩ := exists_members hb hnames hd
  rw [enumRecord, hmembers, ← hidents]
  exact ((ensureDistinct_succeedsIff_isClash .enumMember (by decide) _ _).bind
    fun _ _ ↦ SucceedsIff.ok _).congr (and_iff_left trivial)

theorem generate_succeedsIff (hb : b.IsStandard) (hvalid : ∀ rule : Rule, rule.Holds cb) :
    SucceedsIff (generate b cb) (b.DistinctNames cb) SchemaError.IsClash := by
  have hingredients := SucceedsIff.mapM fun i hi ↦ ingredientRecord_succeedsIff hb hvalid hi
  have henums := SucceedsIff.mapM fun d hd ↦ enumRecord_succeedsIff hb (hvalid .uniqueEnumNames) hd
  rw [generate]
  refine (hingredients.bind fun _ _ ↦ henums.bind fun _ _ ↦ SucceedsIff.ok _).congr ?_
  constructor
  · rintro ⟨ingredients, enums, -⟩
    exact { ingredients, enums }
  · intro h
    exact ⟨h.ingredients, h.enums, trivial⟩

end Records

/-- **Names are all that can go wrong.** A valid cookbook goes through a standard binding exactly
when no two generated names clash; and if it does not, the error is such a clash and nothing
else. -/
theorem generate_succeeds_iff_distinctNames (b : Binding) (hb : b.IsStandard) (cb : Cookbook)
    (hvalid : cb.validate = .ok ()) :
    ((∃ records, generate b cb = .ok records) ↔ b.DistinctNames cb) ∧
      ∀ e, generate b cb = .error e → ∃ scope ∈ generatedScopes, ∃ name owner,
        e = .duplicateName scope name owner := by
  have h : SucceedsIff (generate b cb) (b.DistinctNames cb) SchemaError.IsClash :=
    generate_succeedsIff hb (Rule.holds_of_validate hvalid)
  exact ⟨h.exists_ok_iff, fun e he ↦ h.of_error he⟩

/-- A valid cookbook with defaults, overloads, a flag, a group, a key and an enum. -/
def pizzaCookbook : Cookbook where
  domain := "Kitchen"
  ingredients := [{
    name := "Pizza"
    keyed := true
    required := [⟨"size", "Size", none⟩, ⟨"toppings", "string...", some (.list [.string "basil"])⟩]
    initializers := [⟨["size", "toppings"]⟩, ⟨["size"]⟩]
    optionals := [.simple "crisp" "flag" false,
      .compound "bake" [⟨"minutes", "int"⟩, ⟨"heat", "float"⟩] true]
    keyConstants := ["main dish"] }]
  enums := [⟨"Size", ["small", "extra-large"]⟩]

theorem distinctNames_pizzaCookbook :
    pizzaCookbook.validate = .ok () ∧ Binding.java.DistinctNames pizzaCookbook :=
  ⟨rfl, (generate_succeeds_iff_distinctNames .java
    (Binding.isStandard_of_mem_builtin List.mem_cons_self) pizzaCookbook rfl).1.mp ⟨_, rfl⟩⟩

end Cookery
