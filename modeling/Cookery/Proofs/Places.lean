import Cookery.Proofs.Assembly

/-!
# The places of a record

The record of an ingredient writes types in seven kinds of places and defaults in two. Each place
has a name that the ingredient also has: the name of a field, or of an optional field and a member
of its group. What stands in the place is the spelling of what the ingredient declares under that
name: that is `BuiltFrom.spellsAt_of_typeAt` and `BuiltFrom.spellsDefaultAt_of_defaultAt`, for any
binding and any cookbook.

The getter of a group is not among the places. Its type is the type of the group, which is generated
and not declared.
-/

namespace Cookery

/-! ## Places in an ingredient and in its record -/

/-- The types that an ingredient declares: those of its fields, and under the name of an optional
field those of the members of its group. -/
inductive Ingredient.Declares (i : Ingredient) : Option String → String → String → Prop
  | required {q : Required} (h : q ∈ i.required) : Declares i none q.name q.type
  | optional {o : OptionalField} {type : String} (h : o ∈ i.optionals)
      (htype : o.type = some type) : Declares i none o.name type
  | member {o : OptionalField} {params : List Param} {p : Param} (h : o ∈ i.optionals)
      (hparams : o.params = some params) (hp : p ∈ params) : Declares i (some o.name) p.name p.type

namespace IngredientRecord

/-- The places of a record at which a type of the cookbook is written: the group, if the place is in
one, the name and the text. -/
inductive TypeAt (r : IngredientRecord) : Option String → String → String → Prop
  | field {f : FieldRecord} (h : f ∈ r.required) : TypeAt r none f.name f.type
  | param {init : InitializerRecord} {p : ParamRecord} (h : init ∈ r.initializers)
      (hp : p ∈ init.params) : TypeAt r none p.name p.type
  | accessor {a : AccessorRecord} (h : a ∈ r.accessors)
      (hsingle : ∀ c ∈ r.compounds, c.optional ≠ a.field) : TypeAt r none a.field a.type
  | setter {o : OptionalRecord} {p : ParamRecord} (h : o ∈ r.optionals)
      (hsingle : o.compound = none) (hp : p ∈ o.params) : TypeAt r none p.name p.type
  | groupSetter {o : OptionalRecord} {p : ParamRecord} (h : o ∈ r.optionals)
      (hgroup : o.compound ≠ none) (hp : p ∈ o.params) : TypeAt r (some o.name) p.name p.type
  | member {c : CompoundRecord} {p : ParamRecord} (h : c ∈ r.compounds) (hp : p ∈ c.fields) :
      TypeAt r (some c.optional) p.name p.type
  | memberAccessor {c : CompoundRecord} {a : AccessorRecord} (h : c ∈ r.compounds)
      (ha : a ∈ c.accessors) : TypeAt r (some c.optional) a.field a.type

/-- The places at which a default is written: the name of the field and the text. -/
inductive DefaultAt (r : IngredientRecord) : String → String → Prop
  | field {f : FieldRecord} {text : String} (h : f ∈ r.required)
      (hdefault : f.default = some text) : DefaultAt r f.name text
  | assignment {init : InitializerRecord} {a : AssignmentRecord} (h : init ∈ r.initializers)
      (ha : a ∈ init.defaults) : DefaultAt r a.field a.value

end IngredientRecord

/-! ## What stands there -/

/-- The text is the spelling of a type that the ingredient declares at the place, in one of its
forms. -/
def Binding.SpellsAt (b : Binding) (cb : Cookbook) (i : Ingredient) (owner : Option String)
    (name text : String) : Prop :=
  ∃ type t form, i.Declares owner name type ∧ ParamType.parse? cb type = some t ∧
    text = b.mapType t form

/-- The text is the spelling of the default of a field of the name. -/
def Binding.SpellsDefaultAt (b : Binding) (cb : Cookbook) (i : Ingredient)
    (name text : String) : Prop :=
  ∃ q ∈ i.required, ∃ v t, q.name = name ∧ q.default = some v ∧
    ParamType.parse? cb q.type = some t ∧ b.mapValue cb t v = .ok text

namespace IngredientRecord.BuiltFrom

variable {b : Binding} {cb : Cookbook} {i : Ingredient} {fields : List ResolvedField}
  {parts : List OptionalParts} {r : IngredientRecord}

theorem exists_required (h : r.BuiltFrom b cb i fields parts) {f : ResolvedField}
    (hf : f ∈ fields) :
    ∃ q ∈ i.required, f.name = q.name ∧ ParamType.parse? cb q.type = some f.type ∧
      Option.Rel (fun v text ↦ b.mapValue cb f.type v = .ok text) q.default f.default := by
  obtain ⟨q, hq, hqf⟩ := (exists_mem_of_forall₂ h.fields_of).2 f hf
  exact ⟨q, hq, ResolvedField.ofRequired_eq_ok_iff.mp hqf⟩

theorem exists_optional (h : r.BuiltFrom b cb i fields parts) {part : OptionalParts}
    (hpart : part ∈ parts) : ∃ o ∈ i.optionals, optionalParts b cb i.name o = .ok part :=
  (exists_mem_of_forall₂ h.parts_of).2 part hpart

theorem exists_initializer (h : r.BuiltFrom b cb i fields parts) {init : InitializerRecord}
    (hinit : init ∈ r.initializers) : ∃ source ∈ i.initializers, init.Describes b fields source :=
  (exists_mem_of_forall₂ (describes_of_initializerRecords h.initializers_of)).2 init hinit

theorem exists_group (h : r.BuiltFrom b cb i fields parts) {c : CompoundRecord}
    (hc : c ∈ r.compounds) :
    ∃ o ∈ i.optionals, ∃ params types, o.params = some params ∧
      List.Forall₂ (fun p t ↦ ParamType.parse? cb p.type = some t) params types ∧
        c = compoundRecord b o.name (params.zip types) := by
  rw [h.compounds_eq] at hc
  obtain ⟨part, hpart, hcompound⟩ := List.mem_filterMap.mp hc
  obtain ⟨o, ho, hparts⟩ := h.exists_optional hpart
  rcases optionalParts_cases hparts with ⟨type, t, -, -, rfl⟩ |
    ⟨params, first, rest, c', hshape, htypes, rfl, -, -, rfl⟩
  · exact nomatch hcompound
  · obtain ⟨-, hparams⟩ := OptionalField.shape?_eq_compound_iff.mp hshape
    exact ⟨o, ho, params, first :: rest, hparams, htypes, (Option.some.inj hcompound).symm⟩

/-! ### Types -/

theorem spellsAt_field (h : r.BuiltFrom b cb i fields parts) {f : ResolvedField} (hf : f ∈ fields)
    (form : Bool) : b.SpellsAt cb i none f.name (b.mapType f.type form) := by
  obtain ⟨q, hq, hname, htype, -⟩ := h.exists_required hf
  rw [hname]
  exact ⟨q.type, f.type, form, .required hq, htype, rfl⟩

theorem spellsAt_group {o : OptionalField} (ho : o ∈ i.optionals) {params : List Param}
    (hparams : o.params = some params) {types : List ParamType}
    (htypes : List.Forall₂ (fun p t ↦ ParamType.parse? cb p.type = some t) params types)
    {x : Param × ParamType} (hx : x ∈ params.zip types) (form : Bool) :
    b.SpellsAt cb i (some o.name) x.1.name (b.mapType x.2 form) := by
  refine ⟨x.1.type, x.2, form, .member ho hparams (List.of_mem_zip hx).1, ?_, rfl⟩
  exact List.forall₂_zip htypes hx

/-- The getter of an optional field without group. -/
theorem spellsAt_accessor (h : r.BuiltFrom b cb i fields parts) {part : OptionalParts}
    (hpart : part ∈ parts) (hsingle : ∀ c ∈ r.compounds, c.optional ≠ part.accessor.field) :
    b.SpellsAt cb i none part.accessor.field part.accessor.type := by
  obtain ⟨o, ho, hparts⟩ := h.exists_optional hpart
  rcases optionalParts_cases hparts with ⟨type, t, hshape, ht, rfl⟩ |
    ⟨params, first, rest, c, -, -, rfl, -, -, rfl⟩
  · obtain ⟨htype, -⟩ := OptionalField.shape?_eq_simple_iff.mp hshape
    exact ⟨type, t, true, .optional ho htype, ht, rfl⟩
  · -- The group has the name of its getter.
    refine absurd rfl (hsingle (compoundRecord b o.name (params.zip (first :: rest))) ?_)
    rw [h.compounds_eq]
    exact List.mem_filterMap.mpr ⟨_, hpart, rfl⟩

/-- The parameters of a setter, which stand in a group exactly when the setter has one. -/
theorem spellsAt_setter (h : r.BuiltFrom b cb i fields parts) {part : OptionalParts}
    (hpart : part ∈ parts) {p : ParamRecord} (hp : p ∈ part.setter.params) :
    (part.setter.compound = none → b.SpellsAt cb i none p.name p.type) ∧
      (part.setter.compound ≠ none → b.SpellsAt cb i (some part.setter.name) p.name p.type) := by
  obtain ⟨o, ho, hparts⟩ := h.exists_optional hpart
  rcases optionalParts_cases hparts with ⟨type, t, hshape, ht, rfl⟩ |
    ⟨params, first, rest, c, hshape, htypes, rfl, -, -, rfl⟩
  · obtain ⟨htype, -⟩ := OptionalField.shape?_eq_simple_iff.mp hshape
    refine ⟨fun _ ↦ ?_, fun hgroup ↦ absurd rfl hgroup⟩
    rw [simpleParts] at hp
    by_cases hflag : t.isFlag
    · rw [if_pos hflag] at hp
      exact nomatch hp
    · rw [if_neg hflag] at hp
      obtain rfl := List.mem_singleton.mp hp
      exact ⟨type, t, false, .optional ho htype, ht, rfl⟩
  · obtain ⟨-, hparams⟩ := OptionalField.shape?_eq_compound_iff.mp hshape
    refine ⟨fun hsingle ↦ (nomatch hsingle), fun _ ↦ ?_⟩
    obtain ⟨x, hx, rfl⟩ := List.mem_map.mp hp
    exact spellsAt_group ho hparams htypes hx false

/-- Every type in a record is the spelling of a type that the ingredient declares at its place. -/
theorem spellsAt_of_typeAt (h : r.BuiltFrom b cb i fields parts) {owner : Option String}
    {name text : String} (hat : r.TypeAt owner name text) : b.SpellsAt cb i owner name text := by
  cases hat with
  | field hf =>
    rw [h.required_eq] at hf
    obtain ⟨g, hg, rfl⟩ := List.mem_map.mp hf
    exact h.spellsAt_field hg true
  | param hinit hp =>
    obtain ⟨source, -, hsource⟩ := h.exists_initializer hinit
    obtain ⟨taken, form, htaken, hparams⟩ := hsource.exists_taken
    rw [hparams] at hp
    obtain ⟨g, hg, rfl⟩ := List.mem_map.mp hp
    obtain ⟨p, -, hfind⟩ := (exists_mem_of_forall₂ htaken).2 g hg
    exact h.spellsAt_field (List.mem_of_find?_eq_some hfind) form
  | accessor ha hsingle =>
    rw [h.accessors_eq] at ha
    rcases List.mem_append.mp ha with ha | ha
    · obtain ⟨g, hg, rfl⟩ := List.mem_map.mp ha
      exact h.spellsAt_field hg true
    · obtain ⟨part, hpart, rfl⟩ := List.mem_map.mp ha
      exact h.spellsAt_accessor hpart hsingle
  | setter hs hsingle hp =>
    rw [h.optionals_eq] at hs
    obtain ⟨part, hpart, rfl⟩ := List.mem_map.mp hs
    exact (h.spellsAt_setter hpart hp).1 hsingle
  | groupSetter hs hgroup hp =>
    rw [h.optionals_eq] at hs
    obtain ⟨part, hpart, rfl⟩ := List.mem_map.mp hs
    exact (h.spellsAt_setter hpart hp).2 hgroup
  | member hc hp =>
    obtain ⟨o, ho, params, types, hparams, htypes, rfl⟩ := h.exists_group hc
    obtain ⟨x, hx, rfl⟩ := List.mem_map.mp hp
    exact spellsAt_group ho hparams htypes hx false
  | memberAccessor hc ha =>
    obtain ⟨o, ho, params, types, hparams, htypes, rfl⟩ := h.exists_group hc
    obtain ⟨x, hx, rfl⟩ := List.mem_map.mp ha
    exact spellsAt_group ho hparams htypes hx true

/-! ### Defaults -/

theorem spellsDefaultAt_field (h : r.BuiltFrom b cb i fields parts) {f : ResolvedField}
    (hf : f ∈ fields) {text : String} (hdefault : f.default = some text) :
    b.SpellsDefaultAt cb i f.name text := by
  obtain ⟨q, hq, hname, htype, hspelled⟩ := h.exists_required hf
  cases hv : q.default with
  | none =>
    rw [hv, hdefault] at hspelled
    exact nomatch hspelled
  | some v =>
    rw [hv, hdefault, Option.rel_some_some] at hspelled
    exact ⟨q, hq, v, f.type, hname.symm, hv, htype, hspelled⟩

/-- Every default in a record is the spelling of the default of its field. -/
theorem spellsDefaultAt_of_defaultAt (h : r.BuiltFrom b cb i fields parts) {name text : String}
    (hat : r.DefaultAt name text) : b.SpellsDefaultAt cb i name text := by
  cases hat with
  | field hf hdefault =>
    rw [h.required_eq] at hf
    obtain ⟨g, hg, rfl⟩ := List.mem_map.mp hf
    exact h.spellsDefaultAt_field hg hdefault
  | assignment hinit ha =>
    obtain ⟨source, -, hsource⟩ := h.exists_initializer hinit
    obtain ⟨g, hg, hvalue, hfield, -⟩ := (exists_mem_of_forall₂ hsource.defaults).2 _ ha
    rw [hfield]
    exact h.spellsDefaultAt_field (List.mem_of_mem_filter hg) hvalue

end IngredientRecord.BuiltFrom

end Cookery
