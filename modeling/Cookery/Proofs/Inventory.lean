import Cookery.Proofs.FieldSupply

/-!
# Nothing is lost and nothing is made up

The records repeat the declarations: one record for each ingredient and one for each enum, in order,
and in the record of an ingredient one entry for each field, each group and each key constant. The
entries stand in several lists, and an optional field has one in three of them, its setter, its
getter and, if it holds a group, the type of the group. `IngredientRecord.Inventories` says what is
in these lists.

## What distinctness is for

That the lists repeat the declarations follows from how each entry is made, and needs no check. The
entries of one optional field, though, refer to each other by text alone: the setter names the type
of its group by identifier, and the getter is found by the name of the field. Such a reference has
one target because identifiers of groups and names of fields are distinct. The first is checked when
a record is finished. The second is not checked at all; it holds because the identifiers of the
fields are checked, and these come from the names.
-/

namespace Cookery

/-- What the record of an ingredient lists of its declaration. -/
structure IngredientRecord.Inventories (i : Ingredient) (r : IngredientRecord) : Prop where
  name_eq : r.name = i.name
  required_eq : r.required.map (·.name) = i.required.map (·.name)
  optionals_eq : r.optionals.map (·.name) = i.optionals.map (·.name)
  accessors_eq : r.accessors.map (·.field) = i.fieldNames
  keyConstants_eq : r.keyConstants.map (·.value) = i.keyConstants
  /-- The groups are those of the optional fields that declare one. -/
  compounds_eq : r.compounds.map (·.optional)
    = (i.optionals.filter (·.params.isSome)).map (·.name)
  /-- The setter of an optional field names a group exactly if the field declares one. -/
  grouped : List.Forall₂ (fun o setter ↦ setter.compound.isSome = o.params.isSome) i.optionals
    r.optionals
  /-- The group that a setter names is there once. It belongs to the same field, it has the members
  that the setter takes, and it is what the one getter of the field returns. -/
  exists_group : ∀ setter ∈ r.optionals, ∀ ident, setter.compound = some ident → ∃ c a,
    r.compounds.filter (·.ident == ident) = [c] ∧ c.optional = setter.name ∧
      c.fields = setter.params ∧ r.accessors.filter (·.field == setter.name) = [a] ∧
        a.type = ident

/-- What the record of an enum lists of its declaration. -/
structure EnumRecord.Inventories (d : EnumDef) (r : EnumRecord) : Prop where
  name_eq : r.name = d.name
  members_eq : r.members.map (·.value) = d.values

variable {b : Binding} {cb : Cookbook}

/-! ## The parts of an optional field -/

/-- How the parts of an optional field belong together. -/
structure OptionalParts.Repeats (o : OptionalField) (parts : OptionalParts) : Prop where
  setter_name : parts.setter.name = o.name
  accessor_field : parts.accessor.field = o.name
  isSome_compound : parts.compound.isSome = o.params.isSome
  setter_compound : parts.setter.compound = parts.compound.map (·.ident)
  group_eq : ∀ c, parts.compound = some c →
    c.optional = o.name ∧ c.fields = parts.setter.params ∧ parts.accessor.type = c.ident

theorem repeats_of_optionalParts {ingredient : String} {o : OptionalField} {parts : OptionalParts}
    (h : optionalParts b cb ingredient o = .ok parts) : parts.Repeats o := by
  rcases optionalParts_cases h with ⟨type, t, hshape, -, rfl⟩ |
    ⟨params, first, rest, c, hshape, -, rfl, -, -, rfl⟩
  · obtain ⟨-, hparams⟩ := OptionalField.shape?_eq_simple_iff.mp hshape
    refine ⟨rfl, rfl, ?_, rfl, fun c hc ↦ ?_⟩
    · rw [hparams]
      rfl
    · cases hc
  · obtain ⟨-, hparams⟩ := OptionalField.shape?_eq_compound_iff.mp hshape
    refine ⟨rfl, rfl, ?_, rfl, fun c hc ↦ ?_⟩
    · rw [hparams]
      rfl
    · rw [← Option.some.inj hc]
      exact ⟨rfl, rfl, rfl⟩

theorem OptionalParts.Repeats.map_optional {o : OptionalField} {parts : OptionalParts}
    (h : parts.Repeats o) :
    parts.compound.map (·.optional) = if o.params.isSome then some o.name else none := by
  rw [← h.isSome_compound]
  cases hc : parts.compound with
  | none => rfl
  | some c => exact congrArg some (h.group_eq c hc).1

/-! ## Inside the record of an ingredient -/

namespace IngredientRecord.BuiltFrom

variable {i : Ingredient} {fields : List ResolvedField} {parts : List OptionalParts}
  {r : IngredientRecord}

theorem forall₂_repeats (h : r.BuiltFrom b cb i fields parts) :
    List.Forall₂ OptionalParts.Repeats i.optionals parts :=
  h.parts_of.imp fun _ _ ↦ repeats_of_optionalParts

theorem map_name_optionals (h : r.BuiltFrom b cb i fields parts) :
    r.optionals.map (·.name) = i.optionals.map (·.name) := by
  rw [h.optionals_eq, List.map_map]
  exact map_eq_map_of_forall₂ h.forall₂_repeats fun _ _ hp ↦ hp.setter_name

theorem map_field_accessors (h : r.BuiltFrom b cb i fields parts) :
    r.accessors.map (·.field) = i.fieldNames := by
  rw [h.accessors_eq, Ingredient.fieldNames, List.map_append, List.map_map, List.map_map,
    ← h.map_name_fields]
  congr 1
  exact map_eq_map_of_forall₂ h.forall₂_repeats fun _ _ hp ↦ hp.accessor_field

theorem map_value_keyConstants (h : r.BuiltFrom b cb i fields parts) :
    r.keyConstants.map (·.value) = i.keyConstants :=
  map_eq_of_forall₂ h.constants_of fun _ _ hk ↦ (constantRecord_eq_ok_iff.mp hk).2.1

theorem map_optional_compounds (h : r.BuiltFrom b cb i fields parts) :
    r.compounds.map (·.optional) = (i.optionals.filter (·.params.isSome)).map (·.name) := by
  rw [h.compounds_eq]
  exact map_filterMap_eq_map_filter_of_forall₂ h.forall₂_repeats fun _ _ hp ↦ hp.map_optional

theorem forall₂_isSome_compound (h : r.BuiltFrom b cb i fields parts) :
    List.Forall₂ (fun o setter ↦ setter.compound.isSome = o.params.isSome) i.optionals
      r.optionals := by
  rw [h.optionals_eq, List.forall₂_map_right_iff]
  refine h.forall₂_repeats.imp fun _ _ hp ↦ ?_
  rw [hp.setter_compound, Option.isSome_map, hp.isSome_compound]

/-- The parts of one optional field are in the lists of the record, and distinctness makes them the
only ones that the references between them can mean. -/
theorem exists_group_of_setter (h : r.BuiltFrom b cb i fields parts) {setter : OptionalRecord}
    (hsetter : setter ∈ r.optionals) {ident : String} (hident : setter.compound = some ident) :
    ∃ c a, r.compounds.filter (·.ident == ident) = [c] ∧ c.optional = setter.name ∧
      c.fields = setter.params ∧ r.accessors.filter (·.field == setter.name) = [a] ∧
        a.type = ident := by
  rw [h.optionals_eq] at hsetter
  obtain ⟨part, hpart, rfl⟩ := List.mem_map.mp hsetter
  obtain ⟨o, -, hrepeats⟩ := (exists_mem_of_forall₂ h.forall₂_repeats).2 part hpart
  rw [hrepeats.setter_compound] at hident
  obtain ⟨c, hc, rfl⟩ := Option.map_eq_some_iff.mp hident
  have hcompound : c ∈ r.compounds := by
    rw [h.compounds_eq]
    exact List.mem_filterMap.mpr ⟨part, hpart, hc⟩
  have haccessor : part.accessor ∈ r.accessors := by
    rw [h.accessors_eq]
    exact List.mem_append_right _ (List.mem_map_of_mem hpart)
  have hfields : (r.accessors.map (·.field)).Nodup := by
    rw [h.map_field_accessors]
    exact h.nodup_fieldNames
  obtain ⟨hoptional, hmembers, htype⟩ := hrepeats.group_eq c hc
  refine ⟨c, part.accessor, ?_, hoptional.trans hrepeats.setter_name.symm, hmembers, ?_, htype⟩
  · exact filter_name_eq_singleton h.compounds_nodup.of_cons hcompound
  · rw [hrepeats.setter_name, ← hrepeats.accessor_field]
    exact filter_name_eq_singleton hfields haccessor

theorem inventories (h : r.BuiltFrom b cb i fields parts) : r.Inventories i where
  name_eq := h.name_eq
  required_eq := h.map_name_required
  optionals_eq := h.map_name_optionals
  accessors_eq := h.map_field_accessors
  keyConstants_eq := h.map_value_keyConstants
  compounds_eq := h.map_optional_compounds
  grouped := h.forall₂_isSome_compound
  exists_group _ hsetter _ hident := h.exists_group_of_setter hsetter hident

end IngredientRecord.BuiltFrom

/-! ## All records -/

theorem inventories_of_enumRecord {d : EnumDef} {r : EnumRecord}
    (h : enumRecord b cb d = .ok r) : r.Inventories d := by
  obtain ⟨hmembers, -, -, hname, -⟩ := enumRecord_eq_ok_iff.mp h
  refine ⟨hname, map_eq_of_forall₂ hmembers fun _ _ hm ↦ ?_⟩
  exact (memberRecord_eq_ok_iff.mp hm).2.1

/-- **The records are an inventory of the cookbook.** Whenever a binding makes records of a
cookbook, valid or not, they are those of the ingredients, then those of the enums, each in order,
and one index at the end, which lists the names of all of them. Each record lists what is declared,
and the references inside it have one target. -/
theorem records_inventory_cookbook (b : Binding) (cb : Cookbook) (records : List ArtifactRecord)
    (h : generate b cb = .ok records) : ∃ ingredients enums index,
      records = ingredients.map .ingredient ++ enums.map .enum ++ [.manifest index] ∧
      List.Forall₂ IngredientRecord.Inventories cb.ingredients ingredients ∧
      List.Forall₂ EnumRecord.Inventories cb.enums enums ∧
      index.ingredients = ingredients.map (·.name) ∧ index.enums = enums.map (·.name) := by
  obtain ⟨ingredients, enums, hingredients, henums, rfl⟩ := generate_eq_ok_iff.mp h
  have hinventories : List.Forall₂ IngredientRecord.Inventories cb.ingredients ingredients := by
    refine hingredients.imp fun i r hr ↦ ?_
    obtain ⟨fields, parts, hbuilt⟩ := exists_builtFrom_of_ingredientRecord hr
    exact hbuilt.inventories
  have henumInventories : List.Forall₂ EnumRecord.Inventories cb.enums enums :=
    henums.imp fun _ _ ↦ inventories_of_enumRecord
  refine ⟨ingredients, enums, manifestRecord b cb, rfl, hinventories, henumInventories, ?_, ?_⟩
  · exact (map_eq_map_of_forall₂ hinventories fun _ _ hr ↦ hr.name_eq).symm
  · exact (map_eq_map_of_forall₂ henumInventories fun _ _ hr ↦ hr.name_eq).symm

/-- A group between two other optional fields, which is the only one that has a type of its own. -/
theorem records_inventory_cookbook_salad :
    let salad : Ingredient := {
      name := "Salad"
      keyed := true
      keyConstants := ["house salad", "greek"]
      required := [⟨"size", "Size", some (.string "extra-large")⟩, ⟨"bowl", "string", none⟩]
      initializers := [⟨["bowl"]⟩]
      optionals := [.simple "raw" "flag" false,
        .compound "dressing" [⟨"oil", "int"⟩, ⟨"herbs", "string..."⟩] true,
        .simple "note" "string" false] }
    let cb : Cookbook := { ingredients := [salad], enums := [⟨"Size", ["small", "extra-large"]⟩] }
    ∃ r e index, generate .java cb = .ok [.ingredient r, .enum e, .manifest index] ∧
      r.Inventories salad ∧ r.optionals.map (·.compound) = [none, some "Dressing", none] ∧
      r.accessors.map (·.type) = ["Size", "String", "boolean", "Dressing", "String"] ∧
      e.Inventories ⟨"Size", ["small", "extra-large"]⟩ ∧
      index.ingredients = [r.name] ∧ index.enums = [e.name] := by
  intro salad cb
  obtain ⟨ingredients, enums, index, hrecords, hingredients, henums, hnames, henumNames⟩ :=
    records_inventory_cookbook .java cb _ rfl
  rcases hingredients with _ | ⟨hr, _ | _⟩
  rcases henums with _ | ⟨he, _ | _⟩
  obtain rfl := ArtifactRecord.ingredient.inj (List.cons.inj hrecords).1
  exact ⟨_, _, index, congrArg Except.ok hrecords, hr, rfl, rfl, he, hnames, henumNames⟩

end Cookery
