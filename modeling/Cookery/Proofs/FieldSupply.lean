import Cookery.Proofs.Rechecked

/-!
# Where an initializer takes its fields from

An initializer lists some of the required fields of its ingredient, and the others get their
defaults. Its record says so in two lists. The parameters come from a walk over what the initializer
lists, with a lookup among the fields; the assignments come from a walk over the fields, without
those that are listed. The walks go over different lists and never meet.

That they still divide the fields between them rests on names alone: a looked-up field has the name
that was looked up, and a field is assigned exactly when its name is not listed. That no field is
assigned twice is another matter. It holds because field names are distinct, which no walk over
initializers checks: it comes from the comparison of identifiers at the end of the whole record, so
it holds of records and not of initializers by themselves.
-/

namespace Cookery

/-- The record, if it is that of an ingredient. -/
def ArtifactRecord.ingredient? : ArtifactRecord → Option IngredientRecord
  | ingredient r => some r
  | enum _ => none
  | manifest _ => none

/-- The records of the ingredients, in order. -/
def ingredientRecords (records : List ArtifactRecord) : List IngredientRecord :=
  records.filterMap ArtifactRecord.ingredient?

/-- The record of an initializer gives every required field of the ingredient exactly one source.
Here `i` and `r` are the ingredient and its record. -/
structure InitializerRecord.SuppliesFields (i : Ingredient) (r : IngredientRecord)
    (init : Initializer) (record : InitializerRecord) : Prop where
  /-- The parameters are what the initializer lists, in its order. -/
  params_eq : record.params.map (·.name) = init.params
  /-- The assigned fields are those that it does not list, in declaration order. -/
  defaults_eq : record.defaults.map (·.field)
    = (i.required.map (·.name)).filter (· ∉ init.params)
  defaults_nodup : (record.defaults.map (·.field)).Nodup
  /-- An assignment has the identifier and the default of the one field of its name. -/
  exists_field : ∀ a ∈ record.defaults, ∃ f ∈ r.required,
    (∀ g ∈ r.required, g.name = a.field ↔ g = f) ∧ a.ident = f.ident ∧ f.default = some a.value
  /-- A field is a parameter or is assigned, and never both. -/
  one_source : ∀ q ∈ i.required,
    Xor (q.name ∈ record.params.map (·.name)) (q.name ∈ record.defaults.map (·.field))

variable {b : Binding} {cb : Cookbook}

/-! ## The two walks of one initializer -/

/-- A field that is looked up by name has that name. -/
theorem map_name_of_forall₂ {fields taken : List ResolvedField} {names : List String}
    (h : List.Forall₂ (fun p f ↦ fields.find? (·.name == p) = some f) names taken) :
    taken.map (·.name) = names := by
  refine map_eq_of_forall₂ h ?_
  intro p f hf
  have hname := List.find?_some hf
  exact beq_iff_eq.mp hname

namespace InitializerRecord.Describes

variable {fields : List ResolvedField} {init : Initializer} {record : InitializerRecord}

theorem map_name_params (h : record.Describes b fields init) :
    record.params.map (·.name) = init.params := by
  obtain ⟨taken, arrayForm, htaken, hparams⟩ := h.exists_taken
  rw [hparams, List.map_map, ← map_name_of_forall₂ htaken]
  rfl

theorem map_field_defaults (h : record.Describes b fields init) :
    record.defaults.map (·.field) = (fields.map (·.name)).filter (· ∉ init.params) := by
  have hkept : fields.filter (fun f ↦ !init.params.contains f.name)
      = fields.filter (fun f ↦ decide (f.name ∉ init.params)) := by
    refine List.filter_congr ?_
    intro f _
    simp
  have hfields := map_eq_map_of_forall₂ h.defaults fun f a hfa ↦ hfa.2.1
  rw [hfields, hkept, List.filter_map]
  rfl

theorem exists_field_of_mem_defaults (h : record.Describes b fields init) {a : AssignmentRecord}
    (ha : a ∈ record.defaults) :
    ∃ f ∈ fields, f.name = a.field ∧ a.ident = b.mapIdentifier f.name ∧
      f.default = some a.value := by
  obtain ⟨f, hf, hvalue, hfield, hident⟩ := (exists_mem_of_forall₂ h.defaults).2 a ha
  exact ⟨f, List.mem_of_mem_filter hf, hfield.symm, hident, hvalue⟩

end InitializerRecord.Describes

/-! ## Inside the record of an ingredient -/

namespace IngredientRecord.BuiltFrom

variable {i : Ingredient} {fields : List ResolvedField} {parts : List OptionalParts}
  {r : IngredientRecord}

theorem map_name_fields (h : r.BuiltFrom b cb i fields parts) :
    fields.map (·.name) = i.required.map (·.name) :=
  map_eq_map_of_forall₂ h.forall₂_resolves fun _ _ hf ↦ hf.name_eq

theorem map_name_required (h : r.BuiltFrom b cb i fields parts) :
    r.required.map (·.name) = i.required.map (·.name) := by
  rw [h.required_eq, List.map_map, ← h.map_name_fields]
  rfl

theorem nodup_required (h : r.BuiltFrom b cb i fields parts) :
    (i.required.map (·.name)).Nodup := by
  have hnames := h.nodup_fieldNames
  rw [Ingredient.fieldNames] at hnames
  exact hnames.of_append_left

/-- Field names are distinct, so the record of a field is the only one of its name. -/
theorem eq_of_name_eq (h : r.BuiltFrom b cb i fields parts) {f g : FieldRecord}
    (hf : f ∈ r.required) (hg : g ∈ r.required) (hname : g.name = f.name) : g = f := by
  have hnodup : (r.required.map (·.name)).Nodup := by
    rw [h.map_name_required]
    exact h.nodup_required
  exact List.inj_on_of_nodup_map hnodup hg hf hname

theorem suppliesFields (h : r.BuiltFrom b cb i fields parts) {init : Initializer}
    {record : InitializerRecord} (hrecord : record.Describes b fields init) :
    record.SuppliesFields i r init := by
  have hparams := hrecord.map_name_params
  have hdefaults := hrecord.map_field_defaults
  rw [h.map_name_fields] at hdefaults
  refine ⟨hparams, hdefaults, ?_, ?_, ?_⟩
  · rw [hdefaults]
    exact h.nodup_required.filter _
  · intro a ha
    obtain ⟨f, hf, hname, hident, hvalue⟩ := hrecord.exists_field_of_mem_defaults ha
    have hmem : f.toRecord b ∈ r.required := by
      rw [h.required_eq]
      exact List.mem_map_of_mem hf
    refine ⟨f.toRecord b, hmem, ?_, hident, hvalue⟩
    intro g hg
    constructor
    · intro hga
      exact h.eq_of_name_eq hmem hg (hga.trans hname.symm)
    · rintro rfl
      exact hname
  · intro q hq
    have hqname : q.name ∈ i.required.map (·.name) := List.mem_map_of_mem hq
    rw [hparams, hdefaults, List.mem_filter, decide_eq_true_iff]
    by_cases hlisted : q.name ∈ init.params
    · exact .inl ⟨hlisted, fun hassigned ↦ hassigned.2 hlisted⟩
    · exact .inr ⟨⟨hqname, hlisted⟩, hlisted⟩

end IngredientRecord.BuiltFrom

/-! ## All records -/

theorem ingredientRecords_of_generate {records : List ArtifactRecord}
    (h : generate b cb = .ok records) :
    List.Forall₂ (fun i r ↦ ingredientRecord b cb i = .ok r) cb.ingredients
      (ingredientRecords records) := by
  obtain ⟨ingredients, enums, hingredients, -, rfl⟩ := generate_eq_ok_iff.mp h
  have hkept : ingredientRecords (ingredients.map .ingredient) = ingredients := by
    rw [ingredientRecords, List.filterMap_map]
    exact List.filterMap_some
  have hdropped : ingredientRecords (enums.map .enum) = [] := by
    rw [ingredientRecords, List.filterMap_map]
    exact List.filterMap_eq_nil_iff.mpr fun _ _ ↦ rfl
  have hindex : ingredientRecords [.manifest (manifestRecord b cb)] = [] := rfl
  rw [ingredientRecords] at hkept hdropped hindex ⊢
  rw [List.filterMap_append, List.filterMap_append, hkept, hdropped, hindex, List.append_nil,
    List.append_nil]
  exact hingredients

/-- **Every field has one source.** Whenever a binding makes records of a cookbook, valid or not,
the ingredients have their records in order, with the declared required fields. In each of them the
initializers have their records in order, and such a record divides the required fields into
parameters, which are the listed ones, and assignments of defaults, which are all others. -/
theorem initializers_supply_every_field (b : Binding) (cb : Cookbook)
    (records : List ArtifactRecord) (h : generate b cb = .ok records) :
    List.Forall₂ (fun i r ↦ r.name = i.name ∧
        r.required.map (·.name) = i.required.map (·.name) ∧
        List.Forall₂ (InitializerRecord.SuppliesFields i r) i.initializers r.initializers)
      cb.ingredients (ingredientRecords records) := by
  refine (ingredientRecords_of_generate h).imp ?_
  intro i r hr
  obtain ⟨fields, parts, hbuilt⟩ := exists_builtFrom_of_ingredientRecord hr
  refine ⟨hbuilt.name_eq, hbuilt.map_name_required, ?_⟩
  exact (describes_of_initializerRecords hbuilt.initializers_of).imp
    fun init record hrecord ↦ hbuilt.suppliesFields hrecord

/-- Two overloads of one ingredient: the first leaves the minutes to their default, the second takes
both fields, in the other order. -/
theorem initializers_supply_every_field_boil :
    let boil : Ingredient := {
      name := "Boil"
      required := [⟨"pot", "string", none⟩, ⟨"minutes", "int", some (.int 8)⟩]
      initializers := [⟨["pot"]⟩, ⟨["minutes", "pot"]⟩] }
    ∃ records r first second, generate .python { ingredients := [boil] } = .ok records ∧
      ingredientRecords records = [r] ∧ r.initializers = [first, second] ∧
      first.SuppliesFields boil r ⟨["pot"]⟩ ∧
      first.defaults = [⟨"minutes", "minutes", "8"⟩] ∧
      second.SuppliesFields boil r ⟨["minutes", "pot"]⟩ ∧ second.defaults = [] := by
  intro boil
  have hall := initializers_supply_every_field .python { ingredients := [boil] } _ rfl
  obtain ⟨⟨-, -, hinits⟩, -⟩ := List.forall₂_cons.mp hall
  obtain ⟨hfirst, hrest⟩ := List.forall₂_cons.mp hinits
  obtain ⟨hsecond, -⟩ := List.forall₂_cons.mp hrest
  exact ⟨_, _, _, _, rfl, rfl, rfl, hfirst, rfl, hsecond, rfl⟩

end Cookery
