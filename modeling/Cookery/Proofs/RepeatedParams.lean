import Cookery.Proofs.FieldSupply
import Cookery.Binding.Set

/-!
# Parameters that are listed twice

The parameters of an initializer are named by the identifiers of the fields it lists, and a language
asks for distinct names. The mapping compares many lists of identifiers, those of groups among them,
but not this one. Half of the comparison is made all the same: the identifiers of all fields of an
ingredient are compared, so different fields have different identifiers, in the parameters of an
initializer too.

The other half is missing. Neither validation nor the mapping asks that an initializer lists a field
only once, and a field that is listed twice is a parameter twice, under one name. That is the only
way in which names of parameters can clash: a field is a parameter exactly as often as it is listed.
-/

namespace Cookery

variable {b : Binding} {cb : Cookbook}

/-- The parameters of an initializer carry the identifiers of the fields it lists. -/
theorem InitializerRecord.Describes.map_ident_params {fields : List ResolvedField}
    {init : Initializer} {record : InitializerRecord} (h : record.Describes b fields init) :
    record.params.map (·.ident) = init.params.map b.mapIdentifier := by
  obtain ⟨taken, arrayForm, -, hparams⟩ := h.exists_taken
  have hnames := h.map_name_params
  rw [hparams, List.map_map] at hnames
  rw [hparams, ← hnames, List.map_map, List.map_map]
  rfl

namespace IngredientRecord.BuiltFrom

variable {i : Ingredient} {fields : List ResolvedField} {parts : List OptionalParts}
  {r : IngredientRecord}

theorem map_ident_required (h : r.BuiltFrom b cb i fields parts) :
    r.required.map (·.ident) = (i.required.map (·.name)).map b.mapIdentifier := by
  rw [h.required_eq, ← h.map_name_fields, List.map_map, List.map_map]
  rfl

/-- The identifiers of fields have been compared, so the names of fields can be told from their
identifiers. -/
theorem injOn_mapIdentifier (h : r.BuiltFrom b cb i fields parts) {name other : String}
    (hname : name ∈ i.required.map (·.name)) (hother : other ∈ i.required.map (·.name))
    (heq : b.mapIdentifier name = b.mapIdentifier other) : name = other := by
  have hidents : (r.required.map (·.ident)).Nodup := h.fields_nodup.of_append_left
  rw [h.map_ident_required] at hidents
  exact List.inj_on_of_nodup_map hidents hname hother heq

theorem mem_required_of_mem_params (h : r.BuiltFrom b cb i fields parts) {init : Initializer}
    (hinit : init ∈ i.initializers) {p : String} (hp : p ∈ init.params) :
    p ∈ i.required.map (·.name) := by
  obtain ⟨q, hq, rfl⟩ := h.exists_required_param init hinit p hp
  exact List.mem_map_of_mem hq

/-- A field is a parameter as often as it is listed. -/
theorem count_ident_params (h : r.BuiltFrom b cb i fields parts) {init : Initializer}
    (hinit : init ∈ i.initializers) {name : String} (hname : name ∈ i.required.map (·.name)) :
    (init.params.map b.mapIdentifier).count (b.mapIdentifier name) = init.params.count name := by
  rw [List.count_eq_countP, List.countP_map, List.count_eq_countP]
  refine List.countP_congr fun p hp ↦ ?_
  have hparam := h.mem_required_of_mem_params hinit hp
  simp only [Function.comp_apply, beq_iff_eq]
  exact ⟨h.injOn_mapIdentifier hparam hname, congrArg b.mapIdentifier⟩

theorem nodup_ident_params_iff (h : r.BuiltFrom b cb i fields parts) {init : Initializer}
    (hinit : init ∈ i.initializers) :
    (init.params.map b.mapIdentifier).Nodup ↔ init.params.Nodup := by
  refine ⟨.of_map _, fun hnodup ↦ (List.nodup_map_iff_inj_on hnodup).mpr ?_⟩
  intro p hp q hq heq
  exact h.injOn_mapIdentifier (h.mem_required_of_mem_params hinit hp)
    (h.mem_required_of_mem_params hinit hq) heq

end IngredientRecord.BuiltFrom

/-- **When parameters have distinct names.** Whenever a binding makes records of a cookbook, valid
or not, the record of an initializer has every required field among its parameters as often as the
initializer lists it, and the names of its parameters are distinct if and only if the initializer
lists no field twice. -/
theorem params_nodup_iff_listed_once (b : Binding) (cb : Cookbook) (records : List ArtifactRecord)
    (h : generate b cb = .ok records) :
    List.Forall₂ (fun i r ↦ r.name = i.name ∧
        List.Forall₂ (fun init record ↦
            (∀ f ∈ r.required,
              (record.params.map (·.ident)).count f.ident = init.params.count f.name) ∧
            ((record.params.map (·.ident)).Nodup ↔ init.params.Nodup))
          i.initializers r.initializers)
      cb.ingredients (ingredientRecords records) := by
  refine (ingredientRecords_of_generate h).imp fun i r hr ↦ ?_
  obtain ⟨fields, parts, hbuilt⟩ := exists_builtFrom_of_ingredientRecord hr
  refine ⟨hbuilt.name_eq, ?_⟩
  have hdescribes := describes_of_initializerRecords hbuilt.initializers_of
  refine ((List.forall₂_and_left _ _).mpr ⟨fun init hinit ↦ hinit, hdescribes⟩).imp ?_
  rintro init record ⟨hinit, hrecord⟩
  rw [hrecord.map_ident_params]
  refine ⟨fun f hf ↦ ?_, hbuilt.nodup_ident_params_iff hinit⟩
  rw [hbuilt.required_eq] at hf
  obtain ⟨field, hfield, rfl⟩ := List.mem_map.mp hf
  have hname : field.name ∈ i.required.map (·.name) := by
    rw [← hbuilt.map_name_fields]
    exact List.mem_map_of_mem hfield
  exact hbuilt.count_ident_params hinit hname

/-- Two ways to make toast, of which the second lists the slices twice. -/
def toast : Ingredient where
  name := "Toast"
  required := [⟨"slices", "int", none⟩]
  initializers := [⟨["slices"]⟩, ⟨["slices", "slices"]⟩]

/-- Validity does not keep parameters apart: every language that comes with the tool gets an
initializer with two parameters of one name. -/
theorem params_repeated_toast :
    Cookbook.validate { ingredients := [toast] } = .ok () ∧
      ∀ b ∈ BindingSet.builtin.bindings, ∃ records r first second,
        generate b { ingredients := [toast] } = .ok records ∧ ingredientRecords records = [r] ∧
          r.initializers = [first, second] ∧
          second.params.map (·.ident) = ["slices", "slices"] := by
  refine ⟨rfl, fun b hb ↦ ?_⟩
  have hbuiltin : BindingSet.builtin.bindings = [.java, .kotlin, .typescript, .python] := rfl
  rw [hbuiltin] at hb
  simp only [List.mem_cons, List.not_mem_nil, or_false] at hb
  rcases hb with rfl | rfl | rfl | rfl
  all_goals exact ⟨_, _, _, _, rfl, rfl, rfl, rfl⟩

/-- The initializer that lists the slices once has a parameter for them, the other has two of one
name. -/
theorem params_nodup_iff_listed_once_toast :
    ∃ records r first second, generate .java { ingredients := [toast] } = .ok records ∧
      ingredientRecords records = [r] ∧ r.initializers = [first, second] ∧
      ((first.params.map (·.ident)).Nodup ↔ ["slices"].Nodup) ∧
      ((second.params.map (·.ident)).Nodup ↔ ["slices", "slices"].Nodup) := by
  have hall := params_nodup_iff_listed_once .java { ingredients := [toast] } _ rfl
  obtain ⟨⟨-, hinits⟩, -⟩ := List.forall₂_cons.mp hall
  obtain ⟨hfirst, hrest⟩ := List.forall₂_cons.mp hinits
  obtain ⟨hsecond, -⟩ := List.forall₂_cons.mp hrest
  exact ⟨_, _, _, _, rfl, rfl, rfl, hfirst.2, hsecond.2⟩

end Cookery
