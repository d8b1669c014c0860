import Cookery.Proofs.FieldSupply
import Cookery.Proofs.TypeSpelling

/-!
# How varargs are exposed

An initializer whose last parameter is a vararg can be called without any of the variable arguments.
Such a call has the types of the other parameters, and there may be an initializer for just these
types. Then the languages could not tell which of the two is meant, and the vararg is exposed as an
array instead.

The decision is made for an initializer as a whole, and then all of its parameters are spelled in
the same form. That this concerns the last one only has two reasons of its own: in a valid cookbook
no other parameter is a vararg, and the languages that come with the tool spell all other types in
one way. The comparison is by position, so that an initializer is never compared with itself.
-/

namespace Cookery

/-- An initializer at another position than `index` takes the given types, varargs counted as
arrays. -/
def Ingredient.TakenElsewhere (cb : Cookbook) (i : Ingredient) (index : Nat)
    (signature : List ParamType) : Prop :=
  ∃ x ∈ i.indexedInitializers, x.2 ≠ index ∧
    ∃ types, i.HasSignature cb x.1 types ∧ types.map ParamType.erase = signature

/-- How the record of the initializer at `index` exposes its parameters, whose fields have the given
types. -/
structure InitializerRecord.ExposesVarargs (b : Binding) (cb : Cookbook) (i : Ingredient)
    (init : Initializer) (index : Nat) (types : List ParamType) (record : InitializerRecord) :
    Prop where
  hasSignature : i.HasSignature cb init types
  names_eq : record.params.map (·.name) = init.params
  /-- Only the last parameter can be a vararg. -/
  vararg_last : ∀ p ∈ record.params.dropLast, p.vararg = false
  /-- It is exposed as one if no other initializer takes the types before it, and only then. -/
  last_vararg_iff : ∀ p t, record.params.getLast? = some p → types.getLast? = some t →
    (p.vararg = true ∧ p.type = b.mapType t false ↔
      t.vararg = true ∧ ¬i.TakenElsewhere cb index (types.map ParamType.erase).dropLast)
  /-- Otherwise it is exposed as an array. -/
  last_array : ∀ p t, record.params.getLast? = some p → types.getLast? = some t →
    t.vararg = true → i.TakenElsewhere cb index (types.map ParamType.erase).dropLast →
      p.vararg = false ∧ p.type = b.mapType t true
  /-- A field that is no vararg is not exposed as one. -/
  not_vararg : ∀ x ∈ record.params.zip types, x.2.vararg = false → x.1.vararg = false
  /-- In the languages that come with the tool its type is spelled in one way. -/
  plain_type : b ∈ BindingSet.builtin.bindings → ∀ x ∈ record.params.zip types,
    x.2.vararg = false → ∀ arrayForm, x.1.type = b.mapType x.2 arrayForm
  /-- Without variable arguments, a call of an exposed vararg is no call of another initializer. -/
  apart : ∀ p ∈ record.params, p.vararg = true →
    ¬i.TakenElsewhere cb index (types.map ParamType.erase).dropLast

/-! ## Types of the fields that are taken -/

/-- Field names are distinct, so an initializer has at most one signature. -/
theorem Ingredient.HasSignature.unique {cb : Cookbook} {i : Ingredient}
    (hnames : (i.required.map (·.name)).Nodup) {init : Initializer} {types types' : List ParamType}
    (h : i.HasSignature cb init types) (h' : i.HasSignature cb init types') : types = types' := by
  have hunique : Relator.RightUnique (i.TakesType cb) := fun _ _ _ ↦ TakesType.unique hnames
  exact List.right_unique_forall₂' hunique h h'

/-- What is left when a position is dropped are the entries at the other positions. -/
theorem mem_eraseIdx_map_iff {α β : Type} {f : α → β} {l : List α} {index : Nat} {b : β} :
    b ∈ (l.map f).eraseIdx index ↔ ∃ x ∈ l.zipIdx, x.2 ≠ index ∧ f x.1 = b := by
  rw [List.mem_eraseIdx_iff_getElem?]
  constructor
  · rintro ⟨k, hk, hget⟩
    rw [List.getElem?_map] at hget
    obtain ⟨a, ha, rfl⟩ := Option.map_eq_some_iff.mp hget
    exact ⟨(a, k), List.mk_mem_zipIdx_iff_getElem?.mpr ha, hk, rfl⟩
  · rintro ⟨x, hx, hk, rfl⟩
    refine ⟨x.2, hk, ?_⟩
    rw [List.getElem?_map, List.mk_mem_zipIdx_iff_getElem?.mp hx, Option.map_some]

theorem erasedSignature_eq (fields : List ResolvedField) :
    erasedSignature fields = (fields.map (·.type)).map ParamType.erase := by
  rw [erasedSignature, List.map_map]
  rfl

namespace IngredientRecord.BuiltFrom

variable {b : Binding} {cb : Cookbook} {i : Ingredient} {fields : List ResolvedField}
  {parts : List OptionalParts} {r : IngredientRecord}

/-- The fields that were looked up for an initializer have the types of its signature. -/
theorem hasSignature_of_forall₂ (h : r.BuiltFrom b cb i fields parts) {init : Initializer}
    {taken : List ResolvedField}
    (htaken : List.Forall₂ (fun p f ↦ fields.find? (·.name == p) = some f) init.params taken) :
    i.HasSignature cb init (taken.map (·.type)) := by
  rw [Ingredient.HasSignature, List.forall₂_map_right_iff]
  exact htaken.imp fun _ _ ↦ h.takesType_of_find?

/-- A signature is among those of the others exactly if it is taken elsewhere. -/
theorem mem_eraseIdx_iff_takenElsewhere (h : r.BuiltFrom b cb i fields parts)
    {taken : List (List ResolvedField)}
    (htaken : List.Forall₂ (fun init fs ↦ List.Forall₂ (fun p f ↦
      fields.find? (·.name == p) = some f) init.params fs) i.initializers taken)
    {index : Nat} {signature : List ParamType} :
    signature ∈ (taken.map erasedSignature).eraseIdx index ↔
      i.TakenElsewhere cb index signature := by
  obtain ⟨hright, hleft⟩ := exists_mem_of_forall₂ (forall₂_zipIdx htaken 0)
  rw [mem_eraseIdx_map_iff, Ingredient.TakenElsewhere]
  constructor
  · rintro ⟨y, hy, hindex, rfl⟩
    obtain ⟨x, hx, hlooked, hposition⟩ := hleft y hy
    refine ⟨x, hx, hposition ▸ hindex, y.1.map (·.type), h.hasSignature_of_forall₂ hlooked, ?_⟩
    exact (erasedSignature_eq y.1).symm
  · rintro ⟨x, hx, hindex, types, htypes, rfl⟩
    obtain ⟨y, hy, hlooked, hposition⟩ := hright x hx
    have hsame := htypes.unique h.nodup_required (h.hasSignature_of_forall₂ hlooked)
    refine ⟨y, hy, hposition ▸ hindex, ?_⟩
    rw [erasedSignature_eq, hsame]

end IngredientRecord.BuiltFrom

/-! ## The decision -/

theorem takesArray_eq_true_iff {others : List (List ParamType)} {params : List ResolvedField} :
    takesArray others params = true ↔
      (∃ f, params.getLast? = some f ∧ f.type.vararg = true) ∧
        (erasedSignature params).dropLast ∈ others := by
  rw [takesArray, Bool.and_eq_true, Option.any_eq_true, List.contains_iff_mem]

/-- In a language that comes with the tool, only the spelling of varargs depends on the form. -/
theorem Binding.mapType_eq_of_vararg_eq_false {b : Binding}
    (hb : b ∈ BindingSet.builtin.bindings) {t : ParamType} (ht : t.vararg = false)
    (form form' : Bool) : b.mapType t form = b.mapType t form' := by
  obtain ⟨base, vararg⟩ := t
  obtain rfl : vararg = false := ht
  obtain ⟨s, hs⟩ := exists_mem_builtinStyles hb
  simp only [builtinStyles, List.mem_cons, List.not_mem_nil, or_false, Prod.mk.injEq] at hs
  rcases hs with ⟨rfl, -⟩ | ⟨rfl, -⟩ | ⟨rfl, -⟩ | ⟨rfl, -⟩
  all_goals rfl

/-! ## The records -/

namespace IngredientRecord.BuiltFrom

variable {b : Binding} {cb : Cookbook} {i : Ingredient} {fields : List ResolvedField}
  {parts : List OptionalParts} {r : IngredientRecord}

section Taken

variable {init : Initializer} {taken : List ResolvedField} (h : r.BuiltFrom b cb i fields parts)
  (hlast : ∀ p ∈ init.params.dropLast, ∀ t, i.TakesType cb p t → t.vararg = false)
  (htaken : List.Forall₂ (fun p f ↦ fields.find? (·.name == p) = some f) init.params taken)

include h hlast htaken

/-- Where the parameters before the last one are no varargs, neither are the fields they take. -/
theorem vararg_eq_false_of_mem_dropLast {f : ResolvedField} (hf : f ∈ taken.dropLast) :
    f.type.vararg = false := by
  have htypes := (forall_mem_dropLast_iff_of_forall₂ (h.hasSignature_of_forall₂ htaken)
    fun _ _ _ ↦ Ingredient.TakesType.unique h.nodup_required).mpr hlast
  rw [← List.map_dropLast] at htypes
  exact htypes f.type (List.mem_map_of_mem hf)

theorem getLast?_eq_of_vararg {f : ResolvedField} (hf : f ∈ taken)
    (hvararg : f.type.vararg = true) : taken.getLast? = some f := by
  by_contra hne
  have hbefore := List.mem_dropLast_of_mem_of_ne_getLast? hf (Ne.symm hne)
  rw [h.vararg_eq_false_of_mem_dropLast hlast htaken hbefore] at hvararg
  cases hvararg

/-- The record exposes the last field as decided, and the others as they are. -/
theorem exposesVarargs {index : Nat} {arrayForm : Bool}
    (hform : arrayForm = true ↔ (∃ f, taken.getLast? = some f ∧ f.type.vararg = true) ∧
      i.TakenElsewhere cb index (erasedSignature taken).dropLast)
    {record : InitializerRecord}
    (hrecord : record.params = taken.map (initializerParam b arrayForm)) :
    record.ExposesVarargs b cb i init index (taken.map (·.type)) := by
  -- The parameter at the end of the record stands for the field at the end of what is taken.
  have hend {p : ParamRecord} {t : ParamType} (hp : record.params.getLast? = some p)
      (ht : (taken.map (·.type)).getLast? = some t) :
      ∃ f, taken.getLast? = some f ∧ p = initializerParam b arrayForm f ∧ t = f.type := by
    rw [hrecord, List.getLast?_map] at hp
    obtain ⟨f, hf, rfl⟩ := Option.map_eq_some_iff.mp hp
    rw [List.getLast?_map, hf] at ht
    exact ⟨f, hf, rfl, (Option.some.inj ht).symm⟩
  have hpairs : record.params.zip (taken.map (·.type))
      = taken.map fun f ↦ (initializerParam b arrayForm f, f.type) := by
    rw [hrecord, List.zip_map']
  -- With that field in hand, the decision is about its type and the types before it.
  have hdecision {f : ResolvedField} (hf : taken.getLast? = some f) : arrayForm = true ↔
      f.type.vararg = true ∧
        i.TakenElsewhere cb index ((taken.map (·.type)).map ParamType.erase).dropLast := by
    rw [hform, hf, erasedSignature_eq]
    simp
  constructor
  case hasSignature => exact h.hasSignature_of_forall₂ htaken
  case names_eq =>
    rw [hrecord, List.map_map, ← map_name_of_forall₂ htaken]
    rfl
  case vararg_last =>
    intro p hp
    rw [hrecord, ← List.map_dropLast] at hp
    obtain ⟨f, hf, rfl⟩ := List.mem_map.mp hp
    rw [initializerParam, h.vararg_eq_false_of_mem_dropLast hlast htaken hf, Bool.false_and]
  case last_vararg_iff =>
    intro p t hp ht
    obtain ⟨f, hf, rfl, rfl⟩ := hend hp ht
    have hdecided := hdecision hf
    cases arrayForm with
    | true =>
      have helsewhere := (hdecided.mp rfl).2
      simp only [initializerParam, Bool.not_true, Bool.and_false, Bool.false_eq_true, false_and,
        helsewhere, not_true_eq_false, and_false]
    | false =>
      have hnot := mt hdecided.mpr Bool.false_ne_true
      simp only [initializerParam, Bool.not_false, Bool.and_true, and_true]
      exact ⟨fun hvararg ↦ ⟨hvararg, fun helsewhere ↦ hnot ⟨hvararg, helsewhere⟩⟩, And.left⟩
  case last_array =>
    intro p t hp ht hvararg helsewhere
    obtain ⟨f, hf, rfl, rfl⟩ := hend hp ht
    obtain rfl := (hdecision hf).mpr ⟨hvararg, helsewhere⟩
    exact ⟨Bool.and_false _, rfl⟩
  case not_vararg =>
    intro x hx hvararg
    rw [hpairs] at hx
    obtain ⟨f, -, rfl⟩ := List.mem_map.mp hx
    have hfield : f.type.vararg = false := hvararg
    rw [initializerParam, hfield, Bool.false_and]
  case plain_type =>
    intro hb x hx hvararg form
    rw [hpairs] at hx
    obtain ⟨f, -, rfl⟩ := List.mem_map.mp hx
    exact Binding.mapType_eq_of_vararg_eq_false hb hvararg arrayForm form
  case apart =>
    intro p hp hvararg helsewhere
    rw [hrecord] at hp
    obtain ⟨f, hf, rfl⟩ := List.mem_map.mp hp
    obtain ⟨hfield, hnot⟩ := Bool.and_eq_true_iff.mp hvararg
    -- A vararg is the last field, and about that one the decision was made.
    have hfinal := h.getLast?_eq_of_vararg hlast htaken hf hfield
    rw [(hdecision hfinal).mpr ⟨hfield, helsewhere⟩] at hnot
    cases hnot

end Taken

end IngredientRecord.BuiltFrom

/-- **Varargs are exposed exactly.** When a binding makes records of a valid cookbook, only the last
parameter of an initializer can be a vararg. It is exposed as one if and only if its field is one
and no other initializer of the ingredient takes the types before it; if its field is one and there
is such an initializer, it is exposed as an array. All other parameters are spelled as their fields,
in either form, in the languages that come with the tool. So an initializer with an exposed vararg,
called without variable arguments, is never mistaken for another. -/
theorem varargs_exposed_exactly (b : Binding) (cb : Cookbook) (hvalid : cb.validate = .ok ())
    (records : List ArtifactRecord) (h : generate b cb = .ok records) :
    List.Forall₂ (fun i r ↦ r.name = i.name ∧
        List.Forall₂ (fun x record ↦
            ∃ types, InitializerRecord.ExposesVarargs b cb i x.1 x.2 types record)
          i.indexedInitializers r.initializers)
      cb.ingredients (ingredientRecords records) := by
  have hvarargs : Rule.initializerVarargLast.Holds cb := Rule.holds_of_validate hvalid _
  have hmade := ingredientRecords_of_generate h
  refine ((List.forall₂_and_left _ _).mpr ⟨fun i hi ↦ hi, hmade⟩).imp ?_
  rintro i r ⟨hi, hr⟩
  obtain ⟨fields, parts, hbuilt⟩ := exists_builtFrom_of_ingredientRecord hr
  obtain ⟨taken, htaken, hrecords⟩ := exists_taken_of_initializerRecords hbuilt.initializers_of
  refine ⟨hbuilt.name_eq, ?_⟩
  have hpositions : List.Forall₂ (fun x y ↦ x.1 ∈ i.initializers ∧ List.Forall₂ (fun p f ↦
      fields.find? (·.name == p) = some f) x.1.params y.1 ∧ x.2 = y.2)
      i.indexedInitializers taken.zipIdx :=
    (List.forall₂_and_left _ _).mpr
      ⟨fun x hx ↦ List.fst_mem_of_mem_zipIdx hx, forall₂_zipIdx htaken 0⟩
  refine forall₂_trans hpositions hrecords ?_
  rintro ⟨init, index⟩ ⟨params, _⟩ record ⟨hinit, hparams, rfl⟩ ⟨hrecord, -⟩
  refine ⟨_, hbuilt.exposesVarargs (hvarargs i hi init hinit) hparams ?_ hrecord⟩
  rw [takesArray_eq_true_iff, hbuilt.mem_eraseIdx_iff_takenElsewhere htaken]

/-- A bowl alone, a bowl with extras, and extras alone. -/
def porridge : Ingredient where
  name := "Porridge"
  required := [⟨"bowl", "string", some (.string "wood")⟩, ⟨"extras", "string...", some (.list [])⟩]
  initializers := [⟨["bowl"]⟩, ⟨["bowl", "extras"]⟩, ⟨["extras"]⟩]

/-- A bowl with no extras would be a bowl alone, so the extras beside a bowl are taken as an array;
extras alone stay a vararg. -/
theorem varargs_exposed_exactly_porridge :
    let cb : Cookbook := { ingredients := [porridge] }
    cb.validate = .ok () ∧ ∃ records r first second third, generate .java cb = .ok records ∧
      ingredientRecords records = [r] ∧ r.initializers = [first, second, third] ∧
      (∃ types, second.ExposesVarargs .java cb porridge ⟨["bowl", "extras"]⟩ 1 types) ∧
      second.params = [⟨"bowl", "bowl", "String", false⟩, ⟨"extras", "extras", "String[]", false⟩] ∧
      (∃ types, third.ExposesVarargs .java cb porridge ⟨["extras"]⟩ 2 types) ∧
      third.params = [⟨"extras", "extras", "String...", true⟩] := by
  intro cb
  have hall := varargs_exposed_exactly .java cb rfl _ rfl
  obtain ⟨⟨-, hinits⟩, -⟩ := List.forall₂_cons.mp hall
  obtain ⟨-, hrest⟩ := List.forall₂_cons.mp hinits
  obtain ⟨hsecond, hrest⟩ := List.forall₂_cons.mp hrest
  obtain ⟨hthird, -⟩ := List.forall₂_cons.mp hrest
  exact ⟨rfl, _, _, _, _, _, rfl, rfl, rfl, hsecond, rfl, hthird, rfl⟩

end Cookery
