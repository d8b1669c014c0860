import Cookery.Proofs.Validity
import Cookery.Record.Generate

/-!
# How records are put together

`generate` and the functions below it are sequences of steps that may fail. Where one of them
succeeds, all its steps have succeeded and its result is made of theirs. That is said here once for
each function. Nothing is assumed of the cookbook or of the binding: what a record tells about its
cookbook, it tells because it exists.

The lemmas go from the leaves up, and each speaks of the results of the steps directly below it, so
that a proof about records takes them apart only as far as it has to.
-/

namespace Cookery

variable {b : Binding} {cb : Cookbook} {ingredient : String}

/-! ## Required fields -/

theorem ResolvedField.ofRequired_eq_ok_iff {r : Required} {f : ResolvedField} :
    ResolvedField.ofRequired b cb ingredient r = .ok f ↔
      f.name = r.name ∧ ParamType.parse? cb r.type = some f.type ∧
        Option.Rel (fun v text ↦ b.mapValue cb f.type v = .ok text) r.default f.default := by
  rw [ofRequired, bind_eq_ok_iff]
  constructor
  · rintro ⟨type, htype, h⟩
    obtain ⟨default, hdefault, h⟩ := bind_eq_ok_iff.mp h
    obtain rfl := Except.ok.inj h
    exact ⟨rfl, Cookbook.resolve_eq_ok_iff.mp htype, optionMapM_eq_ok_iff.mp hdefault⟩
  · obtain ⟨name, type, default⟩ := f
    rintro ⟨rfl, htype, hdefault⟩
    refine ⟨type, Cookbook.resolve_eq_ok_iff.mpr htype, bind_eq_ok_iff.mpr ⟨default, ?_, rfl⟩⟩
    exact optionMapM_eq_ok_iff.mpr hdefault

/-! ## Initializers -/

section Initializers

variable {fields : List ResolvedField} {init : Initializer} {index : Nat}

/-- The parameters of an initializer are looked up among the fields, first match first. -/
theorem initializerFields_eq_ok_iff {taken : List ResolvedField} :
    initializerFields ingredient fields init index = .ok taken ↔
      List.Forall₂ (fun p f ↦ fields.find? (·.name == p) = some f) init.params taken := by
  rw [initializerFields]
  refine mapM_eq_ok_iff_forall₂ fun p f ↦ ?_
  cases fields.find? (·.name == p) with
  | none => exact ⟨fun h ↦ (nomatch h), fun h ↦ nomatch h⟩
  | some g =>
    exact ⟨fun h ↦ congrArg some (Except.ok.inj h), fun h ↦ congrArg _ (Option.some.inj h)⟩

/-- Exactly the fields that an initializer does not take are assigned, from their defaults. -/
theorem defaultAssignments_eq_ok_iff {assignments : List AssignmentRecord} :
    defaultAssignments b ingredient fields init index = .ok assignments ↔
      List.Forall₂ (fun f a ↦ f.default = some a.value ∧ a.field = f.name ∧
          a.ident = b.mapIdentifier f.name)
        (fields.filter fun f ↦ !init.params.contains f.name) assignments := by
  rw [defaultAssignments]
  refine mapM_eq_ok_iff_forall₂ fun f a ↦ ?_
  cases f.default with
  | none => exact ⟨fun h ↦ (nomatch h), fun h ↦ nomatch h.1⟩
  | some value =>
    constructor
    · intro h
      rw [← Except.ok.inj h]
      exact ⟨rfl, rfl, rfl⟩
    · rintro ⟨hvalue, hfield, hident⟩
      rw [Option.some.inj hvalue, ← hident, ← hfield]

/-- What the record of an initializer says of it. Whether a vararg is taken as an array depends on
the other initializers, and is left open here. -/
structure InitializerRecord.Describes (b : Binding) (fields : List ResolvedField)
    (init : Initializer) (r : InitializerRecord) : Prop where
  exists_taken : ∃ taken arrayForm,
    List.Forall₂ (fun p f ↦ fields.find? (·.name == p) = some f) init.params taken ∧
      r.params = taken.map (initializerParam b arrayForm)
  defaults : List.Forall₂ (fun f a ↦ f.default = some a.value ∧ a.field = f.name ∧
      a.ident = b.mapIdentifier f.name)
    (fields.filter fun f ↦ !init.params.contains f.name) r.defaults

/-- The fields that the initializers take are looked up first, all of them, and then each record is
made of an initializer, its position and what it takes. -/
theorem initializerRecords_eq_ok_iff {initializers : List Initializer}
    {records : List InitializerRecord} :
    initializerRecords b ingredient fields initializers = .ok records ↔ ∃ taken,
      List.Forall₂ (fun init fs ↦ List.Forall₂ (fun p f ↦
        fields.find? (·.name == p) = some f) init.params fs) initializers taken ∧
      List.Forall₂ (fun x r ↦ initializerRecord b ingredient fields (taken.map erasedSignature)
        x.1.1 x.2 x.1.2 = .ok r) (initializers.zip taken).zipIdx records := by
  rw [initializerRecords, bind_eq_ok_iff]
  refine exists_congr fun taken ↦ and_congr ?_ mapM_eq_ok_iff
  rw [mapM_eq_ok_iff_forall₂ fun _ _ ↦ initializerFields_eq_ok_iff]
  conv_rhs => rw [← List.zipIdx_map_fst 0 initializers, List.forall₂_map_left_iff]

theorem describes_of_initializerRecords {initializers : List Initializer}
    {records : List InitializerRecord}
    (h : initializerRecords b ingredient fields initializers = .ok records) :
    List.Forall₂ (InitializerRecord.Describes b fields) initializers records := by
  obtain ⟨taken, htaken, hrecords⟩ := initializerRecords_eq_ok_iff.mp h
  -- The walk that makes the records goes over the initializers with what they take, so each record
  -- is made of one of these pairs.
  have hpairs : List.Forall₂ (fun x r ↦ ∃ index, initializerRecord b ingredient fields
      (taken.map erasedSignature) x.1 index x.2 = .ok r) (initializers.zip taken) records :=
    forall₂_of_zipIdx (hrecords.imp fun x _ hx ↦ ⟨x.2, hx⟩)
  have hdescribes : List.Forall₂ (fun x r ↦ InitializerRecord.Describes b fields x.1 r)
      (initializers.zip taken) records := by
    have hlooked : ∀ x ∈ initializers.zip taken, List.Forall₂ (fun p f ↦
        fields.find? (·.name == p) = some f) x.1.params x.2 :=
      fun x hx ↦ List.forall₂_zip htaken hx
    refine ((List.forall₂_and_left _ _).mpr ⟨hlooked, hpairs⟩).imp fun x r hx ↦ ?_
    obtain ⟨hfields, index, hrecord⟩ := hx
    obtain ⟨assignments, hassignments, hrecord⟩ := bind_eq_ok_iff.mp hrecord
    obtain rfl := Except.ok.inj hrecord
    exact ⟨⟨x.2, _, hfields, rfl⟩, defaultAssignments_eq_ok_iff.mp hassignments⟩
  rwa [← List.map_fst_zip (Nat.le_of_eq htaken.length_eq), List.forall₂_map_left_iff]

/-- The parameters and the signature of a record depend on the fields that its initializer takes,
and on which types the others take. -/
theorem exists_taken_of_initializerRecords {initializers : List Initializer}
    {records : List InitializerRecord}
    (h : initializerRecords b ingredient fields initializers = .ok records) : ∃ taken,
      List.Forall₂ (fun init fs ↦ List.Forall₂ (fun p f ↦
        fields.find? (·.name == p) = some f) init.params fs) initializers taken ∧
      List.Forall₂ (fun x r ↦ r.params = x.1.map (initializerParam b
          (takesArray ((taken.map erasedSignature).eraseIdx x.2) x.1)) ∧
        r.signature = renderSignature (x.1.map (·.type))) taken.zipIdx records := by
  obtain ⟨taken, htaken, hrecords⟩ := initializerRecords_eq_ok_iff.mp h
  refine ⟨taken, htaken, ?_⟩
  have hsnd : taken.zipIdx = (initializers.zip taken).zipIdx.map fun x ↦ (x.1.2, x.2) := by
    conv_lhs => rw [← List.map_snd_zip (Nat.le_of_eq htaken.length_eq.symm), List.zipIdx_map]
    rfl
  rw [hsnd, List.forall₂_map_left_iff]
  refine hrecords.imp fun x r hx ↦ ?_
  obtain ⟨assignments, -, hrecord⟩ := bind_eq_ok_iff.mp hx
  rw [← Except.ok.inj hrecord]
  exact ⟨rfl, rfl⟩

end Initializers

/-! ## Optional fields -/

namespace OptionalField

variable {o : OptionalField}

theorem shape?_eq_simple_iff {type : String} :
    o.shape? = some (.simple type) ↔ o.type = some type ∧ o.params = none := by
  refine ⟨fun h ↦ ?_, fun h ↦ shape?_eq_simple h.1 h.2⟩
  rw [shape?] at h
  cases htype : o.type <;> cases hparams : o.params <;> rw [htype, hparams] at h
  case some.none => exact ⟨congrArg some (Shape.simple.inj (Option.some.inj h)), rfl⟩
  all_goals cases h

theorem shape?_eq_compound_iff {params : List Param} :
    o.shape? = some (.compound params) ↔ o.type = none ∧ o.params = some params := by
  refine ⟨fun h ↦ ?_, fun h ↦ shape?_eq_compound h.1 h.2⟩
  rw [shape?] at h
  cases htype : o.type <;> cases hparams : o.params <;> rw [htype, hparams] at h
  case none.some => exact ⟨rfl, congrArg some (Shape.compound.inj (Option.some.inj h))⟩
  all_goals cases h

end OptionalField

/-- An optional field that can be mapped holds one value of a readable type, or a group that is not
empty and whose members have readable types and distinct names. -/
theorem optionalParts_cases {o : OptionalField} {parts : OptionalParts}
    (h : optionalParts b cb ingredient o = .ok parts) :
    (∃ type t, o.shape? = some (.simple type) ∧ ParamType.parse? cb type = some t ∧
        parts = simpleParts b o t) ∨
      ∃ params first rest c, o.shape? = some (.compound params) ∧
        List.Forall₂ (fun p t ↦ ParamType.parse? cb p.type = some t) params (first :: rest) ∧
        c = compoundRecord b o.name (params.zip (first :: rest)) ∧
        (c.fields.map (·.ident)).Nodup ∧ (c.accessors.map (·.name)).Nodup ∧
        parts = compoundParts b o first c := by
  rw [optionalParts] at h
  cases hshape : o.shape? with
  | none =>
    rw [hshape] at h
    exact nomatch h
  | some shape =>
    rw [hshape] at h
    cases shape with
    | simple type =>
      obtain ⟨t, ht, h⟩ := bind_eq_ok_iff.mp h
      exact .inl ⟨type, t, rfl, Cookbook.resolve_eq_ok_iff.mp ht, (Except.ok.inj h).symm⟩
    | compound params =>
      obtain ⟨types, htypes, h⟩ := bind_eq_ok_iff.mp h
      cases types with
      | nil => exact nomatch h
      | cons first rest =>
        obtain ⟨hfields, h⟩ := seq_eq_ok_iff.mp h
        obtain ⟨haccessors, h⟩ := seq_eq_ok_iff.mp h
        exact .inr ⟨params, first, rest, _, rfl, Cookbook.groupTypes_eq_ok_iff.mp htypes, rfl,
          ensureDistinct_eq_ok_iff.mp hfields, ensureDistinct_eq_ok_iff.mp haccessors,
          (Except.ok.inj h).symm⟩

/-! ## Constants and members -/

theorem constantRecord_eq_ok_iff {value : String} {r : ConstantRecord} :
    constantRecord b cb value = .ok r ↔
      b.mapValue cb .string (.string value) = .ok r.literal ∧ r.value = value ∧
        r.ident = b.mapIdentifier (upperSnakeCase (sanitize value)) := by
  rw [constantRecord, bind_eq_ok_iff]
  constructor
  · rintro ⟨literal, hliteral, h⟩
    obtain rfl := Except.ok.inj h
    exact ⟨hliteral, rfl, rfl⟩
  · rintro ⟨hliteral, rfl, hident⟩
    exact ⟨r.literal, hliteral, by rw [← hident]; rfl⟩

theorem memberRecord_eq_ok_iff {enumName value : String} {m : MemberRecord} :
    memberRecord b cb enumName value = .ok m ↔
      b.mapValue cb (.enumRef enumName) (.string value) = .ok m.literal ∧ m.value = value ∧
        m.ident = b.mapEnumMember value := by
  rw [memberRecord, bind_eq_ok_iff]
  constructor
  · rintro ⟨literal, hliteral, h⟩
    obtain rfl := Except.ok.inj h
    exact ⟨hliteral, rfl, rfl⟩
  · rintro ⟨hliteral, rfl, hident⟩
    exact ⟨m.literal, hliteral, by rw [← hident]; rfl⟩

/-! ## Whole records -/

/-- The record of an ingredient, put together from its fields and the parts of its optional fields.
The four lists of names have been found free of duplicates. -/
structure IngredientRecord.BuiltFrom (b : Binding) (cb : Cookbook) (i : Ingredient)
    (fields : List ResolvedField) (parts : List OptionalParts) (r : IngredientRecord) : Prop where
  fields_of : List.Forall₂ (fun q f ↦ ResolvedField.ofRequired b cb i.name q = .ok f)
    i.required fields
  parts_of : List.Forall₂ (fun o p ↦ optionalParts b cb i.name o = .ok p) i.optionals parts
  constants_of : List.Forall₂ (fun v k ↦ constantRecord b cb v = .ok k) i.keyConstants
    r.keyConstants
  initializers_of : initializerRecords b i.name fields i.initializers = .ok r.initializers
  binding_eq : r.binding = b.name
  name_eq : r.name = i.name
  ident_eq : r.ident = b.mapIdentifier i.name
  required_eq : r.required = fields.map (·.toRecord b)
  optionals_eq : r.optionals = parts.map (·.setter)
  compounds_eq : r.compounds = parts.filterMap (·.compound)
  accessors_eq : r.accessors = fields.map (·.accessor b) ++ parts.map (·.accessor)
  fields_nodup : (r.required.map (·.ident) ++ r.optionals.map (·.ident)).Nodup
  accessors_nodup : (r.accessors.map (·.name)).Nodup
  compounds_nodup : (r.ident :: r.compounds.map (·.ident)).Nodup
  constants_nodup : (r.keyConstants.map (·.ident)).Nodup

theorem exists_builtFrom_of_ingredientRecord {i : Ingredient} {r : IngredientRecord}
    (h : ingredientRecord b cb i = .ok r) : ∃ fields parts, r.BuiltFrom b cb i fields parts := by
  obtain ⟨fields, hfields, h⟩ := bind_eq_ok_iff.mp h
  obtain ⟨initializers, hinitializers, h⟩ := bind_eq_ok_iff.mp h
  obtain ⟨parts, hparts, h⟩ := bind_eq_ok_iff.mp h
  obtain ⟨hidents, h⟩ := seq_eq_ok_iff.mp h
  obtain ⟨haccessors, h⟩ := seq_eq_ok_iff.mp h
  obtain ⟨hcompounds, h⟩ := seq_eq_ok_iff.mp h
  obtain ⟨constants, hconstants, h⟩ := bind_eq_ok_iff.mp h
  obtain ⟨hkeys, h⟩ := seq_eq_ok_iff.mp h
  obtain rfl := Except.ok.inj h
  refine ⟨fields, parts, ?_⟩
  exact {
    fields_of := mapM_eq_ok_iff.mp hfields
    parts_of := mapM_eq_ok_iff.mp hparts
    constants_of := mapM_eq_ok_iff.mp hconstants
    initializers_of := hinitializers
    binding_eq := rfl
    name_eq := rfl
    ident_eq := rfl
    required_eq := rfl
    optionals_eq := rfl
    compounds_eq := rfl
    accessors_eq := rfl
    fields_nodup := ensureDistinct_eq_ok_iff.mp hidents
    accessors_nodup := ensureDistinct_eq_ok_iff.mp haccessors
    compounds_nodup := ensureDistinct_eq_ok_iff.mp hcompounds
    constants_nodup := ensureDistinct_eq_ok_iff.mp hkeys }

theorem enumRecord_eq_ok_iff {d : EnumDef} {r : EnumRecord} :
    enumRecord b cb d = .ok r ↔
      List.Forall₂ (fun v m ↦ memberRecord b cb d.name v = .ok m) d.values r.members ∧
        (r.members.map (·.ident)).Nodup ∧ r.binding = b.name ∧ r.name = d.name ∧
          r.ident = b.mapIdentifier d.name := by
  rw [enumRecord, bind_eq_ok_iff]
  constructor
  · rintro ⟨members, hmembers, h⟩
    obtain ⟨hidents, h⟩ := seq_eq_ok_iff.mp h
    obtain rfl := Except.ok.inj h
    exact ⟨mapM_eq_ok_iff.mp hmembers, ensureDistinct_eq_ok_iff.mp hidents, rfl, rfl, rfl⟩
  · obtain ⟨binding, name, ident, members⟩ := r
    rintro ⟨hmembers, hidents, rfl, rfl, rfl⟩
    refine ⟨members, mapM_eq_ok_iff.mpr hmembers, seq_eq_ok_iff.mpr ⟨?_, rfl⟩⟩
    exact ensureDistinct_eq_ok_iff.mpr hidents

/-- All records: those of the ingredients, those of the enums, and the index. -/
theorem generate_eq_ok_iff {records : List ArtifactRecord} :
    generate b cb = .ok records ↔ ∃ ingredients enums,
      List.Forall₂ (fun i r ↦ ingredientRecord b cb i = .ok r) cb.ingredients ingredients ∧
      List.Forall₂ (fun d r ↦ enumRecord b cb d = .ok r) cb.enums enums ∧
      records = ingredients.map .ingredient ++ enums.map .enum ++
        [.manifest (manifestRecord b cb)] := by
  rw [generate, bind_eq_ok_iff]
  constructor
  · rintro ⟨ingredients, hingredients, h⟩
    obtain ⟨enums, henums, h⟩ := bind_eq_ok_iff.mp h
    exact ⟨ingredients, enums, mapM_eq_ok_iff.mp hingredients, mapM_eq_ok_iff.mp henums,
      (Except.ok.inj h).symm⟩
  · rintro ⟨ingredients, enums, hingredients, henums, rfl⟩
    exact ⟨ingredients, mapM_eq_ok_iff.mpr hingredients,
      bind_eq_ok_iff.mpr ⟨enums, mapM_eq_ok_iff.mpr henums, rfl⟩⟩

section Membership

variable {records : List ArtifactRecord} (h : generate b cb = .ok records)

include h

theorem length_of_generate :
    records.length = cb.ingredients.length + cb.enums.length + 1 := by
  obtain ⟨ingredients, enums, hingredients, henums, rfl⟩ := generate_eq_ok_iff.mp h
  rw [List.length_append, List.length_append, List.length_map, List.length_map,
    hingredients.length_eq, henums.length_eq, List.length_singleton]

/-- Every ingredient has a record, and there are no other records of ingredients. -/
theorem mem_generate_ingredient :
    (∀ i ∈ cb.ingredients, ∃ r, .ingredient r ∈ records ∧ ingredientRecord b cb i = .ok r) ∧
      ∀ r, .ingredient r ∈ records → ∃ i ∈ cb.ingredients, ingredientRecord b cb i = .ok r := by
  obtain ⟨ingredients, enums, hingredients, -, rfl⟩ := generate_eq_ok_iff.mp h
  obtain ⟨hright, hleft⟩ := exists_mem_of_forall₂ hingredients
  constructor
  · intro i hi
    obtain ⟨r, hr, hir⟩ := hright i hi
    exact ⟨r, by simp [hr], hir⟩
  · intro r hr
    exact hleft r (by simpa using hr)

/-- Every enum has a record, and there are no other records of enums. -/
theorem mem_generate_enum :
    (∀ d ∈ cb.enums, ∃ r, .enum r ∈ records ∧ enumRecord b cb d = .ok r) ∧
      ∀ r, .enum r ∈ records → ∃ d ∈ cb.enums, enumRecord b cb d = .ok r := by
  obtain ⟨ingredients, enums, -, henums, rfl⟩ := generate_eq_ok_iff.mp h
  obtain ⟨hright, hleft⟩ := exists_mem_of_forall₂ henums
  constructor
  · intro d hd
    obtain ⟨r, hr, hdr⟩ := hright d hd
    exact ⟨r, by simp [hr], hdr⟩
  · intro r hr
    exact hleft r (by simpa using hr)

end Membership

end Cookery
