import Cookery.Cookbook.Json
import Cookery.Proofs.Distinct

/-!
# Cookbooks come back from JSON

Writing a cookbook as JSON leaves out what is missing and renames nothing that decoding does not
know, so decoding gives the cookbook back: with every list, also an empty one, with every default,
and with each number of the kind it had. There is one exception, and it decides the theorem. JSON
has no number for a float that is not finite, and the `null` that is written for it reads as a
missing default, or inside a list as no literal at all. So a cookbook comes back exactly when the
floats in its defaults, at any depth, are finite.

## Exactness by the structure

Every record decodes field by field, and only one kind of field can go wrong, the default of a
required field. The lemmas are therefore equivalences where a default is involved and equations
where none is: a required field comes back exactly when its default does, an ingredient when its
required fields do, a cookbook when its ingredients do.
-/

namespace Cookery

/-! ## Finite literals -/

/-- All floats in a literal are finite, at any depth. -/
inductive Literal.AllFinite : Literal → Prop
  | bool (b : Bool) : AllFinite (.bool b)
  | int (i : Int64) : AllFinite (.int i)
  | float {x : Binary64} (h : x.isFinite = true) : AllFinite (.float x)
  | string (s : String) : AllFinite (.string s)
  | list {items : List Literal} (each : ∀ v ∈ items, AllFinite v) : AllFinite (.list items)

/-- All floats in the defaults of a cookbook are finite. -/
def Cookbook.FiniteDefaults (cb : Cookbook) : Prop :=
  ∀ i ∈ cb.ingredients, ∀ r ∈ i.required, ∀ v, r.default = some v → v.AllFinite

namespace Literal

theorem ofJsonList_eq_mapM (items : List Json) : ofJsonList items = items.mapM ofJson := by
  induction items with
  | nil => rfl
  | cons v vs ih => rw [ofJsonList, List.mapM_cons, ih]

theorem toJsonList_eq_map (items : List Literal) : toJsonList items = items.map toJson := by
  induction items with
  | nil => rfl
  | cons v vs ih => rw [toJsonList, List.map_cons, ih]

/-- An integer literal has 64 bits, so it is not taken for a float. -/
theorem ofInt_toInt (i : Int64) : ofInt i.toInt = .int i := by
  have hlower : Int64.minValue.toInt ≤ i.toInt := i.minValue_le_toInt
  have hupper : i.toInt ≤ Int64.maxValue.toInt := i.toInt_le
  have hfits : (decide (Int64.minValue.toInt ≤ i.toInt) &&
      decide (i.toInt ≤ Int64.maxValue.toInt)) = true := by
    rw [Bool.and_eq_true, decide_eq_true_iff, decide_eq_true_iff]
    exact ⟨hlower, hupper⟩
  rw [ofInt, if_pos hfits, Int64.ofInt_toInt]

/-- A list comes back exactly when its items do. -/
theorem ofJson_toJson_list_iff {items : List Literal} :
    ofJson (toJson (.list items)) = .ok (.list items) ↔
      ∀ v ∈ items, ofJson (toJson v) = .ok v := by
  rw [toJson, ofJson, ofJsonList_eq_mapM, toJsonList_eq_map, bind_eq_ok_iff]
  have hitems : (items.map toJson).mapM ofJson = .ok items ↔
      ∀ v ∈ items, ofJson (toJson v) = .ok v := by
    rw [mapM_eq_ok_iff, List.forall₂_map_left_iff, List.forall₂_same]
  rw [← hitems]
  constructor
  · rintro ⟨decoded, hdecoded, h⟩
    rw [hdecoded, Literal.list.inj (Except.ok.inj h)]
  · intro h
    exact ⟨items, h, rfl⟩

theorem AllFinite.ofJson_toJson {v : Literal} (h : v.AllFinite) : ofJson (toJson v) = .ok v := by
  induction h with
  | bool b => rfl
  | int i => rw [toJson, ofJson, ofInt_toInt]
  | float h => rw [toJson, if_pos h, ofJson]
  | string s => rfl
  | list _ ih => exact ofJson_toJson_list_iff.mpr ih

/-- What is written for a float that is not finite is no literal, wherever it stands. -/
theorem allFinite_of_ofJson_toJson (v : Literal) (h : ofJson (toJson v) = .ok v) :
    v.AllFinite := by
  match v with
  | .bool b => exact .bool b
  | .int i => exact .int i
  | .string s => exact .string s
  | .float x =>
    by_cases hx : x.isFinite = true
    · exact .float hx
    · rw [toJson, if_neg hx] at h
      exact nomatch h
  | .list items =>
    have hitems := ofJson_toJson_list_iff.mp h
    refine .list ?_
    intro v hv
    exact allFinite_of_ofJson_toJson v (hitems v hv)

theorem ofJson_toJson_iff {v : Literal} : ofJson (toJson v) = .ok v ↔ v.AllFinite :=
  ⟨allFinite_of_ofJson_toJson v, AllFinite.ofJson_toJson⟩

end Literal

/-! ## Objects and lists

What is written has the names of the fields as its keys, some of them left out, in the order of the
fields. On such objects the search for unknown and repeated keys finds nothing. -/

namespace Json

theorem fields_obj {names : List String} {aliases : List (String × String)}
    {entries : List (String × Json)} (hnames : names.Nodup)
    (hkeys : (entries.map (·.1)).Sublist names)
    (haliases : ∀ key ∈ names, aliases.lookup key = none) :
    source.fields names aliases (.obj entries) = .ok entries := by
  have hknown : ∀ entry ∈ entries, entry.1 ∈ names := by
    intro entry hentry
    exact hkeys.subset (List.mem_map_of_mem hentry)
  have hnamed : entries.map (fun x ↦ ((aliases.lookup x.1).getD x.1, x.2)) = entries.map id := by
    refine List.map_congr_left ?_
    intro entry hentry
    rw [haliases _ (hknown entry hentry)]
    rfl
  have hdistinct : firstDuplicate? (entries.map (·.1)) = none :=
    firstDuplicate?_eq_none_iff.mpr (hkeys.nodup hnames)
  rw [List.map_id] at hnamed
  unfold Source.fields
  dsimp only [source, Json.entries, bind, Except.bind]
  split
  next key v hfind =>
    have hentry : (key, v) ∈ entries := by
      rw [← hnamed]
      exact List.mem_of_find?_eq_some hfind
    have hunknown := List.find?_some hfind
    exact absurd (hknown _ hentry) (by simpa using hunknown)
  next =>
    split
    next key hrepeated =>
      rw [← hnamed] at hdistinct
      exact nomatch hrepeated.symm.trans hdistinct
    next => exact congrArg Except.ok hnamed

theorem listOf_arr_map_iff {β : Type} {decode : Json → Except DecodeError β} {encode : β → Json}
    {l : List β} :
    source.listOf decode (.arr (l.map encode)) = .ok l ↔ ∀ a ∈ l, decode (encode a) = .ok a := by
  rw [show source.listOf decode (.arr (l.map encode)) = (l.map encode).mapM decode from rfl,
    mapM_eq_ok_iff, List.forall₂_map_left_iff, List.forall₂_same]

theorem listOf_strings (l : List String) : source.listOf source.text (.strings l) = .ok l :=
  listOf_arr_map_iff.mpr fun _ _ ↦ rfl

theorem optionOf_eq_ok_some_iff {β : Type} {decode : Json → Except DecodeError β} {x : Json}
    (hx : x ≠ .null) {b : β} :
    source.optionOf decode x = .ok (some b) ↔ decode x = .ok b := by
  have hpresent : source.present x = .ok (some x) := by
    cases x with
    | null => exact absurd rfl hx
    | bool _ => rfl
    | int _ => rfl
    | float _ => rfl
    | str _ => rfl
    | arr _ => rfl
    | obj _ => rfl
  rw [Source.optionOf, hpresent]
  change (some x).mapM decode = .ok (some b) ↔ _
  rw [optionMapM_eq_ok_iff, Option.rel_some_some]

end Json

/-- A default comes back exactly when its floats are finite: a `null` in the place of the whole
default reads as none, and a `null` inside it cannot be read. -/
theorem Literal.optionOf_toJson_iff {v : Literal} :
    Json.source.optionOf Json.source.literal v.toJson = .ok (some v) ↔ v.AllFinite := by
  by_cases hnull : v.toJson = .null
  · have hlost : Json.source.optionOf Json.source.literal .null = .ok none := rfl
    rw [← ofJson_toJson_iff, hnull, hlost]
    constructor
    · intro h
      cases h
    · intro h
      cases h
  · rw [Json.optionOf_eq_ok_some_iff hnull]
    exact ofJson_toJson_iff

/-! ## Records without defaults -/

theorem EnumDef.decode_toJson (d : EnumDef) : EnumDef.decode Json.source d.toJson = .ok d := by
  have hfields : Json.source.fields ["name", "values"] [] d.toJson
      = .ok [("name", .str d.name), ("values", .strings d.values)] :=
    Json.fields_obj (by decide) (List.Sublist.refl _) fun _ _ ↦ rfl
  refine bind_eq_ok_iff.mpr ⟨_, hfields, bind_eq_ok_iff.mpr ⟨d.name, rfl, ?_⟩⟩
  exact bind_eq_ok_iff.mpr ⟨d.values, Json.listOf_strings d.values, rfl⟩

theorem Param.decode_toJson (p : Param) : Param.decode Json.source p.toJson = .ok p := by
  have hfields : Json.source.fields ["name", "type"] [] p.toJson
      = .ok [("name", .str p.name), ("type", .str p.type)] :=
    Json.fields_obj (by decide) (List.Sublist.refl _) fun _ _ ↦ rfl
  exact bind_eq_ok_iff.mpr ⟨_, hfields, rfl⟩

theorem Initializer.decode_toJson (init : Initializer) :
    Initializer.decode Json.source init.toJson = .ok init := by
  have hfields : Json.source.fields ["params"] [] init.toJson
      = .ok [("params", .strings init.params)] :=
    Json.fields_obj (by decide) (List.Sublist.refl _) fun _ _ ↦ rfl
  refine bind_eq_ok_iff.mpr ⟨_, hfields, ?_⟩
  exact bind_eq_ok_iff.mpr ⟨init.params, Json.listOf_strings init.params, rfl⟩

/-- The keys of what is written: a field that may be left out is, or has its own key. -/
theorem Json.map_fst_field?_sublist (key : String) (v : Option Json) :
    ((Json.field? key v).map (·.1)).Sublist [key] := by
  cases v with
  | none => exact List.nil_sublist _
  | some v => exact List.Sublist.refl _

theorem OptionalField.decode_toJson (o : OptionalField) :
    OptionalField.decode Json.source o.toJson = .ok o := by
  obtain ⟨name, type, params, repeatable⟩ := o
  have hkeys : (([("name", Json.str name)] ++ Json.field? "type" (type.map .str) ++
      Json.field? "params" (params.map fun ps ↦ .arr (ps.map Param.toJson)) ++
      [("repeatable", Json.bool repeatable)]).map (·.1)).Sublist
        ["name", "type", "params", "repeatable"] := by
    rw [List.map_append, List.map_append, List.map_append]
    exact (((List.Sublist.refl ["name"]).append (Json.map_fst_field?_sublist _ _)).append
      (Json.map_fst_field?_sublist _ _)).append (List.Sublist.refl ["repeatable"])
  have hgroup (ps : List Param) : Json.source.optionOf (Json.source.listOf
      (Param.decode Json.source)) (.arr (ps.map Param.toJson)) = .ok (some ps) := by
    rw [Json.optionOf_eq_ok_some_iff (by simp), Json.listOf_arr_map_iff]
    intro p _
    exact p.decode_toJson
  refine bind_eq_ok_iff.mpr ⟨_, Json.fields_obj (by decide) hkeys fun _ _ ↦ rfl, ?_⟩
  refine bind_eq_ok_iff.mpr ⟨name, rfl, bind_eq_ok_iff.mpr ⟨type, ?_, ?_⟩⟩
  · cases type <;> cases params <;> rfl
  refine bind_eq_ok_iff.mpr ⟨params, ?_, ?_⟩
  · cases params with
    | none => cases type <;> rfl
    | some ps => cases type <;> exact hgroup ps
  · cases type <;> cases params <;> rfl

/-! ## Records with defaults -/

/-- A required field comes back exactly when its default does. -/
theorem Required.decode_toJson_iff {r : Required} :
    Required.decode Json.source (r.toJsonWith Literal.toJson) = .ok r ↔
      ∀ v, r.default = some v → v.AllFinite := by
  obtain ⟨name, type, default⟩ := r
  have hkeys : (([("name", Json.str name), ("type", Json.str type)] ++
      Json.field? "default" (default.map Literal.toJson)).map (·.1)).Sublist
        ["name", "type", "default"] := by
    rw [List.map_append]
    exact (List.Sublist.refl ["name", "type"]).append (Json.map_fst_field?_sublist _ _)
  have hfields : Json.source.fields ["name", "type", "default"] [("defaultValue", "default")]
      (toJsonWith Literal.toJson ⟨name, type, default⟩) = .ok _ :=
    Json.fields_obj (by decide) hkeys (by decide)
  rw [decode, hfields]
  cases default with
  | none =>
    refine ⟨fun _ v hv ↦ ?_, fun _ ↦ rfl⟩
    cases hv
  | some v =>
    -- The key of the default is there, so what is left to decode is the default itself.
    have hdefault : (∀ u, some v = some u → u.AllFinite) ↔ v.AllFinite := by simp
    rw [hdefault, ← Literal.optionOf_toJson_iff]
    constructor
    · intro h
      obtain ⟨_, ⟨⟩, h⟩ := bind_eq_ok_iff.mp h
      obtain ⟨_, -, h⟩ := bind_eq_ok_iff.mp h
      obtain ⟨_, -, h⟩ := bind_eq_ok_iff.mp h
      obtain ⟨decoded, hdecoded, h⟩ := bind_eq_ok_iff.mp h
      have hsame : decoded = some v := congrArg Required.default (Except.ok.inj h)
      rw [hsame] at hdecoded
      exact hdecoded
    · intro h
      refine bind_eq_ok_iff.mpr ⟨_, rfl, bind_eq_ok_iff.mpr ⟨name, rfl, ?_⟩⟩
      exact bind_eq_ok_iff.mpr ⟨type, rfl, bind_eq_ok_iff.mpr ⟨some v, h, rfl⟩⟩

/-- An ingredient comes back exactly when its required fields do. -/
theorem Ingredient.decode_toJson_iff {i : Ingredient} :
    Ingredient.decode Json.source (i.toJsonWith Literal.toJson) = .ok i ↔
      ∀ r ∈ i.required, Required.decode Json.source (r.toJsonWith Literal.toJson) = .ok r := by
  have hfields : Json.source.fields ["name", "keyed", "required", "initializers", "optionals",
      "keyConstants"] [] (i.toJsonWith Literal.toJson) = .ok _ :=
    Json.fields_obj (by decide) (List.Sublist.refl _) fun _ _ ↦ rfl
  rw [← Json.listOf_arr_map_iff, decode, hfields]
  constructor
  · intro h
    obtain ⟨_, ⟨⟩, h⟩ := bind_eq_ok_iff.mp h
    obtain ⟨_, -, h⟩ := bind_eq_ok_iff.mp h
    obtain ⟨_, -, h⟩ := bind_eq_ok_iff.mp h
    obtain ⟨required, hrequired, h⟩ := bind_eq_ok_iff.mp h
    obtain ⟨_, -, h⟩ := bind_eq_ok_iff.mp h
    obtain ⟨_, -, h⟩ := bind_eq_ok_iff.mp h
    obtain ⟨_, -, h⟩ := bind_eq_ok_iff.mp h
    have hsame : required = i.required := congrArg Ingredient.required (Except.ok.inj h)
    rw [hsame] at hrequired
    exact hrequired
  · intro h
    have hinitializers : Json.source.listOf (Initializer.decode Json.source)
        (.arr (i.initializers.map Initializer.toJson)) = .ok i.initializers :=
      Json.listOf_arr_map_iff.mpr fun init _ ↦ init.decode_toJson
    have hoptionals : Json.source.listOf (OptionalField.decode Json.source)
        (.arr (i.optionals.map OptionalField.toJson)) = .ok i.optionals :=
      Json.listOf_arr_map_iff.mpr fun o _ ↦ o.decode_toJson
    refine bind_eq_ok_iff.mpr ⟨_, rfl, bind_eq_ok_iff.mpr ⟨i.name, rfl, ?_⟩⟩
    refine bind_eq_ok_iff.mpr ⟨i.keyed, rfl, bind_eq_ok_iff.mpr ⟨i.required, h, ?_⟩⟩
    refine bind_eq_ok_iff.mpr ⟨i.initializers, hinitializers, ?_⟩
    refine bind_eq_ok_iff.mpr ⟨i.optionals, hoptionals, ?_⟩
    exact bind_eq_ok_iff.mpr ⟨i.keyConstants, Json.listOf_strings i.keyConstants, rfl⟩

/-- A cookbook comes back exactly when its ingredients do. -/
theorem Cookbook.decode_toJson_iff {cb : Cookbook} :
    Cookbook.ofJson cb.toJson = .ok cb ↔ ∀ i ∈ cb.ingredients,
      Ingredient.decode Json.source (i.toJsonWith Literal.toJson) = .ok i := by
  have hfields : Json.source.fields ["domain", "ingredients", "enums"] [] cb.toJson = .ok _ :=
    Json.fields_obj (by decide) (List.Sublist.refl _) fun _ _ ↦ rfl
  rw [← Json.listOf_arr_map_iff, ofJson, decode, hfields]
  constructor
  · intro h
    obtain ⟨_, ⟨⟩, h⟩ := bind_eq_ok_iff.mp h
    obtain ⟨_, -, h⟩ := bind_eq_ok_iff.mp h
    obtain ⟨ingredients, hingredients, h⟩ := bind_eq_ok_iff.mp h
    obtain ⟨_, -, h⟩ := bind_eq_ok_iff.mp h
    have hsame : ingredients = cb.ingredients :=
      congrArg Cookbook.ingredients (Except.ok.inj h)
    rw [hsame] at hingredients
    exact hingredients
  · intro h
    have henums : Json.source.listOf (EnumDef.decode Json.source)
        (.arr (cb.enums.map EnumDef.toJson)) = .ok cb.enums :=
      Json.listOf_arr_map_iff.mpr fun d _ ↦ d.decode_toJson
    refine bind_eq_ok_iff.mpr ⟨_, rfl, bind_eq_ok_iff.mpr ⟨cb.domain, rfl, ?_⟩⟩
    refine bind_eq_ok_iff.mpr ⟨cb.ingredients, h, ?_⟩
    exact bind_eq_ok_iff.mpr ⟨cb.enums, henums, rfl⟩

/-- **Decoding undoes encoding.** Whether it is valid or not, a cookbook comes back from its JSON
value, exactly as it was, if all floats in its defaults are finite; and only then. -/
theorem Cookbook.ofJson_toJson_iff_finiteDefaults (cb : Cookbook) :
    Cookbook.ofJson cb.toJson = .ok cb ↔ cb.FiniteDefaults := by
  rw [decode_toJson_iff, FiniteDefaults]
  refine forall₂_congr fun i _ ↦ ?_
  rw [Ingredient.decode_toJson_iff]
  exact forall₂_congr fun r _ ↦ Required.decode_toJson_iff

/-- A whole float, an empty list and an empty group keep their kinds; an infinite default is
lost. -/
example :
    let cook (v : Literal) : Cookbook := { ingredients := [{
      name := "Boil", required := [⟨"water", "float", some v⟩]
      optionals := [.compound "serve" [] false] }] }
    Cookbook.ofJson (cook (.list [.float ⟨0x3FF0000000000000⟩, .int 1, .list []])).toJson
        = .ok (cook (.list [.float ⟨0x3FF0000000000000⟩, .int 1, .list []])) ∧
      Cookbook.ofJson (cook (.float (.infinity false))).toJson
        ≠ .ok (cook (.float (.infinity false))) := by
  constructor
  · rfl
  · intro h
    cases h

end Cookery
