import Cookery.Proofs.LegalIdentifiers
import Cookery.Proofs.Places

/-!
# No reserved word in the output

Identifiers stand in the records at many places, and they are made of names in several ways: as they
are, capitalized for the type of a group, in capitals for a key, sanitized for a member. Any of
these can turn a harmless name into a reserved word. The last step is always the same, though:
whatever stands at a place of an identifier is the image of some name under `mapIdentifier`, and
whatever stands at a place of a getter is the image of some field under `mapAccessorName`. A place
at which that step was left out would show here.

## The two tables

Both steps are escapes: a word of the table is marked, and every other word is kept. So neither has
a word of its table as image, provided that no marked word is in the table again. That is checked
for the tables of each language.
-/

namespace Cookery

/-! ## Places of identifiers and getters -/

/-- The places of the record of an ingredient at which an identifier stands. -/
inductive IngredientRecord.IdentAt (r : IngredientRecord) : String → Prop
  | type : IdentAt r r.ident
  | keyConstant {k : ConstantRecord} (h : k ∈ r.keyConstants) : IdentAt r k.ident
  | field {f : FieldRecord} (h : f ∈ r.required) : IdentAt r f.ident
  | param {init : InitializerRecord} {p : ParamRecord} (h : init ∈ r.initializers)
      (hp : p ∈ init.params) : IdentAt r p.ident
  | assignment {init : InitializerRecord} {a : AssignmentRecord} (h : init ∈ r.initializers)
      (ha : a ∈ init.defaults) : IdentAt r a.ident
  | setter {o : OptionalRecord} (h : o ∈ r.optionals) : IdentAt r o.ident
  | setterParam {o : OptionalRecord} {p : ParamRecord} (h : o ∈ r.optionals) (hp : p ∈ o.params) :
      IdentAt r p.ident
  | setterGroup {o : OptionalRecord} {ident : String} (h : o ∈ r.optionals)
      (hgroup : o.compound = some ident) : IdentAt r ident
  | group {c : CompoundRecord} (h : c ∈ r.compounds) : IdentAt r c.ident
  | member {c : CompoundRecord} {p : ParamRecord} (h : c ∈ r.compounds) (hp : p ∈ c.fields) :
      IdentAt r p.ident

/-- The places of the record of an ingredient at which the name of a getter stands. -/
inductive IngredientRecord.AccessorAt (r : IngredientRecord) : String → Prop
  | field {a : AccessorRecord} (h : a ∈ r.accessors) : AccessorAt r a.name
  | member {c : CompoundRecord} {a : AccessorRecord} (h : c ∈ r.compounds) (ha : a ∈ c.accessors) :
      AccessorAt r a.name

namespace ArtifactRecord

/-- The places of a record at which an identifier stands. An index has none. -/
inductive IdentAt : ArtifactRecord → String → Prop
  | ingredient {r : IngredientRecord} {ident : String} (h : r.IdentAt ident) :
      IdentAt (.ingredient r) ident
  | enum (r : EnumRecord) : IdentAt (.enum r) r.ident
  | enumMember {r : EnumRecord} {m : MemberRecord} (h : m ∈ r.members) : IdentAt (.enum r) m.ident

/-- The places of a record at which the name of a getter stands. -/
inductive AccessorAt : ArtifactRecord → String → Prop
  | ingredient {r : IngredientRecord} {name : String} (h : r.AccessorAt name) :
      AccessorAt (.ingredient r) name

end ArtifactRecord

/-! ## Escaped names -/

namespace Binding

/-- The identifier is made of some name. -/
def MakesIdent (b : Binding) (ident : String) : Prop :=
  ∃ name, ident = b.mapIdentifier name

/-- The getter is made for some field. -/
def MakesAccessor (b : Binding) (accessor : String) : Prop :=
  ∃ field t compound, accessor = b.mapAccessorName field t compound

variable {b : Binding}

theorem MakesIdent.notMem_reserved (hb : b ∈ BindingSet.builtin.bindings) {ident : String}
    (h : b.MakesIdent ident) : ident ∉ b.reserved := by
  obtain ⟨name, rfl⟩ := h
  exact mapIdentifier_notMem_reserved hb name

/-- Avoiding an inherited getter is escaping by an underscore at the end. -/
theorem mapAccessorName_eq (hb : b ∈ BindingSet.builtin.bindings) (field : String) (t : ParamType)
    (compound : Bool) :
    b.mapAccessorName field t compound = escapeReserved b.inheritedAccessors (· ++ "_")
      (b.accessorName (!compound && t.isBooleanLike) field) := by
  rcases BindingSet.mem_builtin_iff.mp hb with rfl | rfl | rfl | rfl <;> rfl

theorem MakesAccessor.notMem_inherited (hb : b ∈ BindingSet.builtin.bindings) {accessor : String}
    (h : b.MakesAccessor accessor) : accessor ∉ b.inheritedAccessors := by
  have htable : BindingSet.builtin.bindings.all (fun c ↦ c.inheritedAccessors.all fun word ↦
      !c.inheritedAccessors.contains (word ++ "_")) = true := by decide +kernel
  obtain ⟨field, t, compound, rfl⟩ := h
  rw [mapAccessorName_eq hb]
  refine escapeReserved_notMem (fun word hword ↦ ?_) _
  have hmarked := List.all_eq_true.mp (List.all_eq_true.mp htable b hb) word hword
  rwa [Bool.not_eq_true', ← Bool.not_eq_true, List.contains_iff_mem] at hmarked

end Binding

/-! ## Every place is mapped -/

variable {b : Binding} {cb : Cookbook}

/-- All names in the parts of an optional field have been mapped. -/
structure OptionalParts.Mapped (b : Binding) (parts : OptionalParts) : Prop where
  setter : b.MakesIdent parts.setter.ident
  setterParam : ∀ p ∈ parts.setter.params, b.MakesIdent p.ident
  setterGroup : ∀ ident, parts.setter.compound = some ident → b.MakesIdent ident
  accessor : b.MakesAccessor parts.accessor.name

theorem makesIdent_compoundRecord (optional : String) (members : List (Param × ParamType)) :
    b.MakesIdent (compoundRecord b optional members).ident ∧
      ∀ p ∈ (compoundRecord b optional members).fields, b.MakesIdent p.ident := by
  refine ⟨⟨capitalize optional, rfl⟩, fun p hp ↦ ?_⟩
  obtain ⟨x, -, rfl⟩ := List.mem_map.mp hp
  exact ⟨x.1.name, rfl⟩

theorem makesAccessor_compoundRecord (optional : String) (members : List (Param × ParamType)) :
    ∀ a ∈ (compoundRecord b optional members).accessors, b.MakesAccessor a.name := by
  intro a ha
  obtain ⟨x, -, rfl⟩ := List.mem_map.mp ha
  exact ⟨x.1.name, x.2, true, rfl⟩

theorem mapped_of_optionalParts {ingredient : String} {o : OptionalField} {parts : OptionalParts}
    (h : optionalParts b cb ingredient o = .ok parts) : parts.Mapped b := by
  rcases optionalParts_cases h with ⟨type, t, -, -, rfl⟩ |
    ⟨params, first, rest, c, -, -, rfl, -, -, rfl⟩
  · refine ⟨⟨o.name, rfl⟩, fun p hp ↦ ?_, fun ident hident ↦ ?_, ⟨o.name, t, false, rfl⟩⟩
    · rw [simpleParts] at hp
      split at hp
      · cases hp
      · rw [List.mem_singleton.mp hp]
        exact ⟨o.name, rfl⟩
    · cases hident
  · obtain ⟨hident, hfields⟩ := makesIdent_compoundRecord o.name (params.zip (first :: rest))
    refine ⟨⟨o.name, rfl⟩, hfields, fun ident heq ↦ ?_, ⟨o.name, first, true, rfl⟩⟩
    rwa [← Option.some.inj heq]

namespace IngredientRecord.BuiltFrom

variable {i : Ingredient} {fields : List ResolvedField} {parts : List OptionalParts}
  {r : IngredientRecord}

theorem exists_mapped_setter (h : r.BuiltFrom b cb i fields parts) {o : OptionalRecord}
    (ho : o ∈ r.optionals) : ∃ part : OptionalParts, part.Mapped b ∧ part.setter = o := by
  rw [h.optionals_eq] at ho
  obtain ⟨part, hpart, rfl⟩ := List.mem_map.mp ho
  obtain ⟨o, -, hparts⟩ := h.exists_optional hpart
  exact ⟨part, mapped_of_optionalParts hparts, rfl⟩

/-- Every identifier in the record of an ingredient is made by the binding. -/
theorem makesIdent_of_identAt (h : r.BuiltFrom b cb i fields parts) {ident : String}
    (hat : r.IdentAt ident) : b.MakesIdent ident := by
  cases hat with
  | type => exact ⟨i.name, h.ident_eq⟩
  | keyConstant hk =>
    obtain ⟨value, -, hconstant⟩ := (exists_mem_of_forall₂ h.constants_of).2 _ hk
    obtain ⟨-, -, hident⟩ := constantRecord_eq_ok_iff.mp hconstant
    exact ⟨upperSnakeCase (sanitize value), hident⟩
  | field hf =>
    rw [h.required_eq] at hf
    obtain ⟨g, -, rfl⟩ := List.mem_map.mp hf
    exact ⟨g.name, rfl⟩
  | param hinit hp =>
    obtain ⟨source, -, hsource⟩ := h.exists_initializer hinit
    obtain ⟨taken, form, -, hparams⟩ := hsource.exists_taken
    rw [hparams] at hp
    obtain ⟨g, -, rfl⟩ := List.mem_map.mp hp
    exact ⟨g.name, rfl⟩
  | assignment hinit ha =>
    obtain ⟨source, -, hsource⟩ := h.exists_initializer hinit
    obtain ⟨g, -, -, -, hident⟩ := (exists_mem_of_forall₂ hsource.defaults).2 _ ha
    exact ⟨g.name, hident⟩
  | setter ho =>
    obtain ⟨part, hmapped, rfl⟩ := h.exists_mapped_setter ho
    exact hmapped.setter
  | setterParam ho hp =>
    obtain ⟨part, hmapped, rfl⟩ := h.exists_mapped_setter ho
    exact hmapped.setterParam _ hp
  | setterGroup ho hgroup =>
    obtain ⟨part, hmapped, rfl⟩ := h.exists_mapped_setter ho
    exact hmapped.setterGroup _ hgroup
  | group hc =>
    obtain ⟨o, -, params, types, -, -, rfl⟩ := h.exists_group hc
    exact (makesIdent_compoundRecord _ _).1
  | member hc hp =>
    obtain ⟨o, -, params, types, -, -, rfl⟩ := h.exists_group hc
    exact (makesIdent_compoundRecord _ _).2 _ hp

/-- Every getter in the record of an ingredient is made by the binding. -/
theorem makesAccessor_of_accessorAt (h : r.BuiltFrom b cb i fields parts) {name : String}
    (hat : r.AccessorAt name) : b.MakesAccessor name := by
  cases hat with
  | field ha =>
    rw [h.accessors_eq] at ha
    rcases List.mem_append.mp ha with ha | ha
    · obtain ⟨g, -, rfl⟩ := List.mem_map.mp ha
      exact ⟨g.name, g.type, false, rfl⟩
    · obtain ⟨part, hpart, rfl⟩ := List.mem_map.mp ha
      obtain ⟨o, -, hparts⟩ := h.exists_optional hpart
      exact (mapped_of_optionalParts hparts).accessor
  | member hc ha =>
    obtain ⟨o, -, params, types, -, -, rfl⟩ := h.exists_group hc
    exact makesAccessor_compoundRecord _ _ _ ha

end IngredientRecord.BuiltFrom

section Records

variable {records : List ArtifactRecord} {r : ArtifactRecord}

theorem makesIdent_of_generate (hb : b ∈ BindingSet.builtin.bindings)
    (h : generate b cb = .ok records) (hr : r ∈ records) {ident : String} (hat : r.IdentAt ident) :
    b.MakesIdent ident := by
  cases hat with
  | ingredient hat =>
    obtain ⟨i, -, hi⟩ := (mem_generate_ingredient h).2 _ hr
    obtain ⟨fields, parts, hbuilt⟩ := exists_builtFrom_of_ingredientRecord hi
    exact hbuilt.makesIdent_of_identAt hat
  | enum e =>
    obtain ⟨d, -, hd⟩ := (mem_generate_enum h).2 _ hr
    obtain ⟨-, -, -, -, hident⟩ := enumRecord_eq_ok_iff.mp hd
    exact ⟨d.name, hident⟩
  | enumMember hm =>
    obtain ⟨d, -, hd⟩ := (mem_generate_enum h).2 _ hr
    obtain ⟨hmembers, -⟩ := enumRecord_eq_ok_iff.mp hd
    obtain ⟨value, -, hmember⟩ := (exists_mem_of_forall₂ hmembers).2 _ hm
    obtain ⟨-, -, hident⟩ := memberRecord_eq_ok_iff.mp hmember
    exact ⟨sanitize value, hident.trans (Binding.mapEnumMember_eq hb value)⟩

theorem makesAccessor_of_generate (h : generate b cb = .ok records) (hr : r ∈ records)
    {name : String} (hat : r.AccessorAt name) : b.MakesAccessor name := by
  cases hat with
  | ingredient hat =>
    obtain ⟨i, -, hi⟩ := (mem_generate_ingredient h).2 _ hr
    obtain ⟨fields, parts, hbuilt⟩ := exists_builtFrom_of_ingredientRecord hi
    exact hbuilt.makesAccessor_of_accessorAt hat

end Records

/-- **No reserved word in the output.** Let a language of the tool make records of a cookbook, valid
or not. Then no identifier at any place of any record is a reserved word, and no getter has the name
of one that every type inherits. -/
theorem generated_names_unreserved (b : Binding) (hb : b ∈ BindingSet.builtin.bindings)
    (cb : Cookbook) (records : List ArtifactRecord) (h : generate b cb = .ok records) :
    ∀ r ∈ records, (∀ ident, r.IdentAt ident → ident ∉ b.reserved) ∧
      ∀ name, r.AccessorAt name → name ∉ b.inheritedAccessors := by
  intro r hr
  constructor
  · intro ident hat
    exact (makesIdent_of_generate hb h hr hat).notMem_reserved hb
  · intro name hat
    exact (makesAccessor_of_generate h hr hat).notMem_inherited hb

/-- Reserved words wherever a cookbook has names, and fields whose getters every object has. -/
def reservedCookbook : Cookbook where
  ingredients := [{
    name := "switch"
    keyed := true
    keyConstants := ["null"]
    required := [⟨"class", "int", some (.int 1)⟩, ⟨"final", "string", none⟩]
    initializers := [⟨["final"]⟩]
    optionals := [.simple "new" "flag" false,
      .compound "package" [⟨"class", "int"⟩, ⟨"case", "string"⟩] false] }]
  enums := [⟨"int", ["true", "var"]⟩]

/-- The cookbook is refused because of the name of its enum, and still the records hold no reserved
word. -/
theorem generated_names_unreserved_switch :
    reservedCookbook.validate ≠ .ok () ∧
    ∃ r e index, generate .java reservedCookbook = .ok [.ingredient r, .enum e, .manifest index] ∧
      r.ident = "_switch" ∧ r.keyConstants.map (·.ident) = ["NULL"] ∧
      r.required.map (·.ident) = ["_class", "_final"] ∧
      r.accessors.map (·.name) = ["getClass_", "getFinal", "isNew", "getPackage"] ∧
      r.compounds.map (·.accessors.map (·.name)) = [["getClass_", "getCase"]] ∧
      e.ident = "_int" ∧ e.members.map (·.ident) = ["_true", "_var"] ∧
      (∀ ident, r.IdentAt ident → ident ∉ Java.reserved) ∧
      ∀ name, r.AccessorAt name → name ∉ Java.objectMethods := by
  have hfree := generated_names_unreserved .java List.mem_cons_self reservedCookbook _ rfl
  obtain ⟨hidents, haccessors⟩ := hfree _ List.mem_cons_self
  refine ⟨by decide, _, _, _, rfl, rfl, rfl, rfl, rfl, rfl, rfl, rfl, ?_, ?_⟩
  · exact fun ident hat ↦ hidents ident (.ingredient hat)
  · exact fun name hat ↦ haccessors name (.ingredient hat)

end Cookery
