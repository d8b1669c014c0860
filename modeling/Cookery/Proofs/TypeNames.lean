import Cookery.Proofs.Assembly
import Cookery.Proofs.Overloads

/-!
# Names of generated types

Every ingredient and every enum becomes a type of the target language, whose name is the identifier
of the declaration. The names of one list of declarations are distinct in a valid cookbook, but
identifiers are not compared across declarations, neither by validation nor by the mapping.

This file says when two of them clash. There are two ways: an ingredient and an enum have one name,
or a reserved word is declared and so is the name it is escaped to. Each of them does happen in a
valid cookbook, and the mapping succeeds nevertheless.
-/

namespace Cookery

/-- The names of the declarations that become types. -/
def Cookbook.typeNames (cb : Cookbook) : List String :=
  cb.ingredients.map (·.name) ++ cb.enums.map (·.name)

/-- The name of the type that a record describes. -/
def ArtifactRecord.typeIdent? : ArtifactRecord → Option String
  | ingredient r => some r.ident
  | enum r => some r.ident
  | manifest _ => none

/-- The names of all types that the records describe. -/
def typeIdents (records : List ArtifactRecord) : List String :=
  records.filterMap ArtifactRecord.typeIdent?

section Idents

variable {b : Binding} {cb : Cookbook}

theorem typeIdents_eq (ingredients : List IngredientRecord) (enums : List EnumRecord)
    (m : ManifestRecord) :
    typeIdents (ingredients.map .ingredient ++ enums.map .enum ++ [.manifest m])
      = ingredients.map (·.ident) ++ enums.map (·.ident) := by
  have hingredients : typeIdents (ingredients.map .ingredient) = ingredients.map (·.ident) := by
    rw [typeIdents, List.filterMap_map, ← List.filterMap_eq_map]
    rfl
  have henums : typeIdents (enums.map .enum) = enums.map (·.ident) := by
    rw [typeIdents, List.filterMap_map, ← List.filterMap_eq_map]
    rfl
  rw [typeIdents, List.filterMap_append, List.filterMap_append]
  exact (List.append_nil _).trans (congrArg₂ _ hingredients henums)

/-- Each type is named by the identifier of its declaration. -/
theorem typeIdents_of_generate {records : List ArtifactRecord}
    (h : generate b cb = .ok records) : typeIdents records = cb.typeNames.map b.mapIdentifier := by
  obtain ⟨ingredients, enums, hingredients, henums, rfl⟩ := generate_eq_ok_iff.mp h
  have hingredient : ∀ i r, ingredientRecord b cb i = .ok r →
      r.ident = b.mapIdentifier i.name := by
    intro i r hr
    obtain ⟨fields, parts, hbuilt⟩ := exists_builtFrom_of_ingredientRecord hr
    exact hbuilt.ident_eq
  have henum : ∀ d r, enumRecord b cb d = .ok r → r.ident = b.mapIdentifier d.name := by
    intro d r hr
    exact (enumRecord_eq_ok_iff.mp hr).2.2.2.2
  rw [typeIdents_eq, map_eq_map_of_forall₂ hingredients hingredient,
    map_eq_map_of_forall₂ henums henum, Cookbook.typeNames, List.map_append, List.map_map,
    List.map_map]
  rfl

end Idents

/-! ## Clashes -/

namespace Binding

/-- No reserved word is its own escape. -/
theorem escape_ne_self {b : Binding} (hb : b ∈ BindingSet.builtin.bindings) {name : String}
    (hname : name ∈ b.reserved) : b.escape name ≠ name :=
  fun h ↦ escape_notMem_reserved hb hname (h.symm ▸ hname)

/-- Distinct names have distinct identifiers unless a reserved word stands beside its escape. -/
theorem injOn_mapIdentifier_iff {b : Binding} (hb : b ∈ BindingSet.builtin.bindings)
    {names : List String} :
    (∀ name ∈ names, ∀ other ∈ names, b.mapIdentifier name = b.mapIdentifier other →
        name = other) ↔
      ∀ name ∈ names, name ∈ b.reserved → b.escape name ∉ names := by
  constructor
  · intro hinj name hname hreserved hescape
    have heq := hinj _ hescape name hname (mapIdentifier_escape hb hreserved)
    exact escape_ne_self hb hreserved heq
  · intro hescape name hname other hother heq
    obtain ⟨s, hs⟩ := exists_mem_builtinStyles hb
    rcases (separates_of_mem_builtinStyles hs).identifier_cases (follows_of_mem_builtinStyles hs)
      heq with h | ⟨hreserved, rfl⟩ | ⟨hreserved, rfl⟩
    · exact h
    · exact absurd hother (hescape name hname hreserved)
    · exact absurd hname (hescape other hother hreserved)

end Binding

/-- In a valid cookbook the names of types clash only between an ingredient and an enum. -/
theorem Cookbook.nodup_typeNames_iff {cb : Cookbook} (hvalid : cb.validate = .ok ()) :
    cb.typeNames.Nodup ↔ ∀ i ∈ cb.ingredients, ∀ d ∈ cb.enums, i.name ≠ d.name := by
  have hrules := Rule.holds_of_validate hvalid
  have hingredients : (cb.ingredients.map (·.name)).Nodup := hrules .uniqueIngredientNames
  have henums : (cb.enums.map (·.name)).Nodup := hrules .uniqueEnumNames
  rw [typeNames, List.nodup_append]
  constructor
  · rintro ⟨-, -, hne⟩ i hi d hd
    exact hne _ (List.mem_map_of_mem hi) _ (List.mem_map_of_mem hd)
  · intro hne
    refine ⟨hingredients, henums, fun name hname other hother ↦ ?_⟩
    obtain ⟨i, hi, rfl⟩ := List.mem_map.mp hname
    obtain ⟨d, hd, rfl⟩ := List.mem_map.mp hother
    exact hne i hi d hd

/-- **When generated types have distinct names.** In a language that comes with the tool, the types
that are made of a valid cookbook have distinct names if and only if no ingredient has the name of
an enum and no reserved word is declared together with the name that it is escaped to. -/
theorem nodup_typeIdents_iff (b : Binding) (hb : b ∈ BindingSet.builtin.bindings) (cb : Cookbook)
    (hvalid : cb.validate = .ok ()) (records : List ArtifactRecord)
    (h : generate b cb = .ok records) :
    (typeIdents records).Nodup ↔
      (∀ i ∈ cb.ingredients, ∀ d ∈ cb.enums, i.name ≠ d.name) ∧
        ∀ name ∈ cb.typeNames, name ∈ b.reserved → b.escape name ∉ cb.typeNames := by
  rw [typeIdents_of_generate h, ← Cookbook.nodup_typeNames_iff hvalid,
    ← Binding.injOn_mapIdentifier_iff hb]
  constructor
  · intro hnodup
    exact ⟨.of_map _ hnodup, (List.nodup_map_iff_inj_on (.of_map _ hnodup)).mp hnodup⟩
  · rintro ⟨hnodup, hinj⟩
    exact (List.nodup_map_iff_inj_on hnodup).mpr hinj

/-- Two ingredients whose names differ by an underscore, and an enum named like one of them. -/
def classCookbook : Cookbook where
  ingredients := [{ name := "class" }, { name := "_class" }]
  enums := [⟨"_class", ["first", "second"]⟩]

/-- Validity does not keep generated types apart: in Java three declarations have one name. -/
theorem typeIdents_clash_class :
    classCookbook.validate = .ok () ∧ ∃ records, generate .java classCookbook = .ok records ∧
      typeIdents records = ["_class", "_class", "_class"] :=
  ⟨rfl, _, rfl, rfl⟩

/-- Python escapes to another name, and there only the ingredient and the enum of one name clash. -/
theorem nodup_typeIdents_iff_class :
    classCookbook.validate = .ok () ∧ ∃ records, generate .python classCookbook = .ok records ∧
      typeIdents records = ["class_", "_class", "_class"] ∧
      ((typeIdents records).Nodup ↔
        (∀ i ∈ classCookbook.ingredients, ∀ d ∈ classCookbook.enums, i.name ≠ d.name) ∧
          ∀ name ∈ classCookbook.typeNames, name ∈ Binding.python.reserved →
            Binding.python.escape name ∉ classCookbook.typeNames) := by
  have hb : Binding.python ∈ BindingSet.builtin.bindings :=
    List.mem_cons_of_mem _ (List.mem_cons_of_mem _ (List.mem_cons_of_mem _ List.mem_cons_self))
  exact ⟨rfl, _, rfl, rfl, nodup_typeIdents_iff .python hb classCookbook rfl _ rfl⟩

end Cookery
