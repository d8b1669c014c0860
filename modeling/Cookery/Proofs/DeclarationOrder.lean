import Cookery.Proofs.Extension

/-!
# The order of declarations

Every lookup takes the first declaration of a name, so in general the order of declarations decides
what a name means. In a valid cookbook names are distinct, and then the first declaration of a name
is the only one: two orders of one valid cookbook extend each other, and all that was said about
extensions holds in both directions.

What is left of the order is the order of the output. Each ingredient and each enum has one record,
whatever order it is declared in, and the records come in the order of the declarations. The index
names them in that order too, and is otherwise the same.

Errors are another matter. A cookbook that cannot be mapped is refused for its first clash of names,
and which clash comes first does depend on the order.
-/

namespace Cookery

/-- The same declarations in another order. -/
structure Cookbook.Reorders (cb' cb : Cookbook) : Prop where
  domain_eq : cb'.domain = cb.domain
  ingredients_perm : cb'.ingredients.Perm cb.ingredients
  enums_perm : cb'.enums.Perm cb.enums

namespace Cookbook.Reorders

variable {cb cb' : Cookbook}

theorem symm (h : cb'.Reorders cb) : cb.Reorders cb' :=
  ⟨h.domain_eq.symm, h.ingredients_perm.symm, h.enums_perm.symm⟩

theorem nodup_names (h : cb'.Reorders cb) (hnames : Rule.uniqueEnumNames.Holds cb) :
    Rule.uniqueEnumNames.Holds cb' :=
  (h.enums_perm.map _).nodup_iff.mpr hnames

/-- Among distinct names, lookups do not see the order. -/
theorem extends_of_nodup (h : cb'.Reorders cb) (hnames : Rule.uniqueEnumNames.Holds cb) :
    cb'.Extends cb := by
  intro name d hd
  obtain ⟨hmem, hname⟩ := (find?_name_eq_some_iff hnames).mp hd
  exact (find?_name_eq_some_iff (h.nodup_names hnames)).mpr ⟨h.enums_perm.mem_iff.mpr hmem, hname⟩

theorem holds (h : cb'.Reorders cb) (hvalid : ∀ rule : Rule, rule.Holds cb) :
    ∀ rule : Rule, rule.Holds cb' := by
  have hnames : Rule.uniqueEnumNames.Holds cb := hvalid _
  refine Rule.holds_of_extends hvalid (h.extends_of_nodup hnames) h.ingredients_perm
    (h.nodup_names hnames) (fun d hd ↦ ?_) fun d hd ↦ ?_
  · exact hvalid .enumValues d (h.enums_perm.mem_iff.mp hd)
  · exact hvalid .enumNameSyntax d (h.enums_perm.mem_iff.mp hd)

theorem distinctNames (h : cb'.Reorders cb) (hvalid : ∀ rule : Rule, rule.Holds cb) {b : Binding}
    (hdistinct : b.DistinctNames cb) : b.DistinctNames cb' := by
  have hextends : cb'.Extends cb := h.extends_of_nodup (hvalid .uniqueEnumNames)
  refine ⟨fun i hi ↦ ?_, fun d hd ↦ hdistinct.enums d (h.enums_perm.mem_iff.mp hd)⟩
  have hi : i ∈ cb.ingredients := h.ingredients_perm.mem_iff.mp hi
  rw [b.distinctInIngredient_iff_of_extends hextends (hvalid .typesResolve) hi]
  exact hdistinct.ingredients i hi

theorem manifestRecord_eq (h : cb'.Reorders cb) (b : Binding) :
    manifestRecord b cb' = { manifestRecord b cb with
      ingredients := cb'.ingredients.map (·.name), enums := cb'.enums.map (·.name) } := by
  rw [manifestRecord, h.domain_eq]
  rfl

/-- One order makes records of every declaration, and the other makes the same. -/
theorem exists_records (h : cb'.Reorders cb) (hnames : Rule.uniqueEnumNames.Holds cb) {b : Binding}
    (hb : b.IsStandard) {records : List ArtifactRecord} (hrecords : generate b cb = .ok records) :
    ∃ (ofIngredient : Ingredient → IngredientRecord) (ofEnum : EnumDef → EnumRecord),
      records = (cb.ingredients.map ofIngredient).map .ingredient ++
        (cb.enums.map ofEnum).map .enum ++ [.manifest (manifestRecord b cb)] ∧
      generate b cb' = .ok ((cb'.ingredients.map ofIngredient).map .ingredient ++
        (cb'.enums.map ofEnum).map .enum ++ [.manifest (manifestRecord b cb')]) := by
  have hextends : cb'.Extends cb := h.extends_of_nodup hnames
  have hunique {α β : Type} (f : α → Except SchemaError β) (a : α) (x y : β) (hx : f a = .ok x)
      (hy : f a = .ok y) : x = y := Except.ok.inj (hx.symm.trans hy)
  have : Nonempty IngredientRecord := ⟨⟨"", "", "", false, [], [], [], [], [], []⟩⟩
  have : Nonempty EnumRecord := ⟨⟨"", "", "", []⟩⟩
  obtain ⟨ingredients, enums, hingredients, henums, rfl⟩ := generate_eq_ok_iff.mp hrecords
  obtain ⟨ofIngredient, rfl, hingredient⟩ := exists_map_of_forall₂ hingredients (hunique _)
  obtain ⟨ofEnum, rfl, henum⟩ := exists_map_of_forall₂ henums (hunique _)
  refine ⟨ofIngredient, ofEnum, rfl, generate_eq_ok_iff.mpr ⟨_, _, ?_, ?_, rfl⟩⟩
  · refine List.forall₂_map_right_iff.mpr (List.forall₂_same.mpr fun i hi ↦ ?_)
    have hi : i ∈ cb.ingredients := h.ingredients_perm.mem_iff.mp hi
    exact ingredientRecord_below hb hextends i _ (hingredient i hi)
  · refine List.forall₂_map_right_iff.mpr (List.forall₂_same.mpr fun d hd ↦ ?_)
    have hd : d ∈ cb.enums := h.enums_perm.mem_iff.mp hd
    exact enumRecord_below hb hextends d _ (henum d hd)

end Cookbook.Reorders

/-- **Order is only the order of the output.** Reordering the ingredients and the enums of a valid
cookbook leaves it valid. Records are made of it exactly when they were made before, each
declaration has the same record in both orders, and the records come in the order of the
declarations. The index differs in its two lists of names and in nothing else. -/
theorem reordering_permutes_records (cb cb' : Cookbook) (hvalid : cb.validate = .ok ())
    (h : cb'.Reorders cb) :
    cb'.validate = .ok () ∧
      ∀ b : Binding, b.IsStandard →
        ((∃ records, generate b cb' = .ok records) ↔ ∃ records, generate b cb = .ok records) ∧
        ∀ records, generate b cb = .ok records →
          ∃ (ofIngredient : Ingredient → IngredientRecord) (ofEnum : EnumDef → EnumRecord),
            records = (cb.ingredients.map ofIngredient).map .ingredient ++
              (cb.enums.map ofEnum).map .enum ++ [.manifest (manifestRecord b cb)] ∧
            generate b cb' = .ok ((cb'.ingredients.map ofIngredient).map .ingredient ++
              (cb'.enums.map ofEnum).map .enum ++ [.manifest { manifestRecord b cb with
                ingredients := cb'.ingredients.map (·.name)
                enums := cb'.enums.map (·.name) }]) := by
  have hrules := Rule.holds_of_validate hvalid
  have hrules' := h.holds hrules
  refine ⟨Cookbook.validate_eq_ok_iff.mpr fun rule _ ↦ hrules' rule, fun b hb ↦ ⟨?_, ?_⟩⟩
  · rw [(generate_succeedsIff hb hrules).exists_ok_iff,
      (generate_succeedsIff hb hrules').exists_ok_iff]
    exact ⟨h.symm.distinctNames hrules', h.distinctNames hrules⟩
  · intro records hrecords
    rw [← h.manifestRecord_eq b]
    exact h.exists_records (hrules .uniqueEnumNames) hb hrecords

def soup : Ingredient where
  name := "Soup"
  required := [⟨"heat", "Heat", some (.string "low")⟩]
  initializers := [⟨[]⟩]

def salad : Ingredient where
  name := "Salad"
  optionals := [.simple "cuts" "Cut[]" true]

def heat : EnumDef where
  name := "Heat"
  values := ["low", "very-high"]

def cut : EnumDef where
  name := "Cut"
  values := ["dice"]

/-- Two ingredients and two enums change places. -/
theorem reordering_permutes_records_menu :
    let cb : Cookbook := { ingredients := [soup, salad], enums := [heat, cut] }
    let cb' : Cookbook := { ingredients := [salad, soup], enums := [cut, heat] }
    cb.validate = .ok () ∧ cb'.validate = .ok () ∧
      ∃ (ofIngredient : Ingredient → IngredientRecord) (ofEnum : EnumDef → EnumRecord),
        generate .java cb = .ok [.ingredient (ofIngredient soup), .ingredient (ofIngredient salad),
          .enum (ofEnum heat), .enum (ofEnum cut), .manifest (manifestRecord .java cb)] ∧
        generate .java cb' = .ok [.ingredient (ofIngredient salad), .ingredient (ofIngredient soup),
          .enum (ofEnum cut), .enum (ofEnum heat), .manifest { manifestRecord .java cb with
            ingredients := ["Salad", "Soup"], enums := ["Cut", "Heat"] }] := by
  intro cb cb'
  have hreorders : cb'.Reorders cb := ⟨rfl, List.Perm.swap _ _ _, List.Perm.swap _ _ _⟩
  obtain ⟨hvalid', hgenerate⟩ := reordering_permutes_records cb cb' rfl hreorders
  obtain ⟨ofIngredient, ofEnum, hrecords, h'⟩ := (hgenerate .java rfl).2 _ rfl
  exact ⟨rfl, hvalid', ofIngredient, ofEnum, congrArg Except.ok hrecords, h'⟩

end Cookery
