import Cookery.Proofs.Overloads
import Cookery.Proofs.VarargExposure

/-!
# Signatures as texts

Validation tells initializers apart by lists of types, and a record carries one text: the types with
commas between them, in parentheses. The text says as much as the list, also if every vararg in it
is written as an array, which is how validation compares.

Three things have to be right for that. The types must be told from each other within the text, for
which no name of a type may contain a comma. A type must be known from its own text, which is the
reading of types. And writing varargs as arrays, which is an operation on texts here, must be the
same as counting varargs as arrays, which is one on types, for which no name may contain a dot. In
all three, enums could stand in the way, since their names are free text; the rule on enum names is
what keeps them from it.
-/

namespace Cookery

/-! ## Varargs as arrays, in a text -/

/-- The characters of a text with `[]` in place of every `...`. -/
def arrayMarksForVarargs : List Char → List Char
  | '.' :: '.' :: '.' :: cs => '[' :: ']' :: arrayMarksForVarargs cs
  | c :: cs => c :: arrayMarksForVarargs cs
  | [] => []

/-- The text with `[]` in place of every `...`, so that varargs are written as arrays. -/
def varargsAsArrays (text : String) : String :=
  String.ofList (arrayMarksForVarargs text.toList)

theorem arrayMarksForVarargs_append {cs : List Char} (h : '.' ∉ cs) (rest : List Char) :
    arrayMarksForVarargs (cs ++ rest) = cs ++ arrayMarksForVarargs rest := by
  induction cs with
  | nil => rfl
  | cons c cs ih =>
    obtain ⟨hc, hcs⟩ := List.ne_and_not_mem_of_not_mem_cons h
    rw [List.cons_append, List.cons_append, arrayMarksForVarargs, ih hcs]
    intro _ hdot _
    exact hc hdot.symm

/-! ## Characters of types -/

section Characters

variable {cb : Cookbook} {base : BaseType}

/-- Keywords, identifiers and array marks contain neither dots nor commas. -/
theorem BaseType.IsItem.notMem_render (hnames : Rule.enumNameSyntax.Holds cb)
    (h : base.IsItem cb) {c : Char} (hc : c = '.' ∨ c = ',') : c ∉ base.render.toList := by
  induction h with
  | primitive p => rcases hc with rfl | rfl <;> cases p <;> decide
  | @enumRef d hd =>
    intro hmem
    have hword := (hnames d hd).1.isAlphanum_or_eq c hmem
    rcases hc with rfl | rfl <;> exact absurd hword (by decide)
  | array _ ih =>
    rw [render, String.toList_append, List.mem_append, not_or]
    refine ⟨ih, ?_⟩
    rcases hc with rfl | rfl <;> decide

theorem BaseType.IsItem.render_ne_nil (hnames : Rule.enumNameSyntax.Holds cb)
    (h : base.IsItem cb) : base.render.toList ≠ [] := by
  induction h with
  | primitive p => cases p <;> decide
  | @enumRef d hd =>
    obtain ⟨c, cs, hname, -⟩ := (hnames d hd).1
    rw [render, hname]
    exact List.cons_ne_nil c cs
  | array _ ih =>
    rw [render, String.toList_append]
    exact List.append_ne_nil_of_left_ne_nil ih _

end Characters

/-! ## Joined texts -/

theorem intercalate_commaSpace (part : List Char) (parts : List (List Char)) :
    [',', ' '].intercalate (part :: parts) = [','].intercalate (part :: parts.map (' ' :: ·)) := by
  induction parts generalizing part with
  | nil => rfl
  | cons next parts ih =>
    rw [List.intercalate_cons_cons, ih, List.map_cons]
    cases parts <;> simp [List.intercalate_cons_cons]

theorem splitOn_intercalate_commaSpace {part : List Char} {parts : List (List Char)}
    (h : ∀ p ∈ part :: parts, ',' ∉ p) :
    ([',', ' '].intercalate (part :: parts)).splitOn ',' = part :: parts.map (' ' :: ·) := by
  obtain ⟨hpart, hparts⟩ := List.forall_mem_cons.mp h
  rw [intercalate_commaSpace]
  refine List.splitOn_intercalate ',' ?_ (List.cons_ne_nil _ _)
  refine List.forall_mem_cons.mpr ⟨hpart, List.forall_mem_map.mpr fun p hp hmem ↦ ?_⟩
  exact hparts p hp (List.mem_of_ne_of_mem (by decide) hmem)

theorem intercalate_cons_ne_nil {part : List Char} (h : part ≠ []) (separator : List Char)
    (parts : List (List Char)) : separator.intercalate (part :: parts) ≠ [] := by
  cases parts <;> simp [List.intercalate_cons_cons, h]

/-- Parts that are not empty and have no comma are known from the text that joins them. -/
theorem eq_of_intercalate_commaSpace_eq {parts parts' : List (List Char)}
    (h : ∀ part ∈ parts, part ≠ [] ∧ ',' ∉ part) (h' : ∀ part ∈ parts', part ≠ [] ∧ ',' ∉ part)
    (heq : [',', ' '].intercalate parts = [',', ' '].intercalate parts') : parts = parts' := by
  cases parts with
  | nil =>
    cases parts' with
    | nil => rfl
    | cons part' parts' =>
      exact absurd heq.symm (intercalate_cons_ne_nil (h' part' List.mem_cons_self).1 _ _)
  | cons part parts =>
    cases parts' with
    | nil => exact absurd heq (intercalate_cons_ne_nil (h part List.mem_cons_self).1 _ _)
    | cons part' parts' =>
      have hsplit := congrArg (List.splitOn ',') heq
      rw [splitOn_intercalate_commaSpace fun p hp ↦ (h p hp).2,
        splitOn_intercalate_commaSpace fun p hp ↦ (h' p hp).2, List.cons.injEq] at hsplit
      rw [hsplit.1, List.map_injective_iff.mpr List.cons_injective hsplit.2]

/-! ## Texts of signatures -/

section Signatures

variable {cb : Cookbook}

theorem toList_renderSignature (types : List ParamType) :
    (renderSignature types).toList =
      '(' :: ([',', ' '].intercalate (types.map (·.render.toList)) ++ [')']) := by
  simp [renderSignature, String.toList_intercalate, Function.comp_def]

theorem ParamType.render_mk_false (base : BaseType) :
    (ParamType.mk base false).render = base.render := by
  simp [ParamType.render_eq, varargMark]

theorem ParamType.isItem_of_isItem_erase {t : ParamType} (h : t.erase.base.IsItem cb) :
    t.base.IsItem cb := by
  obtain ⟨base, vararg⟩ := t
  cases vararg with
  | false => exact h
  | true =>
    cases h with
    | array hbase => exact hbase

/-- Within a text, the mark of a vararg gives way to the mark of an array. -/
theorem arrayMarksForVarargs_render_append (hnames : Rule.enumNameSyntax.Holds cb) {t : ParamType}
    (h : t.erase.base.IsItem cb) (rest : List Char) :
    arrayMarksForVarargs (t.render.toList ++ rest) =
      t.erase.render.toList ++ arrayMarksForVarargs rest := by
  have hdots : '.' ∉ t.base.render.toList :=
    (ParamType.isItem_of_isItem_erase h).notMem_render hnames (.inl rfl)
  obtain ⟨base, vararg⟩ := t
  cases vararg with
  | false =>
    rw [ParamType.erase, if_neg Bool.false_ne_true, ParamType.render_mk_false,
      arrayMarksForVarargs_append hdots]
  | true =>
    have hrender : (ParamType.mk base true).render.toList = base.render.toList ++ ['.', '.', '.'] :=
      String.toList_append
    have herased : (ParamType.mk base true).erase.render.toList =
        base.render.toList ++ ['[', ']'] := by
      simp [ParamType.erase, ParamType.render_eq, varargMark, BaseType.render]
    rw [hrender, herased, List.append_assoc, arrayMarksForVarargs_append hdots]
    simp [arrayMarksForVarargs]

theorem arrayMarksForVarargs_intercalate_append (hnames : Rule.enumNameSyntax.Holds cb)
    {types : List ParamType} (h : ∀ t ∈ types, t.erase.base.IsItem cb) (rest : List Char) :
    arrayMarksForVarargs ([',', ' '].intercalate (types.map (·.render.toList)) ++ rest) =
      [',', ' '].intercalate ((types.map ParamType.erase).map (·.render.toList)) ++
        arrayMarksForVarargs rest := by
  induction types with
  | nil => rfl
  | cons t types ih =>
    obtain ⟨ht, htypes⟩ := List.forall_mem_cons.mp h
    cases types with
    | nil => simpa using arrayMarksForVarargs_render_append hnames ht rest
    | cons next types =>
      have hnext := ih htypes
      simp only [List.map_cons, List.intercalate_cons_cons, List.append_assoc] at hnext ⊢
      rw [arrayMarksForVarargs_render_append hnames ht,
        arrayMarksForVarargs_append (by decide), hnext]

/-- Writing varargs as arrays in the text of a signature is counting them as arrays. -/
theorem varargsAsArrays_renderSignature (hnames : Rule.enumNameSyntax.Holds cb)
    {types : List ParamType} (h : ∀ t ∈ types, t.erase.base.IsItem cb) :
    varargsAsArrays (renderSignature types) = renderSignature (types.map ParamType.erase) := by
  have hopen : '.' ∉ ['('] := by decide
  rw [← String.toList_inj, varargsAsArrays, String.toList_ofList, toList_renderSignature,
    toList_renderSignature, ← List.singleton_append, arrayMarksForVarargs_append hopen,
    arrayMarksForVarargs_intercalate_append hnames h]
  rfl

theorem forall_mem_map_render_erase (hnames : Rule.enumNameSyntax.Holds cb)
    {types : List ParamType} (h : ∀ t ∈ types, t.erase.base.IsItem cb) :
    ∀ part ∈ (types.map ParamType.erase).map (·.render.toList), part ≠ [] ∧ ',' ∉ part := by
  simp only [List.forall_mem_map]
  intro t ht
  rw [t.erase_eq, ParamType.render_mk_false]
  exact ⟨(h t ht).render_ne_nil hnames, (h t ht).notMem_render hnames (.inr rfl)⟩

theorem map_parse?_map_render_erase (hnames : Rule.enumNameSyntax.Holds cb)
    {types : List ParamType} (h : ∀ t ∈ types, t.erase.base.IsItem cb) :
    ((types.map ParamType.erase).map (·.render.toList)).map
        (fun text ↦ ParamType.parse? cb (String.ofList text)) =
      (types.map ParamType.erase).map some := by
  simp only [List.map_map]
  refine List.map_congr_left fun t ht ↦ ?_
  simpa using ParamType.parse?_render hnames (.inr (h t ht))

/-- Types without varargs are known from the text of the signature: commas tell its parts, and each
part is read back as its type. -/
theorem map_erase_eq_of_renderSignature_eq (hnames : Rule.enumNameSyntax.Holds cb)
    {types types' : List ParamType} (h : ∀ t ∈ types, t.erase.base.IsItem cb)
    (h' : ∀ t ∈ types', t.erase.base.IsItem cb)
    (heq : renderSignature (types.map ParamType.erase) =
      renderSignature (types'.map ParamType.erase)) :
    types.map ParamType.erase = types'.map ParamType.erase := by
  rw [← String.toList_inj, toList_renderSignature, toList_renderSignature, List.cons.injEq,
    List.append_cancel_right_eq] at heq
  have htexts := eq_of_intercalate_commaSpace_eq (forall_mem_map_render_erase hnames h)
    (forall_mem_map_render_erase hnames h') heq.2
  have hread := map_parse?_map_render_erase hnames h
  rw [htexts, map_parse?_map_render_erase hnames h'] at hread
  exact (List.map_injective_iff.mpr (fun _ _ ↦ Option.some.inj) hread).symm

end Signatures

/-! ## Signatures of records -/

/-- A record carries the text of the types that its initializer takes. -/
theorem IngredientRecord.BuiltFrom.forall₂_signature {b : Binding} {cb : Cookbook} {i : Ingredient}
    {fields : List ResolvedField} {parts : List OptionalParts} {r : IngredientRecord}
    (h : r.BuiltFrom b cb i fields parts) :
    List.Forall₂ (fun init record ↦ ∃ types, i.HasSignature cb init types ∧
      record.signature = renderSignature types) i.initializers r.initializers := by
  obtain ⟨taken, htaken, hrecords⟩ := exists_taken_of_initializerRecords h.initializers_of
  have hsignatures : List.Forall₂ (fun params record ↦
      record.signature = renderSignature (params.map (·.type))) taken r.initializers :=
    forall₂_of_zipIdx (hrecords.imp fun _ _ hrecord ↦ hrecord.2)
  refine forall₂_trans htaken hsignatures ?_
  intro init params record hparams hsignature
  exact ⟨_, h.hasSignature_of_forall₂ hparams, hsignature⟩

/-- **Signature texts identify initializers.** When a binding makes records of a valid cookbook, the
record of an initializer carries the text of its types, and that text with varargs written as arrays
is the text of its types with varargs counted as arrays. The texts of the initializers of one
ingredient differ from each other, and they still do with varargs written as arrays. -/
theorem signatures_identify_initializers (b : Binding) (cb : Cookbook)
    (hvalid : cb.validate = .ok ()) (records : List ArtifactRecord)
    (h : generate b cb = .ok records) :
    List.Forall₂ (fun i r ↦ r.name = i.name ∧
        List.Forall₂ (fun init record ↦ ∃ types, i.HasSignature cb init types ∧
            record.signature = renderSignature types ∧
            varargsAsArrays record.signature = renderSignature (types.map ParamType.erase))
          i.initializers r.initializers ∧
        (r.initializers.map (·.signature)).Nodup ∧
        (r.initializers.map fun record ↦ varargsAsArrays record.signature).Nodup)
      cb.ingredients (ingredientRecords records) := by
  have hrules := Rule.holds_of_validate hvalid
  have hnames : Rule.enumNameSyntax.Holds cb := hrules _
  have hflags : Rule.flagPlacement.Holds cb := hrules _
  have hsignatures : Rule.unambiguousInitializers.Holds cb := hrules _
  have hmade := ingredientRecords_of_generate h
  refine ((List.forall₂_and_left _ _).mpr ⟨fun i hi ↦ hi, hmade⟩).imp ?_
  rintro i r ⟨hi, hr⟩
  obtain ⟨fields, parts, hbuilt⟩ := exists_builtFrom_of_ingredientRecord hr
  have hdescribed : List.Forall₂ (fun init record ↦ ∃ types, i.HasSignature cb init types ∧
      record.signature = renderSignature types ∧
      varargsAsArrays record.signature = renderSignature (types.map ParamType.erase))
      i.initializers r.initializers := by
    refine hbuilt.forall₂_signature.imp ?_
    rintro init record ⟨types, htypes, hsignature⟩
    refine ⟨types, htypes, hsignature, ?_⟩
    rw [hsignature, varargsAsArrays_renderSignature hnames (htypes.isItem hflags hi)]
  have harrays : (r.initializers.map fun record ↦ varargsAsArrays record.signature).Nodup := by
    refine List.pairwise_map.mpr (pairwise_of_forall₂ (hsignatures i hi) hdescribed ?_)
    rintro first record second record' hne ⟨types, htypes, -, htext⟩
      ⟨types', htypes', -, htext'⟩ heq
    rw [htext, htext'] at heq
    exact hne types htypes types' htypes' (map_erase_eq_of_renderSignature_eq hnames
      (htypes.isItem hflags hi) (htypes'.isItem hflags hi) heq)
  refine ⟨hbuilt.name_eq, hdescribed, ?_, harrays⟩
  -- Texts that differ after an operation differ before it.
  refine List.Nodup.of_map varargsAsArrays ?_
  rwa [List.map_map]

/-- A stock, a stock with herbs, and herbs alone. -/
def brothCookbook : Cookbook where
  ingredients := [{
    name := "Broth"
    required := [⟨"stock", "Stock", some (.string "BEEF")⟩, ⟨"herbs", "string...", some (.list [])⟩]
    initializers := [⟨["stock"]⟩, ⟨["stock", "herbs"]⟩, ⟨["herbs"]⟩] }]
  enums := [{ name := "Stock", values := ["BEEF", "FISH"] }]

/-- The texts of a broth, as they are and with the herbs as an array. -/
theorem signatures_identify_initializers_broth :
    brothCookbook.validate = .ok () ∧ ∃ records r, generate .kotlin brothCookbook = .ok records ∧
      ingredientRecords records = [r] ∧
      r.initializers.map (·.signature) = ["(Stock)", "(Stock, string...)", "(string...)"] ∧
      (r.initializers.map (·.signature)).Nodup ∧
      r.initializers.map (varargsAsArrays ·.signature) =
        ["(Stock)", "(Stock, string[])", "(string[])"] ∧
      (r.initializers.map (varargsAsArrays ·.signature)).Nodup := by
  have hall := signatures_identify_initializers .kotlin brothCookbook rfl _ rfl
  obtain ⟨⟨-, -, hplain, harrays⟩, -⟩ := List.forall₂_cons.mp hall
  exact ⟨rfl, _, _, rfl, rfl, rfl, hplain, rfl, harrays⟩

end Cookery
