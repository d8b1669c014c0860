import Cookery.Proofs.TypeNames
import Cookery.Proofs.WordBoundaries

/-!
# Any text becomes an identifier

The values of an enum and the keys of an ingredient are free text. An identifier is made of them in
up to four passes: `sanitize` replaces what no identifier may hold, `snakeCase` divides words by
underscores, letters are put into capitals, and reserved words are escaped. The first pass makes an
identifier of anything, and each of the others takes identifiers to identifiers, so nothing has to
be assumed of the text.

After the first pass only ASCII is left. That is why the tables of the case mappings play no part
here, although the text may hold any letters.

## Where escaping ends

The escape of a reserved word is not reserved again, so one pass of escaping is enough. In three of
the languages it is an identifier too; Kotlin puts the word between backticks. Key constants are not
escaped at all: every reserved word has a small letter, and they have none.
-/

namespace Cookery

/-! ## Sanitizing -/

/-- Replacing what no identifier may hold leaves an identifier. -/
theorem isIdentifier_sanitize (value : String) : IsIdentifier (sanitize value) := by
  have hword : ∀ d ∈ value.toList.map (fun c ↦ if isWordChar c then c else '_'),
      d.isAlphanum = true ∨ d = '_' := by
    rw [List.forall_mem_map]
    intro c _
    by_cases hc : isWordChar c
    · rw [if_pos hc]
      exact isWordChar_iff.mp hc
    · rw [if_neg hc]
      exact .inr rfl
  rw [IsIdentifier, sanitize, String.toList_ofList, sanitizeChars]
  cases hchars : value.toList.map (fun c ↦ if isWordChar c then c else '_') with
  | nil => exact ⟨'_', [], rfl, .inr rfl, by simp⟩
  | cons c cs =>
    rw [hchars] at hword
    obtain ⟨hc, hcs⟩ := List.forall_mem_cons.mp hword
    by_cases hdigit : c.isDigit
    · exact ⟨'_', c :: cs, if_pos hdigit, .inr rfl, hword⟩
    · refine ⟨c, cs, if_neg hdigit, hc.imp_left fun halpha ↦ ?_, hcs⟩
      simpa [Char.isAlphanum, hdigit] using halpha

/-- Letters and digits are ASCII. -/
theorem toNat_lt_of_isAlphanum {c : Char} (h : c.isAlphanum = true) : c.toNat < 128 := by
  have hbelow {last : UInt32} (hlast : last.toNat < 128) (hle : c.val ≤ last) : c.toNat < 128 :=
    Nat.lt_of_le_of_lt (UInt32.le_iff_toNat_le.mp hle) hlast
  rcases Bool.or_eq_true_iff.mp h with halpha | hdigit
  · rcases Bool.or_eq_true_iff.mp halpha with hupper | hlower
    · exact hbelow (by decide) (of_decide_eq_true hupper).2
    · exact hbelow (by decide) (of_decide_eq_true (Bool.and_eq_true_iff.mp hlower).2)
  · exact hbelow (by decide) (of_decide_eq_true (Bool.and_eq_true_iff.mp hdigit).2)

/-- The first character of an identifier is a character of identifiers, and no digit. -/
theorem isWordChar_of_first {c : Char} (h : c.isAlpha = true ∨ c = '_') :
    isWordChar c = true ∧ c.isDigit = false := by
  have hascii : c.toNat < 128 := by
    rcases h with h | rfl
    · exact toNat_lt_of_isAlphanum (Bool.or_eq_true_iff.mpr (.inl h))
    · decide
  exact of_forall_ascii
    (P := fun c ↦ c.isAlpha = true ∨ c = '_' → isWordChar c = true ∧ c.isDigit = false)
    (by decide +kernel) hascii h

theorem sanitize_of_isIdentifier {name : String} (h : IsIdentifier name) :
    sanitize name = name := by
  obtain ⟨c, cs, hname, hc, hcs⟩ := h
  obtain ⟨hword, hdigit⟩ := isWordChar_of_first hc
  have hmap : (c :: cs).map (fun c ↦ if isWordChar c then c else '_') = c :: cs := by
    have hall : ∀ d ∈ c :: cs, isWordChar d = true :=
      List.forall_mem_cons.mpr ⟨hword, fun d hd ↦ isWordChar_iff.mpr (hcs d hd)⟩
    conv_rhs => rw [← List.map_id (c :: cs)]
    exact List.map_congr_left fun d hd ↦ if_pos (hall d hd)
  rw [← String.toList_inj, sanitize, String.toList_ofList, hname, sanitizeChars, hmap]
  simp [hdigit]

/-- The identifiers are the texts that sanitizing leaves alone. -/
theorem sanitize_eq_self_iff {name : String} : sanitize name = name ↔ IsIdentifier name := by
  constructor
  · intro h
    rw [← h]
    exact isIdentifier_sanitize name
  · exact sanitize_of_isIdentifier

/-! ## Case -/

theorem toNat_lt_of_isWordChar {c : Char} (h : isWordChar c = true) : c.toNat < 128 := by
  rcases isWordChar_iff.mp h with h | rfl
  · exact toNat_lt_of_isAlphanum h
  · decide

theorem upper_of_isWordChar {c : Char} (h : isWordChar c = true) : Text.upper c = [c.toUpper] :=
  if_pos (toNat_lt_of_isWordChar h)

theorem isWordChar_toLower {c : Char} (h : isWordChar c = true) : isWordChar c.toLower = true :=
  of_forall_ascii (P := fun c ↦ isWordChar c = true → isWordChar c.toLower = true)
    (by decide +kernel) (toNat_lt_of_isWordChar h) h

theorem toLower_of_first {c : Char} (h : c.isAlpha = true ∨ c = '_') :
    c.toLower.isAlpha = true ∨ c.toLower = '_' :=
  of_forall_ascii
    (P := fun c ↦ c.isAlpha = true ∨ c = '_' → c.toLower.isAlpha = true ∨ c.toLower = '_')
    (by decide +kernel) (toNat_lt_of_isWordChar (isWordChar_of_first h).1) h

theorem isWordChar_of_mem_snakePart {s : List Char} {x : Char × Nat} (h : isWordChar x.1 = true) :
    ∀ d ∈ snakePart s x, isWordChar d = true := by
  intro d hd
  rcases eq_underscore_or_mem_smallForm hd with rfl | hd
  · rfl
  · rw [smallForm_of_lt (toNat_lt_of_isWordChar h), List.mem_singleton] at hd
    rw [hd]
    exact isWordChar_toLower h

theorem isIdentifier_snakeCase {name : String} (h : IsIdentifier name) :
    IsIdentifier (snakeCase name) := by
  obtain ⟨c, cs, hname, hc, hcs⟩ := h
  have hword : isWordChar c = true := (isWordChar_of_first hc).1
  have hrest : ∀ d ∈ cs, isWordChar d = true := fun d hd ↦ isWordChar_iff.mpr (hcs d hd)
  refine ⟨c.toLower, (cs.zipIdx 1).flatMap (snakePart name.toList), ?_, toLower_of_first hc,
    fun d hd ↦ ?_⟩
  · -- No word starts at the first character, so no mark comes before it.
    rw [toList_snakeCase, hname, List.zipIdx_cons, List.flatMap_cons, snakePart,
      smallForm_of_lt (toNat_lt_of_isWordChar hword)]
    simp [IsWordStart]
  · obtain ⟨x, hx, hd⟩ := List.mem_flatMap.mp hd
    have hx : isWordChar x.1 = true := hrest x.1 (List.fst_mem_of_mem_zipIdx hx)
    exact isWordChar_iff.mp (isWordChar_of_mem_snakePart hx d hd)

/-- `[A-Z_][A-Z0-9_]*`. -/
def IsConstantName (name : String) : Prop :=
  ∃ c cs, name.toList = c :: cs ∧ (c.isUpper ∨ c = '_') ∧
    ∀ d ∈ cs, d.isUpper ∨ d.isDigit ∨ d = '_'

theorem toUpper_of_first {c : Char} (h : c.isAlpha = true ∨ c = '_') :
    c.toUpper.isUpper = true ∨ c.toUpper = '_' :=
  of_forall_ascii
    (P := fun c ↦ c.isAlpha = true ∨ c = '_' → c.toUpper.isUpper = true ∨ c.toUpper = '_')
    (by decide +kernel) (toNat_lt_of_isWordChar (isWordChar_of_first h).1) h

theorem toUpper_of_isWordChar {c : Char} (h : isWordChar c = true) :
    c.toUpper.isUpper = true ∨ c.toUpper.isDigit = true ∨ c.toUpper = '_' :=
  of_forall_ascii
    (P := fun c ↦ isWordChar c = true →
      c.toUpper.isUpper = true ∨ c.toUpper.isDigit = true ∨ c.toUpper = '_')
    (by decide +kernel) (toNat_lt_of_isWordChar h) h

/-- In capitals an identifier is the name of a constant. -/
theorem isConstantName_upperSnakeCase {name : String} (h : IsIdentifier name) :
    IsConstantName (upperSnakeCase name) := by
  obtain ⟨c, cs, hname, hc, hcs⟩ := isIdentifier_snakeCase h
  have hword : isWordChar c = true := (isWordChar_of_first hc).1
  have hrest : ∀ d ∈ cs, isWordChar d = true := fun d hd ↦ isWordChar_iff.mpr (hcs d hd)
  refine ⟨c.toUpper, cs.flatMap Text.upper, ?_, toUpper_of_first hc, fun d hd ↦ ?_⟩
  · rw [upperSnakeCase, String.toList_ofList, hname, List.flatMap_cons, upper_of_isWordChar hword]
    rfl
  · obtain ⟨e, he, hd⟩ := List.mem_flatMap.mp hd
    rw [upper_of_isWordChar (hrest e he), List.mem_singleton] at hd
    rw [hd]
    exact toUpper_of_isWordChar (hrest e he)

theorem IsConstantName.not_isLower {name : String} (h : IsConstantName name) {d : Char}
    (hd : d ∈ name.toList) : ¬d.isLower = true := by
  obtain ⟨c, cs, hname, hc, hcs⟩ := h
  have hcapital : d.isUpper = true ∨ d.isDigit = true ∨ d = '_' := by
    rw [hname] at hd
    rcases List.mem_cons.mp hd with rfl | hd
    · exact hc.imp_right .inr
    · exact hcs d hd
  have hascii : d.toNat < 128 := by
    rcases hcapital with hupper | hdigit | rfl
    · have halpha : d.isAlpha = true := Bool.or_eq_true_iff.mpr (.inl hupper)
      exact toNat_lt_of_isAlphanum (Bool.or_eq_true_iff.mpr (.inl halpha))
    · exact toNat_lt_of_isAlphanum (Bool.or_eq_true_iff.mpr (.inr hdigit))
    · decide
  exact of_forall_ascii
    (P := fun d ↦ d.isUpper = true ∨ d.isDigit = true ∨ d = '_' → ¬d.isLower = true)
    (by decide +kernel) hascii hcapital

/-! ## Reserved words -/

/-- Escaping touches the words of the table and nothing else. -/
theorem escapeReserved_cases (words : List String) (escape : String → String) (name : String) :
    name ∉ words ∧ escapeReserved words escape name = name ∨
      name ∈ words ∧ escapeReserved words escape name = escape name := by
  by_cases h : name ∈ words
  · exact .inr ⟨h, if_pos (List.contains_iff_mem.mpr h)⟩
  · exact .inl ⟨h, if_neg fun hcontains ↦ h (List.contains_iff_mem.mp hcontains)⟩

/-- One pass of escaping is enough if no escape is in the table again. -/
theorem escapeReserved_notMem {words : List String} {escape : String → String}
    (h : ∀ word ∈ words, escape word ∉ words) (name : String) :
    escapeReserved words escape name ∉ words := by
  rcases escapeReserved_cases words escape name with ⟨hname, heq⟩ | ⟨hname, heq⟩
  · rwa [heq]
  · rw [heq]
    exact h name hname

theorem IsIdentifier.underscore_append {name : String} (h : IsIdentifier name) :
    IsIdentifier ("_" ++ name) := by
  refine ⟨'_', name.toList, by simp, .inr rfl, fun d hd ↦ ?_⟩
  exact h.isAlphanum_or_eq d hd

theorem IsIdentifier.append_underscore {name : String} (h : IsIdentifier name) :
    IsIdentifier (name ++ "_") := by
  obtain ⟨c, cs, hname, hc, hcs⟩ := h
  refine ⟨c, cs ++ ['_'], by simp [hname], hc, fun d hd ↦ ?_⟩
  rcases List.mem_append.mp hd with hd | hd
  · exact hcs d hd
  · exact .inr (List.mem_singleton.mp hd)

namespace Binding

variable {b : Binding}

theorem mapIdentifier_eq (hb : b ∈ BindingSet.builtin.bindings) (name : String) :
    b.mapIdentifier name = escapeReserved b.reserved b.escape name := by
  obtain ⟨s, hs⟩ := exists_mem_builtinStyles hb
  exact (follows_of_mem_builtinStyles hs).mapIdentifier_eq name

theorem mapIdentifier_notMem_reserved (hb : b ∈ BindingSet.builtin.bindings) (name : String) :
    b.mapIdentifier name ∉ b.reserved := by
  rw [mapIdentifier_eq hb]
  exact escapeReserved_notMem (fun _ ↦ escape_notMem_reserved hb) name

/-- Where escapes are identifiers, so is everything that comes of an identifier. -/
theorem isIdentifier_mapIdentifier (hb : b ∈ BindingSet.builtin.bindings)
    (hescape : ∀ word, IsIdentifier word → IsIdentifier (b.escape word)) {name : String}
    (hname : IsIdentifier name) : IsIdentifier (b.mapIdentifier name) := by
  rw [mapIdentifier_eq hb]
  rcases escapeReserved_cases b.reserved b.escape name with ⟨-, heq⟩ | ⟨-, heq⟩
  · rwa [heq]
  · rw [heq]
    exact hescape name hname

/-- Enum members are sanitized and then escaped. -/
theorem mapEnumMember_eq (hb : b ∈ BindingSet.builtin.bindings) (value : String) :
    b.mapEnumMember value = b.mapIdentifier (sanitize value) := by
  rcases BindingSet.mem_builtin_iff.mp hb with rfl | rfl | rfl | rfl <;> rfl

theorem mem_builtin_of_mem (hb : b ∈ [java, typescript, python]) :
    b ∈ BindingSet.builtin.bindings := by
  simp only [List.mem_cons, List.not_mem_nil, or_false] at hb
  exact BindingSet.mem_builtin_iff.mpr (hb.imp_right .inr)

/-- The languages in which the escape of a word is an identifier. -/
theorem isIdentifier_escape (hb : b ∈ [java, typescript, python]) {word : String}
    (hword : IsIdentifier word) : IsIdentifier (b.escape word) := by
  simp only [List.mem_cons, List.not_mem_nil, or_false] at hb
  rcases hb with rfl | rfl | rfl
  · exact hword.underscore_append
  · exact hword.underscore_append
  · exact hword.append_underscore

/-- Every reserved word has a small letter. -/
theorem exists_isLower_of_mem_reserved (hb : b ∈ BindingSet.builtin.bindings) {word : String}
    (hword : word ∈ b.reserved) : ∃ c ∈ word.toList, c.isLower = true := by
  have htable : BindingSet.builtin.bindings.all (fun c ↦
      c.reserved.all fun word ↦ word.toList.any Char.isLower) = true := by decide +kernel
  exact List.any_eq_true.mp (List.all_eq_true.mp (List.all_eq_true.mp htable b hb) word hword)

theorem mapIdentifier_of_isConstantName (hb : b ∈ BindingSet.builtin.bindings) {name : String}
    (hname : IsConstantName name) : b.mapIdentifier name = name := by
  rw [mapIdentifier_eq hb]
  rcases escapeReserved_cases b.reserved b.escape name with ⟨-, heq⟩ | ⟨hmem, -⟩
  · exact heq
  · obtain ⟨c, hc, hlower⟩ := exists_isLower_of_mem_reserved hb hmem
    exact absurd hlower (hname.not_isLower hc)

end Binding

/-- **Any text becomes a legal identifier.** Sanitizing gives an identifier, and it changes exactly
the texts that are none. As a member of an enum the text becomes an identifier that is not reserved;
in Kotlin it may also become a reserved word between backticks. As a key constant it becomes a name
in capitals, and no language escapes that. -/
theorem text_becomes_identifier (value : String) :
    isIdentifier (sanitize value) = true ∧
      (sanitize value = value ↔ isIdentifier value = true) ∧
      sanitize (sanitize value) = sanitize value ∧
      (∀ b ∈ [Binding.java, .typescript, .python],
        isIdentifier (b.mapEnumMember value) = true ∧ b.mapEnumMember value ∉ b.reserved) ∧
      (isIdentifier (Binding.kotlin.mapEnumMember value) = true ∧
          Binding.kotlin.mapEnumMember value ∉ Binding.kotlin.reserved ∨
        ∃ word ∈ Binding.kotlin.reserved,
          Binding.kotlin.mapEnumMember value = "`" ++ word ++ "`") ∧
      ∀ b ∈ BindingSet.builtin.bindings,
        IsConstantName (b.mapIdentifier (upperSnakeCase (sanitize value))) ∧
          b.mapIdentifier (upperSnakeCase (sanitize value)) = upperSnakeCase (sanitize value) := by
  have hsanitized : IsIdentifier (sanitize value) := isIdentifier_sanitize value
  simp only [isIdentifier_iff]
  refine ⟨hsanitized, sanitize_eq_self_iff, sanitize_of_isIdentifier hsanitized, ?_, ?_, ?_⟩
  · intro b hb
    have hbuiltin : b ∈ BindingSet.builtin.bindings := Binding.mem_builtin_of_mem hb
    rw [Binding.mapEnumMember_eq hbuiltin]
    exact ⟨Binding.isIdentifier_mapIdentifier hbuiltin (fun _ ↦ Binding.isIdentifier_escape hb)
      hsanitized, Binding.mapIdentifier_notMem_reserved hbuiltin _⟩
  · have hkotlin : Binding.kotlin ∈ BindingSet.builtin.bindings :=
      List.mem_cons_of_mem _ List.mem_cons_self
    rw [Binding.mapEnumMember_eq hkotlin, Binding.mapIdentifier_eq hkotlin]
    rcases escapeReserved_cases Binding.kotlin.reserved Binding.kotlin.escape (sanitize value) with
      ⟨hfree, heq⟩ | ⟨hreserved, heq⟩
    · rw [heq]
      exact .inl ⟨hsanitized, hfree⟩
    · exact .inr ⟨sanitize value, hreserved, heq⟩
  · intro b hb
    have hconstant := isConstantName_upperSnakeCase hsanitized
    have heq := Binding.mapIdentifier_of_isConstantName hb hconstant
    exact ⟨heq.symm ▸ hconstant, heq⟩

/-- A word that is reserved in all four languages, and a text that needs every pass. -/
theorem text_becomes_identifier_class :
    [Binding.java, .kotlin, .typescript, .python].map (·.mapEnumMember "class")
        = ["_class", "`class`", "_class", "class_"] ∧
      isIdentifier "_class" = true ∧ "_class" ∉ Binding.java.reserved ∧
      (∃ word ∈ Binding.kotlin.reserved, "`class`" = "`" ++ word ++ "`") ∧
      sanitize "1stClass-größe" = "_1stClass_gr__e" ∧
      Binding.python.mapIdentifier (upperSnakeCase (sanitize "1stClass-größe"))
        = "_1ST_CLASS_GR__E" ∧
      IsConstantName "_1ST_CLASS_GR__E" := by
  obtain ⟨-, -, -, hmember, hkotlin, -⟩ := text_becomes_identifier "class"
  obtain ⟨-, -, -, -, -, hconstant⟩ := text_becomes_identifier "1stClass-größe"
  have hpython : Binding.python ∈ BindingSet.builtin.bindings :=
    Binding.mem_builtin_of_mem (by simp)
  obtain ⟨hname, -⟩ := hconstant .python hpython
  obtain ⟨hlegal, hfree⟩ := hmember .java List.mem_cons_self
  refine ⟨rfl, hlegal, hfree, ?_, rfl, rfl, hname⟩
  exact hkotlin.resolve_left fun h ↦ absurd h.1 (by decide)

end Cookery
