import Cookery.Binding.Kotlin
import Mathlib.Data.List.Basic
import Mathlib.Tactic.IntervalCases

/-!
# Reading string literals back

The text of a cookbook goes into string literals of the target languages, and there it must stay: a
quote in the text must not end the literal, a control character must not break the line, and in a
language with templates a `$` must not start one. Here the languages have the last word.
`readLiteral?` reads a literal as they do, and what it reads of a written literal is the string that
was written, whatever comes after the literal.

## Two writers, one argument

The Kotlin literal is written in two passes, and the second goes over text that the first has
already escaped. The passes do not interfere: no escape of the first contains a `$`, so the second
only meets those of the string itself. Hence either writer treats the string character by character,
`bodyChar`, and a single step lemma says that the reader takes one such piece off the front and
gives its character.
-/

namespace Cookery.Text

/-! ## The reader -/

/-- The character that a backslash and `c` stand for. Where there are templates, `$` needs an
escape. -/
def escapedChar? (template : Bool) (c : Char) : Option Char :=
  match c with
  | '"' => some '"'
  | '\\' => some '\\'
  | 'n' => some '\n'
  | 'r' => some '\r'
  | 't' => some '\t'
  | c => if template && c == '$' then some '$' else none

/-- The character whose code the digits write in hexadecimal. -/
def hexChar? (digits : List Char) : Option Char :=
  (readDigits? 16 digits).bind fun n ↦ if n.isValidChar then some (Char.ofNat n) else none

/-- Whether a character may stand for itself inside a literal. Quotes and backslashes never do. -/
def isPlain (template : Bool) (c : Char) : Bool :=
  c != '"' && c != '\\' && 0x20 ≤ c.toNat && !(template && c == '$')

/-- Reads a literal from behind its opening quote: the characters of the string, and what comes
after the closing quote. -/
def readBody? (template : Bool) : List Char → Option (List Char × List Char)
  | [] => none
  | '"' :: rest => some ([], rest)
  | '\\' :: 'u' :: d₁ :: d₂ :: d₃ :: d₄ :: rest =>
    (hexChar? [d₁, d₂, d₃, d₄]).bind fun c ↦
      (readBody? template rest).map fun p ↦ (c :: p.1, p.2)
  | '\\' :: e :: rest =>
    (escapedChar? template e).bind fun c ↦
      (readBody? template rest).map fun p ↦ (c :: p.1, p.2)
  | c :: rest =>
    if isPlain template c then (readBody? template rest).map fun p ↦ (c :: p.1, p.2) else none

/-- Reads a double-quoted literal at the start of a text: the string, and what comes after the
literal. -/
def readLiteral? (template : Bool) : List Char → Option (String × List Char)
  | '"' :: cs => (readBody? template cs).map fun p ↦ (String.ofList p.1, p.2)
  | _ => none

/-! ## Digits -/

theorem digitValue?_digitChar {n : Nat} (h : n < 16) : digitValue? (Nat.digitChar n) = some n := by
  interval_cases n <;> rfl

/-- Four digits suffice for the codes below 65536. -/
theorem readDigits?_hex4 {n : Nat} (h : n < 65536) : readDigits? 16 (hex4 n) = some n := by
  have hdigit (k : Nat) : digitValue? (Nat.digitChar (k % 16)) = some (k % 16) :=
    digitValue?_digitChar (Nat.mod_lt k (by decide))
  have hlt (k : Nat) : k % 16 < 16 := Nat.mod_lt k (by decide)
  simp only [readDigits?, hex4, List.isEmpty_cons, Bool.false_eq_true, if_false, List.foldlM_cons,
    List.foldlM_nil, hdigit, Option.bind_some, Option.bind_eq_bind, hlt, if_true]
  have hsum : (((0 * 16 + n / 4096 % 16) * 16 + n / 256 % 16) * 16 + n / 16 % 16) * 16 + n % 16
      = n := by omega
  rw [hsum]
  rfl

theorem hexChar?_hex4 {c : Char} (h : c.toNat < 65536) : hexChar? (hex4 c.toNat) = some c := by
  have hvalid : c.toNat.isValidChar := c.valid
  rw [hexChar?, readDigits?_hex4 h, Option.bind_some, if_pos hvalid, Char.ofNat_toNat]

/-! ## The writers, character by character -/

/-- What is written for a character. -/
def bodyChar (template : Bool) (c : Char) : List Char :=
  if template && c == '$' then ['\\', '$'] else literalChar c

/-- A character is written in one of three ways: by a short escape that stands for it, by its code,
which happens only to controls, or as itself. -/
theorem bodyChar_cases (template : Bool) (c : Char) :
    (∃ e, escapedChar? template e = some c ∧ bodyChar template c = ['\\', e]) ∨
      (c.toNat < 0x20 ∧ bodyChar template c = '\\' :: 'u' :: hex4 c.toNat) ∨
      (isPlain template c = true ∧ bodyChar template c = [c]) := by
  rw [bodyChar]
  by_cases hdollar : (template && c == '$') = true
  · obtain ⟨htemplate, hc⟩ := Bool.and_eq_true_iff.mp hdollar
    rw [if_pos hdollar, htemplate, beq_iff_eq.mp hc]
    exact .inl ⟨'$', rfl, rfl⟩
  rw [if_neg hdollar]
  unfold literalChar
  split
  · exact .inl ⟨'"', rfl, rfl⟩
  · exact .inl ⟨'\\', rfl, rfl⟩
  · exact .inl ⟨'n', rfl, rfl⟩
  · exact .inl ⟨'r', rfl, rfl⟩
  · exact .inl ⟨'t', rfl, rfl⟩
  · rename_i hquote hbackslash _ _ _
    by_cases hcontrol : c.toNat < 0x20
    · exact .inr (.inl ⟨hcontrol, if_pos hcontrol⟩)
    · refine .inr (.inr ⟨?_, if_neg hcontrol⟩)
      simp only [isPlain, Bool.and_eq_true, bne_iff_ne, decide_eq_true_eq, Bool.not_eq_true']
      exact ⟨⟨⟨hquote, hbackslash⟩, Nat.le_of_not_lt hcontrol⟩, Bool.not_eq_true _ ▸ hdollar⟩

theorem toList_doubleQuoted (s : String) :
    (doubleQuoted s).toList = '"' :: s.toList.flatMap (bodyChar false) ++ ['"'] := by
  rw [doubleQuoted, String.toList_ofList]
  rfl

/-- Escapes bring no `$` into the text. -/
theorem dollar_notMem_literalChar {c : Char} (hc : c ≠ '$') : '$' ∉ literalChar c := by
  have hbody : bodyChar false c = literalChar c := rfl
  rw [← hbody]
  rcases bodyChar_cases false c with ⟨e, he, hchar⟩ | ⟨-, hchar⟩ | ⟨-, hchar⟩
  · have hne : e ≠ '$' := by
      rintro rfl
      simp [escapedChar?] at he
    simp [hchar, hne.symm]
  · have hdigit (k : Nat) : '$' ≠ Nat.digitChar (k % 16) := by
      intro h
      have hvalue := digitValue?_digitChar (Nat.mod_lt k (by decide : 16 > 0))
      rw [← h] at hvalue
      cases hvalue
    simp [hchar, hex4, hdigit]
  · simp [hchar, hc.symm]

/-- So the pass over an escaped text only meets the `$` of the string itself. -/
theorem flatMap_literalChar (c : Char) :
    (literalChar c).flatMap (fun d ↦ if d = '$' then ['\\', '$'] else [d]) = bodyChar true c := by
  by_cases hc : c = '$'
  · rw [hc]
    rfl
  have hsame : (literalChar c).flatMap (fun d ↦ if d = '$' then ['\\', '$'] else [d])
      = (literalChar c).flatMap fun d ↦ [d] := by
    refine List.flatMap_congr fun d hd ↦ if_neg ?_
    rintro rfl
    exact dollar_notMem_literalChar hc hd
  have hbody : bodyChar true c = literalChar c := by
    rw [bodyChar, if_neg (by simpa using hc)]
  rw [hsame, List.flatMap_singleton', hbody]

theorem toList_doubleQuotedTemplate (s : String) :
    (doubleQuotedTemplate s).toList = '"' :: s.toList.flatMap (bodyChar true) ++ ['"'] := by
  rw [doubleQuotedTemplate, String.toList_ofList, doubleQuoted, String.toList_ofList,
    List.cons_append, List.flatMap_cons, List.flatMap_append, List.flatMap_assoc]
  simp only [flatMap_literalChar]
  rfl

/-! ## Reading what was written -/

section Reading

variable {template : Bool} {c : Char} {rest : List Char}

theorem readBody?_escape {e : Char} (h : escapedChar? template e = some c) :
    readBody? template ('\\' :: e :: rest)
      = (readBody? template rest).map fun p ↦ (c :: p.1, p.2) := by
  -- No short escape is a `u`, which announces a code.
  have hne : e ≠ 'u' := by
    rintro rfl
    simp [escapedChar?] at h
  rw [readBody?]
  · rw [h, Option.bind_some]
  · exact fun _ _ _ _ _ he _ ↦ hne he

theorem readBody?_code (h : c.toNat < 0x20) :
    readBody? template ('\\' :: 'u' :: hex4 c.toNat ++ rest)
      = (readBody? template rest).map fun p ↦ (c :: p.1, p.2) := by
  have hcode : hexChar? (hex4 c.toNat) = some c := hexChar?_hex4 (by omega)
  rw [hex4] at hcode ⊢
  rw [List.cons_append, List.cons_append]
  simp only [List.cons_append, List.nil_append]
  rw [readBody?, hcode, Option.bind_some]

theorem readBody?_plain (h : isPlain template c = true) :
    readBody? template (c :: rest)
      = (readBody? template rest).map fun p ↦ (c :: p.1, p.2) := by
  have hne : c ≠ '"' ∧ c ≠ '\\' := by
    simp only [isPlain, Bool.and_eq_true, bne_iff_ne] at h
    exact h.1.1
  rw [readBody?]
  · rw [if_pos h]
  · exact hne.1
  · exact fun _ _ _ _ _ hc _ ↦ hne.2 hc
  · exact fun _ _ hc _ ↦ hne.2 hc

end Reading

/-- The reader takes what was written for a character off the front of the text, and gives the
character. -/
theorem readBody?_bodyChar (template : Bool) (c : Char) (rest : List Char) :
    readBody? template (bodyChar template c ++ rest)
      = (readBody? template rest).map fun p ↦ (c :: p.1, p.2) := by
  rcases bodyChar_cases template c with ⟨e, he, hchar⟩ | ⟨hcontrol, hchar⟩ | ⟨hplain, hchar⟩
  · rw [hchar]
    exact readBody?_escape he
  · rw [hchar]
    exact readBody?_code hcontrol
  · rw [hchar]
    exact readBody?_plain hplain

/-- Character by character up to the closing quote, which is the first one that is not part of an
escape. -/
theorem readBody?_flatMap_bodyChar (template : Bool) (cs rest : List Char) :
    readBody? template (cs.flatMap (bodyChar template) ++ '"' :: rest) = some (cs, rest) := by
  induction cs with
  | nil => rfl
  | cons c cs ih =>
    rw [List.flatMap_cons, List.append_assoc, readBody?_bodyChar, ih]
    rfl

theorem readLiteral?_append {template : Bool} {text s : String}
    (htext : text.toList = '"' :: s.toList.flatMap (bodyChar template) ++ ['"'])
    (rest : List Char) : readLiteral? template (text.toList ++ rest) = some (s, rest) := by
  rw [htext, List.cons_append, List.cons_append, List.append_assoc, List.singleton_append,
    readLiteral?, readBody?_flatMap_bodyChar, Option.map_some, String.ofList_toList]

theorem injective_of_readLiteral? {template : Bool} {write : String → String}
    (h : ∀ s rest, readLiteral? template ((write s).toList ++ rest) = some (s, rest)) :
    Function.Injective write := by
  intro s u hsu
  have hs := h s []
  rw [hsu, h u []] at hs
  exact (Prod.mk.inj (Option.some.inj hs)).1.symm

/-- **String literals are read back.** A literal of any string, followed by any text, is read as
that string and no more of the text than the literal: the plain literal by a language without
templates, and the one of Kotlin by a language with templates, in which a bare `$` is an error. In
particular different strings have different literals. -/
theorem stringLiterals_read_back :
    (∀ s rest, readLiteral? false ((doubleQuoted s).toList ++ rest) = some (s, rest)) ∧
      (∀ s rest, readLiteral? true ((Binding.kotlin.spell (.string s)).toList ++ rest)
        = some (s, rest)) ∧
      Function.Injective doubleQuoted ∧
      Function.Injective fun s ↦ Binding.kotlin.spell (.string s) := by
  have hplain (s : String) (rest : List Char) :
      readLiteral? false ((doubleQuoted s).toList ++ rest) = some (s, rest) :=
    readLiteral?_append (toList_doubleQuoted s) rest
  have htemplate (s : String) (rest : List Char) :
      readLiteral? true ((doubleQuotedTemplate s).toList ++ rest) = some (s, rest) :=
    readLiteral?_append (toList_doubleQuotedTemplate s) rest
  exact ⟨hplain, htemplate, injective_of_readLiteral? hplain,
    injective_of_readLiteral? htemplate⟩

end Cookery.Text
