import Cookery.Proofs.EnumReferences
import Cookery.Proofs.LegalIdentifiers
import Cookery.Proofs.LiteralReading

/-!
# Literals that can be told apart

A list is written by joining the texts of its items with commas between two brackets, and the items
may be lists again, or strings that contain commas, brackets and quotes themselves. Still the text
says which list it was: how many items there are on every level, in which order, and what they are.

## Texts with something behind them

An item is never alone, so it is not enough that different literals have different texts. The text
of an item must say where it ends, with the rest of the list behind it. Words do not say that by
themselves, `1` begins like `12`, but whatever follows an item begins with one of few characters,
and words contain none of these. Strings may contain them, but a string is read up to its closing
quote whatever comes then. `Unambiguous` states what both have in common, and it passes from items
to lists. So the languages only have to be asked how they write words, strings and brackets, which
is `Binding.Delimits`.

Floats are left out. An integer is a literal of a float type too, and it is written as the float of
the same value.
-/

namespace Cookery

/-! ## What follows a literal -/

/-- The characters that can follow an item of a list: the comma before the next item, and the
brackets that close lists. -/
def delimiters : List Char :=
  [',', ']', ')', '\x7d']

/-- The text is over, or it goes on with a delimiter. -/
def Delimited (rest : List Char) : Prop :=
  ∀ c, rest.head? = some c → c ∈ delimiters

theorem delimited_cons {c : Char} (hc : c ∈ delimiters) (cs : List Char) : Delimited (c :: cs) := by
  intro d hd
  rwa [← Option.some.inj hd]

/-- A text in which there is no delimiter. -/
def IsUndelimited (text : String) : Prop :=
  ∀ c ∈ text.toList, c ∉ delimiters

theorem isUndelimited_of_all {text : String}
    (h : text.toList.all (!delimiters.contains ·) = true) : IsUndelimited text := by
  intro c hc
  have hnot := List.all_eq_true.mp h c hc
  simpa using hnot

/-- A text without delimiters ends where the first delimiter comes. -/
theorem append_inj_of_delimited {cs cs' rest rest' : List Char} (hcs : ∀ c ∈ cs, c ∉ delimiters)
    (hcs' : ∀ c ∈ cs', c ∉ delimiters) (hrest : Delimited rest) (hrest' : Delimited rest')
    (h : cs ++ rest = cs' ++ rest') : cs = cs' ∧ rest = rest' := by
  induction cs generalizing cs' with
  | nil =>
    cases cs' with
    | nil => exact ⟨rfl, h⟩
    | cons c cs' =>
      have hhead : rest.head? = some c := by
        rw [← List.nil_append rest, h]
        rfl
      exact absurd (hrest c hhead) (hcs' c List.mem_cons_self)
  | cons c cs ih =>
    cases cs' with
    | nil =>
      have hhead : rest'.head? = some c := by
        rw [← List.nil_append rest', ← h]
        rfl
      exact absurd (hrest' c hhead) (hcs c List.mem_cons_self)
    | cons c' cs' =>
      obtain ⟨rfl, htail⟩ := List.cons.inj h
      obtain ⟨-, hcs⟩ := List.forall_mem_cons.mp hcs
      obtain ⟨-, hcs'⟩ := List.forall_mem_cons.mp hcs'
      obtain ⟨rfl, hsame⟩ := ih hcs hcs' htail
      exact ⟨rfl, hsame⟩

/-! ## Unambiguous texts -/

/-- A way to write literals in which a text says which literal it is and where it ends, whatever
delimited text comes after it. -/
structure Unambiguous (writes : Literal → String → Prop) : Prop where
  /-- A text does not begin like the end of a list. -/
  starts : ∀ {v text}, writes v text → ∃ c cs, text.toList = c :: cs ∧ c ∉ delimiters
  /-- Equal texts with something behind them are the same literal with the same behind it. -/
  ends : ∀ {v w text text' rest rest'}, writes v text → writes w text' → Delimited rest →
    Delimited rest' → text.toList ++ rest = text'.toList ++ rest' → v = w ∧ rest = rest'

namespace Unambiguous

variable {writes : Literal → String → Prop}

theorem eq_of_eq (h : Unambiguous writes) {v w : Literal} {text : String} (hv : writes v text)
    (hw : writes w text) : v = w := by
  have hnil : Delimited [] := by
    intro c hc
    cases hc
  exact (h.ends hv hw hnil hnil rfl).1

/-- Words are unambiguous if different literals have different words. -/
theorem of_words (hword : ∀ v text, writes v text → text.toList ≠ [] ∧ IsUndelimited text)
    (hinj : ∀ v w text, writes v text → writes w text → v = w) : Unambiguous writes where
  starts {v text} hv := by
    obtain ⟨hne, hplain⟩ := hword v text hv
    obtain ⟨c, cs, hcs⟩ := List.exists_cons_of_ne_nil hne
    refine ⟨c, cs, hcs, hplain c ?_⟩
    rw [hcs]
    exact List.mem_cons_self
  ends {v w text text' rest rest'} hv hw hrest hrest' heq := by
    obtain ⟨htext, hsame⟩ :=
      append_inj_of_delimited (hword v text hv).2 (hword w text' hw).2 hrest hrest' heq
    rw [← String.toList_inj.mp htext] at hw
    exact ⟨hinj v w text hv hw, hsame⟩

/-- String literals are unambiguous, because they are read back whatever comes after them. -/
theorem of_strings (template : Bool) (hquoted : ∀ v text, writes v text → ∃ s, v = .string s ∧
      text.toList = '"' :: s.toList.flatMap (Text.bodyChar template) ++ ['"']) :
    Unambiguous writes where
  starts {v text} hv := by
    obtain ⟨s, -, htext⟩ := hquoted v text hv
    exact ⟨'"', _, htext, by decide⟩
  ends {v w text text' rest rest'} hv hw _ _ heq := by
    obtain ⟨s, rfl, htext⟩ := hquoted v text hv
    obtain ⟨s', rfl, htext'⟩ := hquoted w text' hw
    have hread := Text.readLiteral?_append htext rest
    rw [heq, Text.readLiteral?_append htext' rest'] at hread
    obtain ⟨rfl, rfl⟩ := Prod.mk.inj (Option.some.inj hread)
    exact ⟨rfl, rfl⟩

end Unambiguous

/-! ## Lists of unambiguous texts -/

/-- The items of a list after the first, each with the comma before it. -/
def followingItems (texts : List String) : List Char :=
  texts.flatMap fun text ↦ ',' :: ' ' :: text.toList

theorem toList_intercalate_cons (text : String) (texts : List String) :
    (", ".intercalate (text :: texts)).toList = text.toList ++ followingItems texts := by
  rw [String.toList_intercalate]
  induction texts generalizing text with
  | nil => simp [followingItems]
  | cons next texts ih =>
    rw [List.map_cons, List.map_cons, List.intercalate_cons_cons, ← List.map_cons, ih]
    simp [followingItems]

/-- How a language writes lists: between two brackets, of which the second is no comma, and with
commas between the items. What stands before the items may depend on their type. -/
def SequenceStyle.Encloses (s : SequenceStyle) : Prop :=
  ∀ item, ∃ c opening closing, c ∉ delimiters ∧ closing ∈ delimiters ∧ closing ≠ ',' ∧ ∀ texts,
    (s.literal item texts).toList
      = c :: opening ++ (", ".intercalate texts).toList ++ [closing]

section Lists

variable {writes : Literal → String → Prop} (h : Unambiguous writes) {closing : Char}
  (hclosing : closing ∈ delimiters)

include hclosing

theorem delimited_followingItems (texts : List String) (rest : List Char) :
    Delimited (followingItems texts ++ closing :: rest) := by
  cases texts with
  | nil => exact delimited_cons hclosing rest
  | cons text texts => exact delimited_cons (by decide) _

include h

variable (hcomma : closing ≠ ',')

include hcomma

/-- Item by item: the comma says that there is a next one, and its text says where it ends. -/
theorem eq_of_followingItems_eq {items items' : List Literal} {texts texts' : List String}
    {rest rest' : List Char} (hitems : List.Forall₂ writes items texts)
    (hitems' : List.Forall₂ writes items' texts')
    (heq : followingItems texts ++ closing :: rest = followingItems texts' ++ closing :: rest') :
    items = items' ∧ rest = rest' := by
  induction hitems generalizing items' texts' with
  | nil =>
    cases hitems' with
    | nil => exact ⟨rfl, (List.cons.inj heq).2⟩
    | cons => exact absurd (List.cons.inj heq).1 hcomma
  | @cons v text items texts hv _ ih =>
    cases hitems' with
    | nil => exact absurd (List.cons.inj heq).1.symm hcomma
    | @cons w text' items' texts' hw hrest =>
      have hbehind : text.toList ++ (followingItems texts ++ closing :: rest)
          = text'.toList ++ (followingItems texts' ++ closing :: rest') := by
        simpa [followingItems] using heq
      obtain ⟨rfl, hfollowing⟩ := h.ends hv hw (delimited_followingItems hclosing texts rest)
        (delimited_followingItems hclosing texts' rest') hbehind
      obtain ⟨rfl, hsame⟩ := ih hrest hfollowing
      exact ⟨rfl, hsame⟩

theorem eq_of_intercalate_eq {items items' : List Literal} {texts texts' : List String}
    {rest rest' : List Char} (hitems : List.Forall₂ writes items texts)
    (hitems' : List.Forall₂ writes items' texts')
    (heq : (", ".intercalate texts).toList ++ closing :: rest
      = (", ".intercalate texts').toList ++ closing :: rest') :
    items = items' ∧ rest = rest' := by
  -- The bracket that closes an empty list cannot be taken for an item.
  have hempty {v : Literal} {text : String} (hv : writes v text) (cs : List Char) {ds : List Char}
      (hds : closing :: ds = text.toList ++ cs) : False := by
    obtain ⟨c, ds', htext, hc⟩ := h.starts hv
    rw [htext] at hds
    exact hc ((List.cons.inj hds).1 ▸ hclosing)
  cases hitems with
  | nil =>
    cases hitems' with
    | nil => exact ⟨rfl, (List.cons.inj heq).2⟩
    | cons hw _ =>
      rw [toList_intercalate_cons, List.append_assoc] at heq
      exact (hempty hw _ heq).elim
  | @cons v text items texts hv hrest =>
    cases hitems' with
    | nil =>
      rw [toList_intercalate_cons, List.append_assoc] at heq
      exact (hempty hv _ heq.symm).elim
    | @cons w text' items' texts' hw hrest' =>
      rw [toList_intercalate_cons, toList_intercalate_cons, List.append_assoc,
        List.append_assoc] at heq
      obtain ⟨rfl, hfollowing⟩ := h.ends hv hw (delimited_followingItems hclosing texts rest)
        (delimited_followingItems hclosing texts' rest') heq
      obtain ⟨rfl, hsame⟩ := eq_of_followingItems_eq h hclosing hcomma hrest hrest' hfollowing
      exact ⟨rfl, hsame⟩

end Lists

/-- Lists of unambiguous items are unambiguous. -/
theorem Unambiguous.list {writes writesList : Literal → String → Prop} (h : Unambiguous writes)
    {s : SequenceStyle} (hs : s.Encloses) (item : String)
    (hlist : ∀ v text, writesList v text → ∃ items texts, v = .list items ∧
      List.Forall₂ writes items texts ∧ text = s.literal item texts) :
    Unambiguous writesList := by
  obtain ⟨c, opening, closing, hc, hclosing, hcomma, hliteral⟩ := hs item
  refine ⟨fun {v text} hv ↦ ?_, fun {v w text text' rest rest'} hv hw _ _ heq ↦ ?_⟩
  · obtain ⟨items, texts, -, -, rfl⟩ := hlist v text hv
    exact ⟨c, _, hliteral texts, hc⟩
  · obtain ⟨items, texts, rfl, hitems, rfl⟩ := hlist v text hv
    obtain ⟨items', texts', rfl, hitems', rfl⟩ := hlist w text' hw
    -- What stands before the items is the same on both sides.
    have hinside : (", ".intercalate texts).toList ++ closing :: rest
        = (", ".intercalate texts').toList ++ closing :: rest' := by
      rw [hliteral, hliteral] at heq
      simpa using heq
    obtain ⟨rfl, hsame⟩ := eq_of_intercalate_eq h hclosing hcomma hitems hitems' hinside
    exact ⟨rfl, hsame⟩

/-! ## The languages -/

/-- The words for the two truth values, in the languages that come with the tool. -/
def truthWords : List (String × String) :=
  [("true", "false"), ("True", "False")]

/-- What keeps the literals of a language apart: truth values and identifiers are words without
delimiters, integers are decimal, strings are quoted and lists are enclosed in brackets. -/
structure Binding.Delimits (b : Binding) (s : SequenceStyle) : Prop where
  spell_bool : ∃ words ∈ truthWords, ∀ x, b.spell (.bool x) = if x then words.1 else words.2
  spell_int : ∀ i, b.spell (.int i) = toString i.toInt
  spell_string : ∃ template, ∀ s, (b.spell (.string s)).toList
    = '"' :: s.toList.flatMap (Text.bodyChar template) ++ ['"']
  escape_chars : ∀ name, ∀ c ∈ (b.escape name).toList, c ∈ name.toList ∨ c = '_' ∨ c = '`'
  mapEnumMember_eq : ∀ value, b.mapEnumMember value = b.mapIdentifier (sanitize value)
  encloses : s.Encloses

theorem encloses_java : SequenceStyle.java.Encloses := by
  intro item
  refine ⟨'n', ("ew " ++ item ++ "[] \x7b").toList, '\x7d', by decide, by decide, by decide, ?_⟩
  intro texts
  simp [SequenceStyle.java]

theorem encloses_kotlin : SequenceStyle.kotlin.Encloses := by
  intro item
  refine ⟨'l', ("istOf<" ++ item ++ ">(").toList, ')', by decide, by decide, by decide, ?_⟩
  intro texts
  simp [SequenceStyle.kotlin]

theorem encloses_brackets {s : SequenceStyle}
    (h : ∀ item texts, s.literal item texts = "[" ++ ", ".intercalate texts ++ "]") :
    s.Encloses := by
  intro item
  refine ⟨'[', [], ']', by decide, by decide, by decide, fun texts ↦ ?_⟩
  simp [h]

namespace Binding

theorem delimits_java : java.Delimits .java where
  spell_bool := ⟨("true", "false"), by decide, fun _ ↦ rfl⟩
  spell_int _ := rfl
  spell_string := ⟨false, Text.toList_doubleQuoted⟩
  escape_chars name c hc := by
    have hcases : c = '_' ∨ c ∈ name.toList := by simpa [java] using hc
    tauto
  mapEnumMember_eq _ := rfl
  encloses := encloses_java

theorem delimits_kotlin : kotlin.Delimits .kotlin where
  spell_bool := ⟨("true", "false"), by decide, fun _ ↦ rfl⟩
  spell_int _ := rfl
  spell_string := ⟨true, Text.toList_doubleQuotedTemplate⟩
  escape_chars name c hc := by
    have hcases : c = '`' ∨ c ∈ name.toList ∨ c = '`' := by simpa [kotlin, Kotlin.escape] using hc
    tauto
  mapEnumMember_eq _ := rfl
  encloses := encloses_kotlin

theorem delimits_typescript : typescript.Delimits .typescript where
  spell_bool := ⟨("true", "false"), by decide, fun _ ↦ rfl⟩
  spell_int _ := rfl
  spell_string := ⟨false, Text.toList_doubleQuoted⟩
  escape_chars name c hc := by
    have hcases : c = '_' ∨ c ∈ name.toList := by simpa [typescript] using hc
    tauto
  mapEnumMember_eq _ := rfl
  encloses := encloses_brackets fun _ _ ↦ rfl

theorem delimits_python : python.Delimits .python where
  spell_bool := ⟨("True", "False"), by decide, fun _ ↦ rfl⟩
  spell_int _ := rfl
  spell_string := ⟨false, Text.toList_doubleQuoted⟩
  escape_chars name c hc := by
    have hcases : c ∈ name.toList ∨ c = '_' := by simpa [python, Python.escape] using hc
    tauto
  mapEnumMember_eq _ := rfl
  encloses := encloses_brackets fun _ _ ↦ rfl

theorem delimits_of_mem_builtinStyles {b : Binding} {s : SequenceStyle}
    (h : (b, s) ∈ builtinStyles) : b.Delimits s := by
  simp only [builtinStyles, List.mem_cons, List.not_mem_nil, or_false, Prod.mk.injEq] at h
  rcases h with ⟨rfl, rfl⟩ | ⟨rfl, rfl⟩ | ⟨rfl, rfl⟩ | ⟨rfl, rfl⟩
  · exact delimits_java
  · exact delimits_kotlin
  · exact delimits_typescript
  · exact delimits_python

end Binding

/-! ## Words -/

theorem isDigit_of_mem_repr {n : Nat} {c : Char} (hc : c ∈ n.repr.toList) :
    c.isDigit = true := by
  rw [Nat.repr_eq_ofList_toDigits, String.toList_ofList] at hc
  exact Nat.isDigit_of_mem_toDigits (by decide) (by decide) hc

/-- An integer is written with digits, and a minus sign if it is negative. -/
theorem isDigit_or_eq_of_mem_toString {i : Int} {c : Char} (hc : c ∈ (toString i).toList) :
    c.isDigit = true ∨ c = '-' := by
  rw [Int.toString_eq_repr, Int.repr_eq_if] at hc
  split at hc
  · exact .inl (isDigit_of_mem_repr hc)
  · rw [String.toList_append, List.mem_append] at hc
    rcases hc with hc | hc
    · exact .inr (List.mem_singleton.mp hc)
    · exact .inl (isDigit_of_mem_repr hc)

/-- The digits of a number say which number it is. -/
theorem eq_of_repr_eq {m n : Nat} (h : m.repr = n.repr) : m = n := by
  have hread (k : Nat) : Nat.ofDigitChars 10 k.repr.toList 0 = k := by
    rw [Nat.repr_eq_ofList_toDigits, String.toList_ofList]
    exact Nat.ofDigitChars_toDigits (by decide) (by decide)
  rw [← hread m, h, hread n]

theorem eq_of_toString_eq {i j : Int} (h : toString i = toString j) : i = j := by
  -- A minus sign is no digit, so the texts say which numbers are negative.
  have hsign {m n : Nat} : m.repr ≠ "-" ++ n.repr := by
    intro heq
    have hminus : '-' ∈ m.repr.toList := by simp [heq]
    exact absurd (isDigit_of_mem_repr hminus) (by decide)
  rw [Int.toString_eq_repr, Int.toString_eq_repr, Int.repr_eq_if, Int.repr_eq_if] at h
  by_cases hi : 0 ≤ i <;> by_cases hj : 0 ≤ j
  · rw [if_pos hi, if_pos hj] at h
    have hsame := eq_of_repr_eq h
    omega
  · rw [if_pos hi, if_neg hj] at h
    exact absurd h hsign
  · rw [if_neg hi, if_pos hj] at h
    exact absurd h.symm hsign
  · rw [if_neg hi, if_neg hj, String.append_right_inj] at h
    have hsame := eq_of_repr_eq h
    omega

theorem toList_toString_ne_nil (i : Int) : (toString i).toList ≠ [] := by
  have hne (n : Nat) : n.repr.toList ≠ [] := by
    rw [Nat.repr_eq_ofList_toDigits, String.toList_ofList]
    exact Nat.toDigits_ne_nil
  rw [Int.toString_eq_repr, Int.repr_eq_if]
  split
  · exact hne _
  · rw [String.toList_append]
    exact List.append_ne_nil_of_right_ne_nil _ (hne _)

theorem isUndelimited_toString (i : Int) : IsUndelimited (toString i) := by
  intro c hc hmem
  simp only [delimiters, List.mem_cons, List.not_mem_nil, or_false] at hmem
  have hword := isDigit_or_eq_of_mem_toString hc
  rcases hmem with rfl | rfl | rfl | rfl <;> exact absurd hword (by decide)

namespace Binding.Delimits

variable {b : Binding} {s : SequenceStyle} {writes : Literal → String → Prop}

theorem unambiguous_bool (h : b.Delimits s)
    (hbool : ∀ v text, writes v text → ∃ x, v = .bool x ∧ text = b.spell (.bool x)) :
    Unambiguous writes := by
  obtain ⟨words, hwords, hspell⟩ := h.spell_bool
  simp only [truthWords, List.mem_cons, List.not_mem_nil, or_false] at hwords
  have hplain : ∀ x, (b.spell (.bool x)).toList ≠ [] ∧ IsUndelimited (b.spell (.bool x)) := by
    intro x
    rw [hspell]
    rcases hwords with rfl | rfl <;> cases x <;> exact ⟨by decide, isUndelimited_of_all rfl⟩
  have happart : words.1 ≠ words.2 := by
    rcases hwords with rfl | rfl <;> decide
  refine .of_words (fun v text hv ↦ ?_) fun v w text hv hw ↦ ?_
  · obtain ⟨x, -, rfl⟩ := hbool v text hv
    exact hplain x
  · obtain ⟨x, rfl, rfl⟩ := hbool v text hv
    obtain ⟨y, rfl, heq⟩ := hbool w _ hw
    rw [hspell, hspell] at heq
    cases x <;> cases y <;> simp_all

theorem unambiguous_int (h : b.Delimits s)
    (hint : ∀ v text, writes v text → ∃ i, v = .int i ∧ text = b.spell (.int i)) :
    Unambiguous writes := by
  refine .of_words (fun v text hv ↦ ?_) fun v w text hv hw ↦ ?_
  · obtain ⟨i, -, rfl⟩ := hint v text hv
    rw [h.spell_int]
    exact ⟨toList_toString_ne_nil _, isUndelimited_toString _⟩
  · obtain ⟨i, rfl, rfl⟩ := hint v text hv
    obtain ⟨j, rfl, heq⟩ := hint w _ hw
    rw [h.spell_int, h.spell_int] at heq
    rw [Int64.toInt_inj.mp (eq_of_toString_eq heq)]

/-- Identifiers of a language are made of the characters of identifiers and of backticks. -/
theorem isUndelimited_mapIdentifier (h : b.Delimits s) (hs : b.Follows s) {name : String}
    (hname : IsIdentifier name) : IsUndelimited (b.mapIdentifier name) := by
  have hchars : ∀ c ∈ (b.mapIdentifier name).toList, c ∈ name.toList ∨ c = '_' ∨ c = '`' := by
    intro c hc
    rw [hs.mapIdentifier_eq, escapeReserved] at hc
    split at hc
    · exact h.escape_chars name c hc
    · exact .inl hc
  intro c hc hmem
  have hword : (c.isAlphanum = true ∨ c = '_') ∨ c = '_' ∨ c = '`' :=
    (hchars c hc).imp_left (hname.isAlphanum_or_eq c)
  simp only [delimiters, List.mem_cons, List.not_mem_nil, or_false] at hmem
  rcases hmem with rfl | rfl | rfl | rfl <;> exact absurd hword (by decide)

/-- Members are told apart by their identifiers, behind the identifier of the enum. -/
theorem unambiguous_enum (h : b.Delimits s) (hs : b.Follows s) {d : EnumDef}
    (hname : IsIdentifier d.name) (hdistinct : (d.values.map b.mapEnumMember).Nodup)
    (hmember : ∀ v text, writes v text → ∃ value ∈ d.values, v = .string value ∧
      text = b.spell (.enumMember (b.mapIdentifier d.name) (b.mapEnumMember value))) :
    Unambiguous writes := by
  have hdot : IsUndelimited "." := isUndelimited_of_all rfl
  refine .of_words (fun v text hv ↦ ?_) fun v w text hv hw ↦ ?_
  · obtain ⟨value, -, -, rfl⟩ := hmember v text hv
    have henum := h.isUndelimited_mapIdentifier hs hname
    have hvalue : IsUndelimited (b.mapEnumMember value) := by
      rw [h.mapEnumMember_eq]
      exact h.isUndelimited_mapIdentifier hs (isIdentifier_sanitize value)
    rw [hs.spell_enumMember]
    constructor
    · simp
    · intro c hc
      rw [String.toList_append, String.toList_append, List.mem_append, List.mem_append] at hc
      rcases hc with (hc | hc) | hc
      · exact henum c hc
      · exact hdot c hc
      · exact hvalue c hc
  · obtain ⟨value, hvalue, rfl, rfl⟩ := hmember v text hv
    obtain ⟨value', hvalue', rfl, heq⟩ := hmember w _ hw
    rw [hs.spell_enumMember, hs.spell_enumMember, String.append_right_inj] at heq
    rw [List.inj_on_of_nodup_map hdistinct hvalue hvalue' heq]

end Binding.Delimits

/-! ## Literals of a type -/

/-- The types whose literals can be told from their texts: arrays of any depth over truth values,
flags, integers, strings, or an enum whose members have different identifiers. -/
inductive BaseType.Distinguishable (b : Binding) (cb : Cookbook) : BaseType → Prop
  | boolean : Distinguishable b cb (.primitive .boolean)
  | flag : Distinguishable b cb .flag
  | int : Distinguishable b cb (.primitive .int)
  | string : Distinguishable b cb (.primitive .string)
  | enumRef {d : EnumDef} (declared : d ∈ cb.enums)
      (distinct : (d.values.map b.mapEnumMember).Nodup) : Distinguishable b cb (.enumRef d.name)
  | array {item : BaseType} (h : Distinguishable b cb item) : Distinguishable b cb (.array item)

/-- What can be spelled is a literal of the type. -/
theorem Spelling.conforms_of_spellBaseValue {b : Spelling} {cb : Cookbook} {base : BaseType}
    {v : Literal} {text : String} (h : b.spellBaseValue cb base v = .ok text) :
    base.Conforms cb v :=
  BaseType.check_eq_ok_iff.mp
    ((agree_of_map_eq_mapError (b.map_spellBaseValue cb base v)).1.mp ⟨text, h⟩)

theorem unambiguous_spellBaseValue {b : Binding} {s : SequenceStyle} (hs : b.Follows s)
    (hd : b.Delimits s) {cb : Cookbook} (hrules : ∀ rule : Rule, rule.Holds cb) {base : BaseType}
    (h : base.Distinguishable b cb) :
    Unambiguous fun v text ↦ b.toSpelling.spellBaseValue cb base v = .ok text := by
  induction h with
  | boolean =>
    refine hd.unambiguous_bool fun v text hv ↦ ?_
    cases Spelling.conforms_of_spellBaseValue hv with
    | boolean x => exact ⟨x, rfl, (Except.ok.inj hv).symm⟩
  | flag =>
    refine hd.unambiguous_bool fun v text hv ↦ ?_
    cases Spelling.conforms_of_spellBaseValue hv with
    | flag x => exact ⟨x, rfl, (Except.ok.inj hv).symm⟩
  | int =>
    refine hd.unambiguous_int fun v text hv ↦ ?_
    cases Spelling.conforms_of_spellBaseValue hv with
    | @int i lower upper =>
      rw [Spelling.spellBaseValue, if_pos (fitsInt32_iff.mpr ⟨lower, upper⟩)] at hv
      exact ⟨i, rfl, (Except.ok.inj hv).symm⟩
  | string =>
    obtain ⟨template, hquoted⟩ := hd.spell_string
    refine .of_strings template fun v text hv ↦ ?_
    cases Spelling.conforms_of_spellBaseValue hv with
    | string x =>
      rw [← Except.ok.inj hv]
      exact ⟨x, rfl, hquoted x⟩
  | @enumRef d declared distinct =>
    have hnames : Rule.uniqueEnumNames.Holds cb := hrules _
    have hidentifiers : Rule.enumNameSyntax.Holds cb := hrules _
    have hfound := (find?_name_eq_some_iff hnames).mpr ⟨declared, rfl⟩
    refine hd.unambiguous_enum hs (hidentifiers d declared).1 distinct fun v text hv ↦ ?_
    exact (Spelling.spellBaseValue_enumRef_eq_ok_iff hfound).mp hv
  | @array item _ ih =>
    refine ih.list hd.encloses (b.mapType ⟨item, false⟩ true) fun v text hv ↦ ?_
    obtain ⟨items, texts, rfl, hitems, rfl⟩ := Spelling.spellBaseValue_array_eq_ok_iff.mp hv
    exact ⟨items, texts, rfl, hitems, hs.spell_array _ texts⟩

theorem BaseType.Distinguishable.erase {b : Binding} {cb : Cookbook} {t : ParamType}
    (h : t.base.Distinguishable b cb) : t.erase.base.Distinguishable b cb := by
  obtain ⟨base, vararg⟩ := t
  cases vararg with
  | false => exact h
  | true => exact .array h

/-- **Literals lose nothing.** In a language that comes with the tool and for a valid cookbook, two
literals of a type that have one text are the same, item by item on every level. The type may be any
number of arrays, with or without vararg mark, over truth values, flags, integers, strings or an
enum whose members have different identifiers. -/
theorem Binding.eq_of_mapValue_eq (b : Binding) (hb : b ∈ BindingSet.builtin.bindings)
    (cb : Cookbook) (hvalid : cb.validate = .ok ()) (t : ParamType)
    (ht : t.base.Distinguishable b cb) (v w : Literal) (text : String)
    (hv : b.mapValue cb t v = .ok text) (hw : b.mapValue cb t w = .ok text) : v = w := by
  obtain ⟨s, hmem⟩ := exists_mem_builtinStyles hb
  have hs := follows_of_mem_builtinStyles hmem
  have hd := delimits_of_mem_builtinStyles hmem
  have hunambiguous := unambiguous_spellBaseValue hs hd (Rule.holds_of_validate hvalid) ht.erase
  rw [hs.standard, Spelling.spellValue_eq_ok_iff] at hv hw
  exact hunambiguous.eq_of_eq hv hw

/-- Two strings in a list, and one string that contains what stands between them. -/
theorem Binding.eq_of_mapValue_eq_quoted :
    let cb : Cookbook := { enums := [⟨"Size", ["small", "large"]⟩] }
    let t : ParamType := ⟨.array (.primitive .string), true⟩
    cb.validate = .ok () ∧ ∃ text text',
      Binding.kotlin.mapValue cb t (.list [.list [.string "a", .string "b"]]) = .ok text ∧
      Binding.kotlin.mapValue cb t (.list [.list [.string "a\", \"b"]]) = .ok text' ∧
      text ≠ text' := by
  intro cb t
  have hb : Binding.kotlin ∈ BindingSet.builtin.bindings :=
    List.mem_cons_of_mem _ List.mem_cons_self
  refine ⟨rfl, _, _, rfl, rfl, fun heq ↦ ?_⟩
  have hsame := Binding.eq_of_mapValue_eq .kotlin hb cb rfl t (.array .string)
    (.list [.list [.string "a", .string "b"]]) (.list [.list [.string "a\", \"b"]]) _ rfl
    (congrArg Except.ok heq.symm)
  simp at hsame

end Cookery
