import Cookery.Json.Reader
import Cookery.Proofs.LiteralReading
import Mathlib.Data.List.Forall2

/-!
# Reading JSON texts back

Values are written with one entry on a line, and read by a reader that knows nothing of this layout:
it skips blanks wherever JSON has them. That the reader undoes the writer is shown here for values
without numbers. Each part of a text is read by itself, whatever comes after it, which is what
`ReadsAs` says; strings go character by character, and lists and objects are one argument, since
both are entries between brackets.

## What the depth is for

The reader recurses on how much deeper values may nest, and refuses what is nested deeper. The
predicate `Textual` counts along, so that an induction over it is at the same time one over the
value and one over the depth, and gives for each item of a list the level at which it is read.
-/

namespace Cookery.Json

/-! ## Strings -/

/-- A character is written in one of three ways: by a short escape that stands for it, by its code,
which happens only to controls, or as itself. -/
theorem stringChar_cases (c : Char) :
    (∃ e, simpleEscape? e = some c ∧ stringChar c = ['\\', e]) ∨
      (c.toNat < 0x20 ∧ stringChar c = '\\' :: 'u' :: Text.hex4 c.toNat) ∨
      (c ≠ '"' ∧ c ≠ '\\' ∧ ¬c.toNat < 0x20 ∧ stringChar c = [c]) := by
  unfold stringChar
  split
  · exact .inl ⟨'"', rfl, rfl⟩
  · exact .inl ⟨'\\', rfl, rfl⟩
  · exact .inl ⟨'n', rfl, rfl⟩
  · exact .inl ⟨'r', rfl, rfl⟩
  · exact .inl ⟨'t', rfl, rfl⟩
  · exact .inl ⟨'b', rfl, rfl⟩
  · exact .inl ⟨'f', rfl, rfl⟩
  · next hquote hbackslash _ _ _ _ _ =>
    by_cases hcontrol : c.toNat < 0x20
    · exact .inr (.inl ⟨hcontrol, if_pos hcontrol⟩)
    · exact .inr (.inr ⟨hquote, hbackslash, hcontrol, if_neg hcontrol⟩)

theorem head?_stringChar_append_ne (c : Char) (rest : List Char) :
    (stringChar c ++ rest).head? ≠ some '"' := by
  rcases stringChar_cases c with ⟨e, -, hc⟩ | ⟨-, hc⟩ | ⟨hquote, -, -, hc⟩
  · simp [hc]
  · simp [hc]
  · simpa [hc] using hquote

theorem readChar?_escape {e c : Char} (h : simpleEscape? e = some c) (rest : List Char) :
    readChar? ('\\' :: e :: rest) = some (c, rest) := by
  unfold readChar?
  split
  · next heq =>
    obtain ⟨rfl, -⟩ := List.cons.inj (List.cons.inj heq).2
    cases h
  · next heq =>
    obtain ⟨rfl, rfl⟩ := List.cons.inj (List.cons.inj heq).2
    rw [h]
    rfl
  · next hother heq =>
    exact (hother e rest (List.cons.inj heq).1.symm (List.cons.inj heq).2.symm).elim
  · next heq => cases heq

theorem readChar?_plain {c : Char} (hbackslash : c ≠ '\\') (hcontrol : ¬c.toNat < 0x20)
    (rest : List Char) : readChar? (c :: rest) = some (c, rest) := by
  unfold readChar?
  split
  · next heq => exact absurd (List.cons.inj heq).1 hbackslash
  · next heq => exact absurd (List.cons.inj heq).1 hbackslash
  · next heq =>
    obtain ⟨rfl, rfl⟩ := List.cons.inj heq
    exact if_neg hcontrol
  · next heq => cases heq

theorem readUnit?_hex4 {c : Char} (h : c.toNat < 0x20) (rest : List Char) :
    readUnit? (Text.hex4 c.toNat ++ rest) = some (c, rest) := by
  have hhex : readHex4? (Text.hex4 c.toNat ++ rest) = some (c.toNat, rest) := by
    have hdigits := Text.readDigits?_hex4 (show c.toNat < 65536 by omega)
    rw [Text.hex4] at hdigits ⊢
    simp [readHex4?, hdigits]
  rw [readUnit?, hhex]
  simp only [Option.bind_eq_bind, Option.bind_some]
  -- A control is far below the surrogates.
  rw [if_neg (by simp; omega), if_neg (by simp; omega), Char.ofNat_toNat]

/-- A character is read back from what is written for it. -/
theorem readChar?_stringChar (c : Char) (rest : List Char) :
    readChar? (stringChar c ++ rest) = some (c, rest) := by
  rcases stringChar_cases c with ⟨e, he, hc⟩ | ⟨hcontrol, hc⟩ | ⟨-, hbackslash, hcontrol, hc⟩
  · rw [hc]
    exact readChar?_escape he rest
  · rw [hc]
    exact readUnit?_hex4 hcontrol rest
  · rw [hc]
    exact readChar?_plain hbackslash hcontrol rest

theorem readChars?_of_readChar? {cs rest : List Char} {c : Char} (hquote : cs.head? ≠ some '"')
    (h : readChar? cs = some (c, rest)) :
    readChars? cs = (readChars? rest).map fun x ↦ (c :: x.1, x.2) := by
  rw [readChars?.eq_def]
  split
  · simp at hquote
  · split
    · next hnone => rw [h] at hnone; cases hnone
    · next hsome =>
      rw [h] at hsome
      cases hsome
      rfl

theorem readChars?_flatMap_stringChar (cs rest : List Char) :
    readChars? (cs.flatMap stringChar ++ '"' :: rest) = some (cs, rest) := by
  induction cs with
  | nil => rw [readChars?.eq_def]; rfl
  | cons c cs ih =>
    rw [List.flatMap_cons, List.append_assoc,
      readChars?_of_readChar? (head?_stringChar_append_ne c _) (readChar?_stringChar c _), ih]
    rfl

theorem readString?_stringChars (s : String) (rest : List Char) :
    readString? (stringChars s ++ rest) = some (s, rest) := by
  rw [stringChars, List.cons_append, List.cons_append, List.append_assoc, List.singleton_append,
    readString?, readChars?_flatMap_stringChar]
  simp

/-! ## Blanks -/

/-- Blanks are skipped up to a character that is none. -/
theorem skipBlanks_cons_of_not {c : Char} (h : isBlank c = false) (cs : List Char) :
    skipBlanks (c :: cs) = c :: cs := by
  simp [skipBlanks, h]

theorem skipBlanks_newline_append (depth : Nat) (cs : List Char) :
    skipBlanks (newline depth ++ cs) = skipBlanks cs := by
  refine List.dropWhile_append_of_pos fun c hc ↦ ?_
  rcases List.mem_cons.mp hc with rfl | hc
  · rfl
  · rw [List.eq_of_mem_replicate hc]
    rfl

/-! ## Brackets -/

/-- The text is read as `a`, whatever comes after it. -/
def ReadsAs {α : Type} (read : List Char → Option (α × List Char)) (text : List Char) (a : α) :
    Prop :=
  ∀ rest, read (text ++ rest) = some (a, rest)

/-- The text starts with neither a blank nor the bracket that would end the list of entries. -/
def StartsEntry (closing : Char) (text : List Char) : Prop :=
  ∃ c cs, text = c :: cs ∧ isBlank c = false ∧ c ≠ closing

theorem StartsEntry.skipBlanks_append {closing : Char} {text : List Char}
    (h : StartsEntry closing text) (rest : List Char) :
    skipBlanks (text ++ rest) = text ++ rest := by
  obtain ⟨c, cs, rfl, hblank, -⟩ := h
  exact skipBlanks_cons_of_not hblank (cs ++ rest)

section Brackets

variable {α : Type} {entry : List Char → Option (α × List Char)} {closing : Char}

/-- The last entry is followed by the closing bracket on a line of its own. -/
theorem readEntries?_last (hblank : isBlank closing = false) {text : List Char} {a : α}
    (h : ReadsAs entry text a) (depth : Nat) (rest : List Char) :
    readEntries? entry closing (text ++ (newline depth ++ closing :: rest)) = some ([a], rest) := by
  rw [readEntries?, h]
  simp only [skipBlanks_newline_append, skipBlanks_cons_of_not hblank, if_true]

/-- An entry before others is followed by a comma and the next entry on a new line. -/
theorem readEntries?_cons (hcomma : closing ≠ ',') {text next : List Char} {a : α}
    (h : ReadsAs entry text a) (hnext : StartsEntry closing next) (depth : Nat)
    (rest : List Char) :
    readEntries? entry closing (text ++ ',' :: (newline depth ++ (next ++ rest))) =
      (readEntries? entry closing (next ++ rest)).map fun x ↦ (a :: x.1, x.2) := by
  have hskip : skipBlanks (newline depth ++ (next ++ rest)) = next ++ rest := by
    rw [skipBlanks_newline_append, hnext.skipBlanks_append]
  have hshorter : (next ++ rest).length <
      (text ++ ',' :: (newline depth ++ (next ++ rest))).length := by
    simp only [List.length_append, List.length_cons]
    omega
  rw [readEntries?, h]
  simp only [skipBlanks_cons_of_not (show isBlank ',' = false from rfl), hskip, hshorter, if_true,
    if_neg hcomma.symm]

/-- All entries are read, each from the text that was written for it. -/
theorem readEntries?_flatMap (hblank : isBlank closing = false) (hcomma : closing ≠ ',')
    {text : List Char} {texts : List (List Char)} {a : α} {as : List α}
    (h : ReadsAs entry text a) (hs : List.Forall₂ (ReadsAs entry) texts as)
    (hstart : ∀ t ∈ texts, StartsEntry closing t) (depth : Nat) (rest : List Char) :
    readEntries? entry closing (text ++
      (texts.flatMap (fun t ↦ ',' :: (newline (depth + 1) ++ t)) ++
        (newline depth ++ closing :: rest))) = some (a :: as, rest) := by
  induction hs generalizing text a with
  | nil => exact readEntries?_last hblank h depth rest
  | cons hnext _ ih =>
    obtain ⟨hfirst, hothers⟩ := List.forall_mem_cons.mp hstart
    rw [List.flatMap_cons, List.append_assoc, List.cons_append, List.append_assoc,
      readEntries?_cons hcomma h hfirst, ih hnext hothers]
    rfl

theorem intercalate_comma_cons (x : List Char) (xs : List (List Char)) :
    [','].intercalate (x :: xs) = x ++ xs.flatMap (',' :: ·) := by
  induction xs generalizing x with
  | nil => simp
  | cons y ys ih => simp [List.intercalate_cons_cons, ih]

/-- What stands between brackets is read back, from behind the opening bracket on. -/
theorem exists_readBlock?_block (hblank : isBlank closing = false) (hcomma : closing ≠ ',')
    {texts : List (List Char)} {as : List α} (hs : List.Forall₂ (ReadsAs entry) texts as)
    (hstart : ∀ t ∈ texts, StartsEntry closing t) (opening : Char) (depth : Nat)
    (rest : List Char) :
    ∃ cs, block opening closing depth texts ++ rest = opening :: cs ∧
      readBlock? entry closing cs = some (as, rest) := by
  cases hs with
  | nil =>
    refine ⟨closing :: rest, rfl, ?_⟩
    simp [readBlock?, skipBlanks_cons_of_not hblank]
  | @cons text a texts as h hs =>
    obtain ⟨hfirst, hothers⟩ := List.forall_mem_cons.mp hstart
    have hentries := readEntries?_flatMap hblank hcomma h hs hothers depth rest
    refine ⟨newline (depth + 1) ++ (text ++
      (texts.flatMap (fun t ↦ ',' :: (newline (depth + 1) ++ t)) ++
        (newline depth ++ closing :: rest))), ?_, ?_⟩
    · rw [block, List.map_cons, intercalate_comma_cons, List.flatMap_map]
      · simp only [List.cons_append, List.append_assoc, List.nil_append]
      · exact fun h ↦ by cases h
    · rw [readBlock?, skipBlanks_newline_append, hfirst.skipBlanks_append]
      obtain ⟨c, cs, rfl, -, hc⟩ := hfirst
      simp only [List.cons_append, if_neg hc]
      exact hentries

end Brackets

/-! ## Values -/

/-- A value without numbers that nests lists and objects less than `depth` deep. -/
inductive Textual : Nat → Json → Prop
  | null {depth : Nat} : Textual (depth + 1) null
  | bool {depth : Nat} (b : Bool) : Textual (depth + 1) (bool b)
  | str {depth : Nat} (s : String) : Textual (depth + 1) (str s)
  | arr {depth : Nat} {items : List Json} (h : ∀ v ∈ items, Textual (depth + 1) v) :
    Textual (depth + 2) (arr items)
  | obj {depth : Nat} {fields : List (String × Json)} (h : ∀ f ∈ fields, Textual (depth + 1) f.2) :
    Textual (depth + 2) (obj fields)

@[simp] theorem textual_str (k : Nat) (s : String) : Textual (k + 1) (.str s) :=
  .str s

@[simp] theorem textual_bool (k : Nat) (b : Bool) : Textual (k + 1) (.bool b) :=
  .bool b

@[simp] theorem textual_obj_iff {k : Nat} {fields : List (String × Json)} :
    Textual (k + 2) (.obj fields) ↔ ∀ f ∈ fields, Textual (k + 1) f.2 := by
  constructor
  · intro h
    cases h with
    | obj h => exact h
  · exact .obj

@[simp] theorem textual_arr_iff {k : Nat} {items : List Json} :
    Textual (k + 2) (.arr items) ↔ ∀ v ∈ items, Textual (k + 1) v := by
  constructor
  · intro h
    cases h with
    | arr h => exact h
  · exact .arr

theorem textual_of_mem_field? {k : Nat} {key : String} {o : Option String}
    {f : String × Json} (h : f ∈ field? key (o.map .str)) : Textual (k + 1) f.2 := by
  cases o with
  | none => cases h
  | some s =>
    rw [List.mem_singleton.mp h]
    exact .str s

theorem prettyItems_eq_map (depth : Nat) (items : List Json) :
    prettyItems depth items = items.map (prettyChars depth) := by
  induction items with
  | nil => rfl
  | cons v vs ih => rw [prettyItems, ih, List.map_cons]

theorem prettyFields_eq_map (depth : Nat) (fields : List (String × Json)) :
    prettyFields depth fields =
      fields.map fun f ↦ stringChars f.1 ++ ':' :: ' ' :: prettyChars depth f.2 := by
  induction fields with
  | nil => rfl
  | cons f fs ih => rw [prettyFields, ih, List.map_cons]

theorem exists_block_eq_cons (opening closing : Char) (depth : Nat) (texts : List (List Char)) :
    ∃ cs, block opening closing depth texts = opening :: cs := by
  unfold block
  split
  · exact ⟨_, rfl⟩
  · exact ⟨_, rfl⟩

theorem Textual.startsEntry {k : Nat} {v : Json} (h : Textual k v) (depth : Nat) :
    StartsEntry ']' (prettyChars depth v) := by
  cases h with
  | null => exact ⟨'n', _, rfl, rfl, by decide⟩
  | bool b => cases b <;> exact ⟨_, _, rfl, rfl, by decide⟩
  | str s => exact ⟨'"', _, rfl, rfl, by decide⟩
  | arr =>
    obtain ⟨cs, hcs⟩ := exists_block_eq_cons '[' ']' depth _
    exact ⟨'[', cs, hcs, rfl, by decide⟩
  | obj =>
    obtain ⟨cs, hcs⟩ := exists_block_eq_cons '\x7b' '\x7d' depth _
    exact ⟨'\x7b', cs, hcs, rfl, by decide⟩

theorem readsAs_field {read : List Char → Option (Json × List Char)} {text : List Char} {v : Json}
    (h : ReadsAs read text v) (hstart : StartsEntry ']' text) (key : String) :
    ReadsAs (readField? read) (stringChars key ++ ':' :: ' ' :: text) (key, v) := by
  intro rest
  have hspace : skipBlanks (' ' :: (text ++ rest)) = text ++ rest :=
    hstart.skipBlanks_append rest
  rw [List.append_assoc, readField?, readString?_stringChars]
  simp only [List.cons_append, Option.bind_eq_bind, Option.bind_some,
    skipBlanks_cons_of_not (show isBlank ':' = false from rfl), hspace, h rest]
  rfl

/-- Lists and objects are read one level less deep than what they stand in. -/
theorem readValue?_arr {k : Nat} {cs rest : List Char} {items : List Json}
    (h : readBlock? (readValue? (k + 1)) ']' cs = some (items, rest)) :
    readValue? (k + 2) ('[' :: cs) = some (arr items, rest) := by
  rw [readValue?, if_neg (Nat.succ_ne_zero k), h]
  rfl

theorem readValue?_obj {k : Nat} {cs rest : List Char} {fields : List (String × Json)}
    (h : readBlock? (readField? (readValue? (k + 1))) '\x7d' cs = some (fields, rest)) :
    readValue? (k + 2) ('\x7b' :: cs) = some (obj fields, rest) := by
  rw [readValue?, if_neg (Nat.succ_ne_zero k), h]
  rfl

/-- A value without numbers is read back, with any indentation and whatever comes after it. -/
theorem Textual.readsAs {k : Nat} {v : Json} (h : Textual k v) (depth : Nat) :
    ReadsAs (readValue? k) (prettyChars depth v) v := by
  induction h generalizing depth with
  | null => exact fun rest ↦ rfl
  | bool b => cases b <;> exact fun rest ↦ rfl
  | @str k s =>
    intro rest
    have hread : readValue? (k + 1) (prettyChars depth (Json.str s) ++ rest) =
        (readString? (stringChars s ++ rest)).map fun x ↦ (Json.str x.1, x.2) := rfl
    rw [hread, readString?_stringChars]
    rfl
  | @arr k items h ih =>
    intro rest
    have hitems : List.Forall₂ (ReadsAs (readValue? (k + 1)))
        (items.map (prettyChars (depth + 1))) items := by
      rw [List.forall₂_map_left_iff, List.forall₂_same]
      exact fun v hv ↦ ih v hv (depth + 1)
    have hstart : ∀ t ∈ items.map (prettyChars (depth + 1)), StartsEntry ']' t :=
      List.forall_mem_map.mpr fun v hv ↦ (h v hv).startsEntry (depth + 1)
    obtain ⟨cs, hcs, hread⟩ :=
      exists_readBlock?_block rfl (by decide) hitems hstart '[' depth rest
    rw [prettyChars, prettyItems_eq_map, hcs]
    exact readValue?_arr hread
  | @obj k fields h ih =>
    intro rest
    have hfields : List.Forall₂ (ReadsAs (readField? (readValue? (k + 1))))
        (fields.map fun f ↦ stringChars f.1 ++ ':' :: ' ' :: prettyChars (depth + 1) f.2)
        fields := by
      rw [List.forall₂_map_left_iff, List.forall₂_same]
      exact fun f hf ↦ readsAs_field (ih f hf (depth + 1)) ((h f hf).startsEntry (depth + 1)) f.1
    have hstart : ∀ t ∈ fields.map
        (fun f ↦ stringChars f.1 ++ ':' :: ' ' :: prettyChars (depth + 1) f.2),
        StartsEntry '\x7d' t :=
      List.forall_mem_map.mpr fun f _ ↦ ⟨'"', _, rfl, rfl, by decide⟩
    obtain ⟨cs, hcs, hread⟩ :=
      exists_readBlock?_block rfl (by decide) hfields hstart '\x7b' depth rest
    rw [prettyChars, prettyFields_eq_map, hcs]
    exact readValue?_obj hread

/-- A file that holds a value without numbers is read as that value. -/
theorem Textual.parse?_pretty {v : Json} (h : Textual 128 v) :
    parse? (v.pretty ++ "\n") = some v := by
  have htext : (v.pretty ++ "\n").toList = prettyChars 0 v ++ ['\n'] := by
    rw [String.toList_append, pretty, String.toList_ofList]
    rfl
  rw [parse?, htext, (h.startsEntry 0).skipBlanks_append, h.readsAs 0]
  rfl

end Cookery.Json
