import Cookery.Identifier
import Mathlib.Data.List.Basic

/-!
# Where snake case divides words

Snake case goes through a name once. At a capital it looks at the characters around it in the name,
and also at the end of what it has written, so as not to put two underscores in a row. The second
look is never needed: where a word starts, the character before is a letter or a digit, and what is
written for one has no underscore. With that, each character leaves its part of the result
independently of the others, and the result is read off position by position.

## What depends on the alphabet

The places of the underscores and the letters between them are known for every text. That nothing is
left in capitals is known for ASCII only: there are capitals that have no small form, and snake case
leaves them as they are.
-/

namespace Cookery

/-! ## Small forms -/

/-- What holds of ASCII is decided character by character. -/
theorem of_forall_ascii {P : Char → Prop} (h : ∀ n < 128, P (Char.ofNat n)) {c : Char}
    (hc : c.toNat < 128) : P c := by
  rw [← Char.ofNat_toNat c]
  exact h c.toNat hc

theorem smallForm_of_lt {c : Char} (h : c.toNat < 128) : smallForm c = [c.toLower] :=
  of_forall_ascii (P := fun c ↦ smallForm c = [c.toLower]) (by decide +kernel) h

theorem toLower_ne_underscore {c : Char} (hascii : c.toNat < 128) (h : c ≠ '_') :
    c.toLower ≠ '_' :=
  of_forall_ascii (P := fun c ↦ c ≠ '_' → c.toLower ≠ '_') (by decide +kernel) hascii h

theorem ofNat_ne_underscore {n : Nat} (h : 95 < n) : Char.ofNat n ≠ '_' := by
  by_cases hvalid : n.isValidChar
  · have hofNat : Char.ofNat n = Char.ofNatAux n hvalid := dif_pos hvalid
    intro heq
    have htoNat : n = 95 := congrArg Char.toNat (hofNat.symm.trans heq)
    omega
  · have hofNat : Char.ofNat n = '\x00' := dif_neg hvalid
    rw [hofNat]
    decide

/-- Beyond ASCII every small form has characters, and no underscore is among them. -/
theorem lower_ne_nil_and_underscore_notMem {c : Char} (h : ¬c.toNat < 128) :
    Text.lower c ≠ [] ∧ '_' ∉ Text.lower c := by
  have hspecials : Text.toLowerSpecials.all
      (fun x ↦ !x.2.isEmpty && x.2.all fun n ↦ 95 < n) = true := by decide +kernel
  have hshifts : Text.toLowerShifts.all (fun s ↦ 95 < s.image) = true := by decide +kernel
  rw [List.all_eq_true] at hspecials hshifts
  rw [Text.lower, if_neg h, Text.mapCase]
  split
  · next image himage =>
    obtain ⟨before, after, htable, -⟩ := List.lookup_eq_some_iff.mp himage
    have hentry := hspecials (c.toNat, image) (by simp [htable])
    simp only [Bool.and_eq_true, Bool.not_eq_true', List.isEmpty_eq_false_iff, List.all_eq_true,
      decide_eq_true_eq] at hentry
    refine ⟨by simpa using hentry.1, fun hmem ↦ ?_⟩
    obtain ⟨n, hn, heq⟩ := List.mem_map.mp hmem
    exact ofNat_ne_underscore (hentry.2 n hn) heq
  · split
    · next s hs =>
      have hentry : 95 < s.image := of_decide_eq_true (hshifts s (List.mem_of_find?_eq_some hs))
      refine ⟨List.cons_ne_nil _ _, fun hmem ↦ ?_⟩
      exact ofNat_ne_underscore (by omega) (List.mem_singleton.mp hmem).symm
    · refine ⟨List.cons_ne_nil _ _, fun hmem ↦ h ?_⟩
      rw [← List.mem_singleton.mp hmem]
      decide

theorem smallForm_ne_nil (c : Char) : smallForm c ≠ [] := by
  by_cases h : c.toNat < 128
  · rw [smallForm_of_lt h]
    exact List.cons_ne_nil _ _
  · rw [smallForm]
    split
    · exact (lower_ne_nil_and_underscore_notMem h).1
    · exact List.cons_ne_nil _ _

/-- Only the underscore is written with an underscore. -/
theorem underscore_notMem_smallForm {c : Char} (h : c ≠ '_') : '_' ∉ smallForm c := by
  by_cases hascii : c.toNat < 128
  · rw [smallForm_of_lt hascii, List.mem_singleton]
    exact (toLower_ne_underscore hascii h).symm
  · rw [smallForm]
    split
    · exact (lower_ne_nil_and_underscore_notMem hascii).2
    · rw [List.mem_singleton]
      exact h.symm

theorem ne_underscore_of_mem_smallForm {c d : Char} (h : c ≠ '_') (hd : d ∈ smallForm c) :
    d ≠ '_' := by
  rintro rfl
  exact underscore_notMem_smallForm h hd

theorem smallForm_of_not_isUpper {c : Char} (h : Text.isUpper c = false) : smallForm c = [c] := by
  simp [smallForm, h]

/-! ## The end of what is written -/

/-- What snake case has written last when it has passed `prev`. -/
def lastWritten (prev : Option Char) : Option Char :=
  prev.bind fun p ↦ (smallForm p).getLast?

theorem startsWord_some (p : Char) (next : Option Char) :
    startsWord (some p) next =
      (Text.isLower p || p.isDigit || Text.isUpper p && next.any Text.isLower) := by
  rw [startsWord]
  cases Text.isLower p || p.isDigit <;> cases Text.isUpper p <;> rfl

/-- Before the start of a word stands a letter or a digit. -/
theorem ne_underscore_of_startsWord {p : Char} {next : Option Char}
    (h : startsWord (some p) next = true) : p ≠ '_' := by
  rintro rfl
  exact absurd h Bool.false_ne_true

theorem lastWritten_ne_underscore {prev next : Option Char} (h : startsWord prev next = true) :
    lastWritten prev ≠ some '_' := by
  cases prev with
  | none => cases h
  | some p =>
    intro hlast
    exact underscore_notMem_smallForm (ne_underscore_of_startsWord h) (List.mem_of_getLast? hlast)

/-- One step: an underscore if a word starts, and the small form of the character. -/
theorem snakeCaseAfter_cons (prev : Option Char) (c : Char) (cs : List Char) :
    snakeCaseAfter prev (lastWritten prev) (c :: cs) =
      (if Text.isUpper c && startsWord prev cs.head? then ['_'] else []) ++
        (smallForm c ++ snakeCaseAfter (some c) (lastWritten (some c)) cs) := by
  have hlast (part : List Char) :
      ((part ++ smallForm c).getLast?.or (lastWritten prev)) = lastWritten (some c) := by
    rw [List.getLast?_append, show lastWritten (some c) = (smallForm c).getLast? from rfl]
    cases hform : (smallForm c).getLast? with
    | none => exact absurd (List.getLast?_eq_none_iff.mp hform) (smallForm_ne_nil c)
    | some d => rfl
  rw [snakeCaseAfter]
  by_cases hstart : (Text.isUpper c && startsWord prev cs.head?) = true
  · have hfree : (lastWritten prev != some '_') = true :=
      bne_iff_ne.mpr (lastWritten_ne_underscore (Bool.and_eq_true_iff.mp hstart).2)
    simp only [hstart, hfree, Bool.and_self, if_true]
    rw [← hlast ['_']]
    rfl
  · rw [Bool.not_eq_true] at hstart
    simp only [hstart, Bool.false_and, Bool.false_eq_true, if_false]
    rw [← hlast []]
    rfl

/-! ## Positions -/

/-- A word starts at position `i`: a capital stands there, and before it a small letter or a digit,
or a capital if a small letter follows. -/
def IsWordStart (s : List Char) (i : Nat) : Prop :=
  0 < i ∧ s[i]?.any Text.isUpper ∧
    (s[i - 1]?.any (fun p ↦ Text.isLower p || p.isDigit) ∨
      s[i - 1]?.any Text.isUpper ∧ s[i + 1]?.any Text.isLower)

instance (s : List Char) : DecidablePred (IsWordStart s) :=
  fun _ ↦ inferInstanceAs (Decidable (_ ∧ _ ∧ (_ ∨ _ ∧ _)))

/-- What snake case writes for the character at a position of `s`. -/
def snakePart (s : List Char) (x : Char × Nat) : List Char :=
  (if IsWordStart s x.2 then ['_'] else []) ++ smallForm x.1

theorem eq_underscore_or_mem_smallForm {s : List Char} {x : Char × Nat} {d : Char}
    (h : d ∈ snakePart s x) : d = '_' ∨ d ∈ smallForm x.1 := by
  rcases List.mem_append.mp h with hmark | hd
  · split at hmark
    · exact .inl (List.mem_singleton.mp hmark)
    · exact absurd hmark List.not_mem_nil
  · exact .inr hd

theorem isWordStart_append_iff {before cs : List Char} {c : Char} :
    IsWordStart (before ++ c :: cs) before.length ↔
      (Text.isUpper c && startsWord before.getLast? cs.head?) = true := by
  have hhere : (before ++ c :: cs)[before.length]? = some c := by simp
  have hnext : (before ++ c :: cs)[before.length + 1]? = cs.head? := by
    rw [List.getElem?_append_right (Nat.le_add_right _ 1), Nat.add_sub_cancel_left,
      List.getElem?_cons_succ, List.head?_eq_getElem?]
  rw [IsWordStart, hhere, hnext]
  rcases List.eq_nil_or_concat' before with rfl | ⟨before, p, rfl⟩
  · simp [startsWord]
  · have hprev : (before ++ [p] ++ c :: cs)[(before ++ [p]).length - 1]? = some p := by simp
    rw [hprev, List.getLast?_concat, startsWord_some]
    simp

/-- The characters that are still to come leave their parts, whatever has been passed. -/
theorem snakeCaseAfter_eq_flatMap (before cs : List Char) :
    snakeCaseAfter before.getLast? (lastWritten before.getLast?) cs =
      (cs.zipIdx before.length).flatMap (snakePart (before ++ cs)) := by
  induction cs generalizing before with
  | nil => rfl
  | cons c cs ih =>
    have hrest := ih (before ++ [c])
    rw [List.getLast?_concat, List.length_append, List.length_singleton, List.append_assoc,
      List.singleton_append] at hrest
    rw [snakeCaseAfter_cons, hrest, List.zipIdx_cons, List.flatMap_cons, snakePart,
      List.append_assoc]
    simp only [isWordStart_append_iff]

theorem toList_snakeCase (s : String) :
    (snakeCase s).toList = s.toList.zipIdx.flatMap (snakePart s.toList) := by
  rw [snakeCase, String.toList_ofList]
  exact snakeCaseAfter_eq_flatMap [] s.toList

/-! ## Letters and separators -/

theorem filter_snakePart (s : List Char) (x : Char × Nat) :
    (snakePart s x).filter (· ≠ '_') = if x.1 ≠ '_' then smallForm x.1 else [] := by
  have hmark : (if IsWordStart s x.2 then ['_'] else []).filter (· ≠ '_') = [] := by
    split <;> rfl
  rw [snakePart, List.filter_append, hmark, List.nil_append]
  by_cases hx : x.1 = '_'
  · rw [hx]
    rfl
  · rw [if_pos hx, List.filter_eq_self]
    intro d hd
    simpa using ne_underscore_of_mem_smallForm hx hd

/-- Without underscores, snake case only makes small letters of capitals. -/
theorem filter_snakeCase (s : String) :
    (snakeCase s).toList.filter (· ≠ '_') = (s.toList.filter (· ≠ '_')).flatMap smallForm := by
  have hparts (cs : List Char) : (cs.filter (· ≠ '_')).flatMap smallForm =
      cs.flatMap fun c ↦ if c ≠ '_' then smallForm c else [] := by
    induction cs with
    | nil => rfl
    | cons c cs ih =>
      rw [List.flatMap_cons, ← ih]
      by_cases hc : c = '_' <;> simp [hc]
  rw [toList_snakeCase, List.filter_flatMap, hparts]
  simp only [filter_snakePart]
  conv_rhs => rw [← List.zipIdx_map_fst 0 s.toList, List.flatMap_map]

/-- What is written up to a character that is no underscore does not end with one. -/
theorem exists_getLast?_flatMap_snakePart (s start : List Char) {p : Char} (hp : p ≠ '_') :
    ∃ d, ((start ++ [p]).zipIdx.flatMap (snakePart s)).getLast? = some d ∧ d ≠ '_' := by
  refine ⟨_, ?_, ne_underscore_of_mem_smallForm hp (List.getLast_mem (smallForm_ne_nil p))⟩
  rw [List.zipIdx_append, List.flatMap_append]
  simp [snakePart, List.getLast?_append, List.getLast?_eq_some_getLast (smallForm_ne_nil p)]

/-- An underscore that is put before a word stands between two characters that are none. -/
theorem exists_split_of_isWordStart {s : List Char} {i : Nat} (h : IsWordStart s i) :
    ∃ before after, s.zipIdx.flatMap (snakePart s) = before ++ '_' :: after ∧
      before = (s.zipIdx.take i).flatMap (snakePart s) ∧
      (∃ d, before.getLast? = some d ∧ d ≠ '_') ∧ ∃ d, after.head? = some d ∧ d ≠ '_' := by
  -- The text is taken apart at the position, and before it at the character in front.
  obtain ⟨c, hc, -⟩ := (Option.any_eq_true _ _).mp h.2.1
  obtain ⟨start, rest, rfl, rfl⟩ : ∃ start rest, s = start ++ c :: rest ∧ i = start.length := by
    obtain ⟨hi, hc⟩ := List.getElem?_eq_some_iff.mp hc
    refine ⟨s.take i, s.drop (i + 1), ?_, (List.length_take_of_le (Nat.le_of_lt hi)).symm⟩
    rw [← hc, ← List.drop_eq_getElem_cons hi, List.take_append_drop]
  obtain ⟨hupper, hstarts⟩ := Bool.and_eq_true_iff.mp (isWordStart_append_iff.mp h)
  have hcapital : c ≠ '_' := by
    rintro rfl
    cases hupper
  rcases List.eq_nil_or_concat' start with rfl | ⟨start, p, rfl⟩
  · cases hstarts
  rw [List.getLast?_concat] at hstarts
  have hp : p ≠ '_' := ne_underscore_of_startsWord hstarts
  generalize hs : start ++ [p] ++ c :: rest = s at h ⊢
  have hzip : s.zipIdx = (start ++ [p]).zipIdx ++
      (c, (start ++ [p]).length) :: rest.zipIdx ((start ++ [p]).length + 1) := by
    rw [← hs, List.zipIdx_append, List.zipIdx_cons, Nat.zero_add]
  have htake : s.zipIdx.take (start ++ [p]).length = (start ++ [p]).zipIdx := by
    rw [hzip, List.take_left' List.length_zipIdx]
  refine ⟨_, smallForm c ++ (rest.zipIdx ((start ++ [p]).length + 1)).flatMap (snakePart s), ?_,
    rfl, ?_, ?_⟩
  · rw [htake, hzip, List.flatMap_append, List.flatMap_cons, snakePart, if_pos h]
    rfl
  · rw [htake]
    exact exists_getLast?_flatMap_snakePart s start hp
  · refine ⟨_, ?_, ne_underscore_of_mem_smallForm hcapital (List.head_mem (smallForm_ne_nil c))⟩
    rw [List.head?_append, List.head?_eq_some_head (smallForm_ne_nil c), Option.some_or]

/-! ## ASCII -/

theorem isUpper_toLower {c : Char} (h : c.toNat < 128) : Text.isUpper c.toLower = false :=
  of_forall_ascii (P := fun c ↦ Text.isUpper c.toLower = false) (by decide +kernel) h

/-- Of ASCII, snake case leaves no capitals. -/
theorem not_isUpper_of_mem_snakeCase {s : String} (h : ∀ c ∈ s.toList, c.toNat < 128) :
    ∀ d ∈ (snakeCase s).toList, Text.isUpper d = false := by
  intro d hd
  rw [toList_snakeCase, List.mem_flatMap] at hd
  obtain ⟨x, hx, hd⟩ := hd
  have hascii : x.1.toNat < 128 := h x.1 (List.fst_mem_of_mem_zipIdx hx)
  rcases eq_underscore_or_mem_smallForm hd with rfl | hd
  · rfl
  · rw [smallForm_of_lt hascii, List.mem_singleton] at hd
    rw [hd]
    exact isUpper_toLower hascii

/-- Without capitals there is nothing to do. -/
theorem snakeCase_of_forall_not_isUpper {s : String}
    (h : ∀ c ∈ s.toList, Text.isUpper c = false) : snakeCase s = s := by
  have hpart : ∀ x ∈ s.toList.zipIdx, snakePart s.toList x = [x.1] := by
    intro x hx
    have hget : s.toList[x.2]? = some x.1 := List.mem_zipIdx_iff_getElem?.mp hx
    have hsmall : Text.isUpper x.1 = false := h x.1 (List.mem_of_getElem? hget)
    have hstart : ¬IsWordStart s.toList x.2 := by
      rintro ⟨-, hupper, -⟩
      rw [hget, Option.any_some, hsmall] at hupper
      cases hupper
    rw [snakePart, if_neg hstart, smallForm_of_not_isUpper hsmall, List.nil_append]
  rw [← String.toList_inj, toList_snakeCase, List.flatMap_congr hpart, ← List.map_eq_flatMap]
  exact List.zipIdx_map_fst 0 s.toList

/-- **Snake case only changes case and divides words.** Underscores apart, the result is the name
with its capitals made small. An underscore is put before the positions at which a word starts and
nowhere else, and each of these stands between two characters that are no underscores. A name in
ASCII has no capitals afterwards, and snake case then leaves it alone. -/
theorem snakeCase_only_divides_words (s : String) :
    (snakeCase s).toList.filter (· ≠ '_') = (s.toList.filter (· ≠ '_')).flatMap smallForm ∧
      (snakeCase s).toList = s.toList.zipIdx.flatMap (fun x ↦
        (if IsWordStart s.toList x.2 then ['_'] else []) ++ smallForm x.1) ∧
      (∀ i, IsWordStart s.toList i → ∃ before after,
        (snakeCase s).toList = before ++ '_' :: after ∧
          before = (s.toList.zipIdx.take i).flatMap (snakePart s.toList) ∧
          (∃ d, before.getLast? = some d ∧ d ≠ '_') ∧ ∃ d, after.head? = some d ∧ d ≠ '_') ∧
      ((∀ c ∈ s.toList, c.toNat < 128) →
        (∀ d ∈ (snakeCase s).toList, Text.isUpper d = false) ∧
          snakeCase (snakeCase s) = snakeCase s) := by
  refine ⟨filter_snakeCase s, toList_snakeCase s, fun i hi ↦ ?_, fun hascii ↦ ?_⟩
  · rw [toList_snakeCase]
    exact exists_split_of_isWordStart hi
  · have hsmall := not_isUpper_of_mem_snakeCase hascii
    exact ⟨hsmall, snakeCase_of_forall_not_isUpper hsmall⟩

/-- A run of capitals, a digit and an underscore: words start at the last capital of the run and
after the digit, and not after the underscore. -/
theorem snakeCase_only_divides_words_httpCode :
    (∀ i < 13, IsWordStart "HTTPCode2Go_X".toList i ↔ i = 4 ∨ i = 9) ∧
      snakeCase "HTTPCode2Go_X" = "http_code2_go_x" ∧
      (∃ before after, (snakeCase "HTTPCode2Go_X").toList = before ++ '_' :: after ∧
        before = "http".toList ∧ ∃ d, after.head? = some d ∧ d ≠ '_') ∧
      snakeCase (snakeCase "HTTPCode2Go_X") = snakeCase "HTTPCode2Go_X" := by
  obtain ⟨-, -, hplaces, hascii⟩ := snakeCase_only_divides_words "HTTPCode2Go_X"
  obtain ⟨before, after, hsplit, hbefore, -, hafter⟩ := hplaces 4 (by decide)
  have hall : "HTTPCode2Go_X".toList.all (fun c ↦ c.toNat < 128) = true := rfl
  have hsmall := hascii fun c hc ↦ of_decide_eq_true (List.all_eq_true.mp hall c hc)
  exact ⟨by decide, by decide, ⟨before, after, hsplit, hbefore, hafter⟩, hsmall.2⟩

end Cookery
