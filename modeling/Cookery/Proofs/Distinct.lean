import Cookery.Duplicate
import Cookery.Proofs.Traversal
import Mathlib.Data.List.Nodup
import Mathlib.Order.Bounds.Basic

/-!
# The scans for repeated names

A scan carries the names it has passed. It finds nothing exactly when the names still to come are
pairwise distinct and none of them has been passed, and from that the checks built on it get their
meaning. The pass over generated names is a scan of its own; that it does the same as the search is
an equation on what both carry, `foldlM_passName`. Which of several repetitions they report is said
by positions, in `scans_report_least_repetition`.

Distinct names are what makes a lookup by name total knowledge: references go to the first
declaration of a name, and if names are distinct that is the only one.
-/

namespace Cookery

/-- What the scan has passed counts as much as what it has still to visit. -/
theorem firstDuplicateAfter_eq_none_iff {seen names : List String} :
    firstDuplicateAfter seen names = none ↔ names.Nodup ∧ ∀ name ∈ names, name ∉ seen := by
  induction names generalizing seen with
  | nil => simp [firstDuplicateAfter]
  | cons x xs ih =>
    rw [firstDuplicateAfter, List.nodup_cons, List.forall_mem_cons]
    by_cases hx : x ∈ seen
    · rw [if_pos hx]
      exact ⟨fun h ↦ (nomatch h), fun h ↦ absurd hx h.2.1⟩
    · rw [if_neg hx, ih]
      constructor
      · rintro ⟨hnd, hseen⟩
        refine ⟨⟨fun hmem ↦ hseen x hmem List.mem_cons_self, hnd⟩, hx, fun y hy hys ↦ ?_⟩
        exact hseen y hy (List.mem_cons_of_mem x hys)
      · rintro ⟨⟨hnot, hnd⟩, -, hseen⟩
        refine ⟨hnd, fun y hy hys ↦ ?_⟩
        rcases List.mem_cons.mp hys with rfl | hys
        · exact hnot hy
        · exact hseen y hy hys

theorem firstDuplicate?_eq_none_iff {names : List String} :
    firstDuplicate? names = none ↔ names.Nodup := by
  rw [firstDuplicate?, firstDuplicateAfter_eq_none_iff]
  exact ⟨fun h ↦ h.1, fun h ↦ ⟨h, fun _ _ hmem ↦ nomatch hmem⟩⟩

/-- The scan stops at the first name that has been passed before, whether it was passed before the
scan began or in the course of it. -/
theorem firstDuplicateAfter_eq_some_iff {seen names : List String} {name : String} :
    firstDuplicateAfter seen names = some name ↔ ∃ before after,
      names = before ++ name :: after ∧ before.Nodup ∧ (∀ x ∈ before, x ∉ seen) ∧
        (name ∈ seen ∨ name ∈ before) := by
  induction names generalizing seen with
  | nil => simp [firstDuplicateAfter]
  | cons x xs ih =>
    rw [firstDuplicateAfter]
    by_cases hx : x ∈ seen
    · rw [if_pos hx]
      constructor
      · intro h
        obtain rfl := Option.some.inj h
        exact ⟨[], xs, rfl, List.nodup_nil, by simp, .inl hx⟩
      · rintro ⟨before, after, hsplit, -, hbefore, -⟩
        cases before with
        | nil =>
          obtain ⟨rfl, -⟩ := List.cons.inj hsplit
          rfl
        | cons y before =>
          obtain ⟨rfl, -⟩ := List.cons.inj hsplit
          exact absurd hx (hbefore x List.mem_cons_self)
    · rw [if_neg hx, ih]
      constructor
      · rintro ⟨before, after, rfl, hnodup, hbefore, hname⟩
        -- The head has been passed, so the names before the repetition differ from it.
        have hnew : x ∉ before := fun hmem ↦ hbefore x hmem List.mem_cons_self
        refine ⟨x :: before, after, rfl, List.nodup_cons.mpr ⟨hnew, hnodup⟩, ?_, ?_⟩
        · intro y hy
          rcases List.mem_cons.mp hy with rfl | hy
          · exact hx
          · exact fun hseen ↦ hbefore y hy (List.mem_cons_of_mem x hseen)
        · simp only [List.mem_cons] at hname ⊢
          tauto
      · rintro ⟨before, after, hsplit, hnodup, hbefore, hname⟩
        cases before with
        | nil =>
          obtain ⟨rfl, -⟩ := List.cons.inj hsplit
          simp [hx] at hname
        | cons y before =>
          obtain ⟨rfl, rfl⟩ := List.cons.inj hsplit
          obtain ⟨hnew, hnodup⟩ := List.nodup_cons.mp hnodup
          refine ⟨before, after, rfl, hnodup, ?_, ?_⟩
          · intro z hz hseen
            rcases List.mem_cons.mp hseen with rfl | hseen
            · exact hnew hz
            · exact hbefore z (List.mem_cons_of_mem x hz) hseen
          · simp only [List.mem_cons] at hname ⊢
            tauto

theorem firstDuplicate?_eq_some_iff {names : List String} {name : String} :
    firstDuplicate? names = some name ↔ ∃ before after,
      names = before ++ name :: after ∧ before.Nodup ∧ name ∈ before := by
  rw [firstDuplicate?, firstDuplicateAfter_eq_some_iff]
  simp

/-- What the scan finds occurs twice. -/
theorem one_lt_count_of_firstDuplicate? {names : List String} {name : String}
    (h : firstDuplicate? names = some name) : 1 < names.count name := by
  obtain ⟨before, after, rfl, -, hmem⟩ := firstDuplicate?_eq_some_iff.mp h
  have hbefore : 0 < before.count name := List.count_pos_iff.mpr hmem
  rw [List.count_append, List.count_cons_self]
  omega

/-! ## The checks -/

/-- The check passes exactly when the names are distinct, and complains about nothing else. -/
theorem refuseDuplicate_succeedsIff (scope : NameScope) (owner : Option String)
    (names : List String) :
    SucceedsIff (refuseDuplicate scope owner names) names.Nodup
      fun e ↦ ∃ name, e = .duplicateName scope name owner := by
  rw [refuseDuplicate]
  cases h : firstDuplicate? names with
  | none => exact firstDuplicate?_eq_none_iff.mp h
  | some name =>
    refine ⟨fun hnd ↦ ?_, name, rfl⟩
    rw [firstDuplicate?_eq_none_iff.mpr hnd] at h
    exact nomatch h

theorem refuseDuplicate_eq_ok_iff {scope : NameScope} {owner : Option String}
    {names : List String} : refuseDuplicate scope owner names = .ok () ↔ names.Nodup := by
  rw [← (refuseDuplicate_succeedsIff scope owner names).exists_ok_iff]
  exact ⟨fun h ↦ ⟨(), h⟩, fun ⟨_, h⟩ ↦ h⟩

theorem refuseDuplicate_eq_error_iff {scope : NameScope} {owner : Option String}
    {names : List String} {e : SchemaError} :
    refuseDuplicate scope owner names = .error e ↔
      ∃ name, firstDuplicate? names = some name ∧ e = .duplicateName scope name owner := by
  rw [refuseDuplicate]
  cases firstDuplicate? names with
  | none => simp
  | some name => simp [eq_comm]

theorem refuseDuplicate_eq_error {scope : NameScope} {owner : Option String} {names : List String}
    {e : SchemaError} (h : refuseDuplicate scope owner names = .error e) :
    ∃ name, 1 < names.count name ∧ e = .duplicateName scope name owner := by
  obtain ⟨name, hfound, rfl⟩ := refuseDuplicate_eq_error_iff.mp h
  exact ⟨name, one_lt_count_of_firstDuplicate? hfound, rfl⟩

/-- A pass over names breaks off where a search that has passed the same names would find one, and
otherwise has passed all of them. -/
theorem foldlM_passName (scope : NameScope) (owner : Option String) (seen names : List String) :
    names.foldlM (passName scope owner) seen =
      (firstDuplicateAfter seen names).elim (.ok (names.reverse ++ seen))
        fun name ↦ .error (.duplicateName scope name owner) := by
  induction names generalizing seen with
  | nil => rfl
  | cons x xs ih =>
    rw [List.foldlM_cons, passName, firstDuplicateAfter]
    by_cases hx : x ∈ seen
    · rw [if_pos hx, if_pos hx]
      rfl
    · rw [if_neg hx, if_neg hx, List.reverse_cons, List.append_assoc]
      exact ih (x :: seen)

theorem ensureDistinct_eq_refuseDuplicate (scope : NameScope) (owner : Option String)
    (names : List String) :
    ensureDistinct scope owner names = refuseDuplicate scope owner names := by
  rw [ensureDistinct, foldlM_passName, refuseDuplicate, firstDuplicate?]
  cases firstDuplicateAfter [] names <;> rfl

theorem ensureDistinct_succeedsIff (scope : NameScope) (owner : Option String)
    (names : List String) :
    SucceedsIff (ensureDistinct scope owner names) names.Nodup
      fun e ↦ ∃ name, e = .duplicateName scope name owner := by
  rw [ensureDistinct_eq_refuseDuplicate]
  exact refuseDuplicate_succeedsIff scope owner names

theorem ensureDistinct_eq_ok_iff {scope : NameScope} {owner : Option String}
    {names : List String} : ensureDistinct scope owner names = .ok () ↔ names.Nodup := by
  rw [ensureDistinct_eq_refuseDuplicate, refuseDuplicate_eq_ok_iff]

/-! ## Which name is reported -/

/-- A name stands at position `j` that stands at an earlier position too. -/
def RepeatsAt (names : List String) (j : Nat) : Prop :=
  ∃ i < j, ∃ name, names[i]? = some name ∧ names[j]? = some name

/-- If the names up to a position are distinct and the one at the position is among them, no earlier
position has a repetition. -/
theorem isLeast_repeatsAt {before after : List String} {name : String} (hnodup : before.Nodup)
    (hmem : name ∈ before) :
    IsLeast {j | RepeatsAt (before ++ name :: after) j} before.length := by
  constructor
  · obtain ⟨i, hi⟩ := List.mem_iff_getElem?.mp hmem
    have hlt : i < before.length := (List.getElem?_eq_some_iff.mp hi).1
    exact ⟨i, hlt, name, by rw [List.getElem?_append_left hlt, hi], by simp⟩
  · rintro j ⟨i, hij, x, hi, hj⟩
    by_contra hlt
    have hj' : j < before.length := Nat.lt_of_not_le hlt
    rw [List.getElem?_append_left (hij.trans hj')] at hi
    rw [List.getElem?_append_left hj'] at hj
    exact List.nodup_iff_getElem?_ne_getElem?.mp hnodup i j hij hj' (hi.trans hj.symm)

theorem firstDuplicate?_eq_some_iff_isLeast {names : List String} {name : String} :
    firstDuplicate? names = some name ↔
      ∃ j, IsLeast {j | RepeatsAt names j} j ∧ names[j]? = some name := by
  constructor
  · intro h
    obtain ⟨before, after, rfl, hnodup, hmem⟩ := firstDuplicate?_eq_some_iff.mp h
    exact ⟨before.length, isLeast_repeatsAt hnodup hmem, by simp⟩
  · rintro ⟨j, hleast, hname⟩
    -- A repetition exists, so the scan finds one, and the least position is unique.
    cases hfound : firstDuplicate? names with
    | none =>
      obtain ⟨i, hij, x, hi, hj⟩ := hleast.1
      have hlt : j < names.length := (List.getElem?_eq_some_iff.mp hj).1
      have hnodup := firstDuplicate?_eq_none_iff.mp hfound
      exact absurd (hi.trans hj.symm)
        (List.nodup_iff_getElem?_ne_getElem?.mp hnodup i j hij hlt)
    | some found =>
      obtain ⟨before, after, rfl, hnodup, hmem⟩ := firstDuplicate?_eq_some_iff.mp hfound
      rw [hleast.unique (isLeast_repeatsAt hnodup hmem)] at hname
      simpa using hname

/-- **The two scans for repeated names agree.** Both find nothing in a list exactly if its names are
distinct. Otherwise both report the name at the least position at which a name stands that stands at
an earlier position too. -/
theorem scans_report_least_repetition (scope : NameScope) (owner : Option String)
    (names : List String) :
    (firstDuplicate? names = none ↔ names.Nodup) ∧
      (ensureDistinct scope owner names = .ok () ↔ names.Nodup) ∧
      (∀ name, firstDuplicate? names = some name ↔
        ∃ j, IsLeast {j | RepeatsAt names j} j ∧ names[j]? = some name) ∧
      ∀ e, ensureDistinct scope owner names = .error e ↔
        ∃ j name, IsLeast {j | RepeatsAt names j} j ∧ names[j]? = some name ∧
          e = .duplicateName scope name owner := by
  refine ⟨firstDuplicate?_eq_none_iff, ensureDistinct_eq_ok_iff,
    fun _ ↦ firstDuplicate?_eq_some_iff_isLeast, fun e ↦ ?_⟩
  rw [ensureDistinct_eq_refuseDuplicate, refuseDuplicate_eq_error_iff]
  constructor
  · rintro ⟨name, hfound, rfl⟩
    obtain ⟨j, hleast, hname⟩ := firstDuplicate?_eq_some_iff_isLeast.mp hfound
    exact ⟨j, name, hleast, hname, rfl⟩
  · rintro ⟨j, name, hleast, hname, rfl⟩
    exact ⟨name, firstDuplicate?_eq_some_iff_isLeast.mpr ⟨j, hleast, hname⟩, rfl⟩

/-- Of two names that come twice, the one that comes again first is reported. -/
example : firstDuplicate? ["salt", "oil", "oil", "salt"] = some "oil" ∧
    ensureDistinct .field none ["salt", "oil", "oil", "salt"]
      = .error (.duplicateName .field "oil" none) :=
  ⟨rfl, rfl⟩

/-! ## Lookups among distinct names -/

/-- Among distinct names, the first declaration of a name is any declaration of it. -/
theorem find?_name_eq_some_iff {α : Type} {name : α → String} {l : List α}
    (h : (l.map name).Nodup) {key : String} {a : α} :
    l.find? (name · == key) = some a ↔ a ∈ l ∧ name a = key := by
  induction l with
  | nil => exact ⟨fun h ↦ (nomatch h), fun h ↦ nomatch h.1⟩
  | cons b l ih =>
    rw [List.map_cons, List.nodup_cons] at h
    by_cases hb : name b = key
    · rw [List.find?_cons_of_pos (p := (name · == key)) (beq_iff_eq.mpr hb)]
      constructor
      · intro hba
        rw [← Option.some.inj hba]
        exact ⟨List.mem_cons_self, hb⟩
      · rintro ⟨hmem, ha⟩
        rcases List.mem_cons.mp hmem with rfl | hmem
        · rfl
        · exact absurd (List.mem_map.mpr ⟨a, hmem, ha.trans hb.symm⟩) h.1
    · rw [List.find?_cons_of_neg (p := (name · == key)) fun hkey ↦ hb (beq_iff_eq.mp hkey), ih h.2]
      refine ⟨fun ⟨hmem, ha⟩ ↦ ⟨List.mem_cons_of_mem b hmem, ha⟩, ?_⟩
      rintro ⟨hmem, ha⟩
      rcases List.mem_cons.mp hmem with rfl | hmem
      · exact absurd ha hb
      · exact ⟨hmem, ha⟩

/-- Among distinct names, a declaration is the only one of its name. -/
theorem filter_name_eq_singleton {α : Type} {name : α → String} {l : List α}
    (h : (l.map name).Nodup) {a : α} (ha : a ∈ l) : l.filter (name · == name a) = [a] := by
  obtain ⟨before, after, rfl⟩ := List.append_of_mem ha
  rw [List.map_append, List.map_cons, List.nodup_middle, List.nodup_cons, List.mem_append] at h
  have hother (l' : List α) (hnot : name a ∉ l'.map name) : l'.filter (name · == name a) = [] := by
    rw [List.filter_eq_nil_iff]
    intro x hx hname
    exact hnot (List.mem_map.mpr ⟨x, hx, beq_iff_eq.mp hname⟩)
  rw [List.filter_append, hother before fun hmem ↦ h.1 (.inl hmem),
    List.filter_cons_of_pos (p := (name · == name a)) (beq_self_eq_true _),
    hother after fun hmem ↦ h.1 (.inr hmem), List.nil_append]

end Cookery
