import Cookery.Binding.Set
import Cookery.Proofs.Distinct
import Mathlib.Data.Finset.Card

/-!
# Binding sets as maps

A set of bindings is built by adding one binding after another. A binding whose name is taken
replaces the earlier one where that stands, so a set is a map from names to bindings that keeps the
order in which the names came.

## One step and many

What an addition does is said by two equations, one for the names and one for the lookup. Neither
needs that the names in the set are distinct. They give what a whole sequence of additions leaves
behind: the names in the order of their first addition, and for each the binding that came last.
The list of bindings is not described separately, since in a set with distinct names it can be read
off the names and the lookup.
-/

namespace Cookery.BindingSet

/-! ## One addition -/

theorem get?_cons (c : Binding) (cs : List Binding) (name : String) :
    get? ⟨c :: cs⟩ name = if c.name = name then some c else get? ⟨cs⟩ name := by
  by_cases h : c.name = name <;> simp [get?, h]

/-- A name that is taken keeps its place. -/
theorem names_insert_of_mem {s : BindingSet} {b : Binding} (h : b.name ∈ s.names) :
    (s.insert b).names = s.names := by
  obtain ⟨bs⟩ := s
  rw [names, insert, names]
  induction bs with
  | nil => exact absurd h List.not_mem_nil
  | cons c cs ih =>
    rw [insertInto]
    by_cases hc : c.name = b.name
    · rw [if_pos hc, List.map_cons, List.map_cons, hc]
    · have hmem : b.name ∈ names ⟨cs⟩ := (List.mem_cons.mp h).resolve_left (Ne.symm hc)
      rw [if_neg hc, List.map_cons, List.map_cons, ih hmem]

/-- A new name comes last. -/
theorem names_insert_of_notMem {s : BindingSet} {b : Binding} (h : b.name ∉ s.names) :
    (s.insert b).names = s.names ++ [b.name] := by
  obtain ⟨bs⟩ := s
  rw [names, insert, names]
  induction bs with
  | nil => rfl
  | cons c cs ih =>
    obtain ⟨hc, hcs⟩ := List.ne_and_not_mem_of_not_mem_cons h
    rw [insertInto, if_neg hc.symm, List.map_cons, List.map_cons, ih hcs, List.cons_append]

/-- What is added is found by its name, and nothing else changes. -/
theorem get?_insert (s : BindingSet) (b : Binding) (name : String) :
    (s.insert b).get? name = if b.name = name then some b else s.get? name := by
  obtain ⟨bs⟩ := s
  rw [insert]
  induction bs with
  | nil => rw [insertInto, get?_cons]
  | cons c cs ih =>
    rw [insertInto]
    by_cases hc : c.name = b.name
    · rw [if_pos hc, get?_cons, get?_cons, hc]
      split <;> rfl
    · rw [if_neg hc, get?_cons, get?_cons, ih]
      by_cases hname : c.name = name
      · rw [if_pos hname, if_pos hname, if_neg fun h ↦ hc (hname.trans h.symm)]
      · rw [if_neg hname, if_neg hname]

theorem nodup_names_insert {s : BindingSet} (h : s.names.Nodup) (b : Binding) :
    (s.insert b).names.Nodup := by
  by_cases hmem : b.name ∈ s.names
  · rwa [names_insert_of_mem hmem]
  · rw [names_insert_of_notMem hmem]
    refine List.nodup_append.mpr ⟨h, List.nodup_singleton _, fun name hname other hother heq ↦ ?_⟩
    rw [heq, List.mem_singleton.mp hother] at hname
    exact hmem hname

/-! ## Reading a set -/

/-- With distinct names the bindings are those that their names lead to. -/
theorem bindings_eq_filterMap {s : BindingSet} (h : s.names.Nodup) :
    s.bindings = s.names.filterMap s.get? := by
  have hget : ∀ b ∈ s.bindings, (s.get? ∘ (·.name)) b = some b := fun b hb ↦
    (find?_name_eq_some_iff h).mpr ⟨hb, rfl⟩
  rw [names, List.filterMap_map, List.filterMap_congr hget, List.filterMap_some]

theorem select_eq_mapM (s : BindingSet) (names : List String) :
    s.select names = names.mapM fun name ↦ (s.get? name).elim (.error name) .ok := by
  refine congrArg names.mapM (funext fun name ↦ ?_)
  cases s.get? name <;> rfl

/-- A selection has the binding of each name at its position. -/
theorem select_eq_ok_iff {s : BindingSet} {names : List String} {selected : List Binding} :
    s.select names = .ok selected ↔ names.map s.get? = selected.map some := by
  have hstep : ∀ name b, (s.get? name).elim (.error name) .ok = (.ok b : Except String Binding) ↔
      s.get? name = some b := by
    intro name b
    cases s.get? name <;> simp
  rw [select_eq_mapM, mapM_eq_ok_iff_forall₂ hstep, ← List.forall₂_eq_eq_eq,
    List.forall₂_map_left_iff, List.forall₂_map_right_iff]

/-- A selection fails with the first name that has no binding. -/
theorem select_eq_error_iff {s : BindingSet} {names : List String} {name : String} :
    s.select names = .error name ↔ names.find? (fun n ↦ (s.get? n).isNone) = some name := by
  have hok : ∀ n, (∃ b, (s.get? n).elim (.error n) .ok = (.ok b : Except String Binding)) ↔
      (!(s.get? n).isNone) = true := by
    intro n
    cases s.get? n <;> simp
  have herror : ∀ n, (s.get? n).elim (.error n) .ok = (.error name : Except String Binding) ↔
      (s.get? n).isNone = true ∧ n = name := by
    intro n
    cases s.get? n <;> simp
  rw [select_eq_mapM, mapM_eq_error_iff, List.find?_eq_some_iff_append]
  simp only [hok, herror]
  constructor
  · rintro ⟨before, n, after, hnames, hbefore, hnone, rfl⟩
    exact ⟨hnone, before, after, hnames, hbefore⟩
  · rintro ⟨hnone, before, after, hnames, hbefore⟩
    exact ⟨before, name, after, hnames, hbefore, hnone, rfl⟩

/-! ## Many additions -/

/-- The set that is built by adding bindings in order. -/
def ofList (bs : List Binding) : BindingSet :=
  bs.foldl insert empty

theorem ofList_append_singleton (bs : List Binding) (b : Binding) :
    ofList (bs ++ [b]) = (ofList bs).insert b := by
  rw [ofList, List.foldl_append]
  rfl

theorem nodup_names_ofList (bs : List Binding) : (ofList bs).names.Nodup := by
  induction bs using List.reverseRecOn with
  | nil => exact List.nodup_nil
  | append_singleton bs b ih =>
    rw [ofList_append_singleton]
    exact nodup_names_insert ih b

theorem names_ofList (bs : List Binding) :
    (ofList bs).names = (bs.map (·.name)).eraseDups := by
  induction bs using List.reverseRecOn with
  | nil => rfl
  | append_singleton bs b ih =>
    rw [ofList_append_singleton, List.map_append, List.eraseDups_append, ← ih]
    by_cases hmem : b.name ∈ (ofList bs).names
    · rw [names_insert_of_mem hmem]
      rw [ih, List.mem_eraseDups] at hmem
      simp [List.removeAll, -List.mem_map, hmem]
    · rw [names_insert_of_notMem hmem]
      rw [ih, List.mem_eraseDups] at hmem
      simp [List.removeAll, -List.mem_map, hmem, List.eraseDups_cons]

theorem get?_ofList (bs : List Binding) (name : String) :
    (ofList bs).get? name = (bs.filter (·.name == name)).getLast? := by
  induction bs using List.reverseRecOn with
  | nil => rfl
  | append_singleton bs b ih =>
    rw [ofList_append_singleton, get?_insert, ih, List.filter_append]
    split
    · next hname => simp [hname]
    · next hname => simp [hname]

theorem size_ofList (bs : List Binding) :
    (ofList bs).size = (bs.map (·.name)).toFinset.card := by
  have hsame : (ofList bs).names.toFinset = (bs.map (·.name)).toFinset := by
    ext name
    rw [names_ofList, List.mem_toFinset, List.mem_toFinset, List.mem_eraseDups]
  rw [← hsame, List.toFinset_card_of_nodup (nodup_names_ofList bs), names, List.length_map, size]

/-- **A set of bindings is an ordered map in which the last addition wins.** Whatever bindings are
added to the empty set, its names are distinct and stand in the order of their first addition; a
name leads to the last binding that was added under it; and the size is the number of names. A list
of names selects what its names lead to, position by position, or fails with the first that leads
nowhere. The bindings for a language are those of the current ones that are for it, in order. -/
theorem additions_last_wins (bs : List Binding) :
    let s := bs.foldl insert empty
    s.names.Nodup ∧ s.names = (bs.map (·.name)).eraseDups ∧
      (∀ name, s.get? name = (bs.filter (·.name == name)).getLast?) ∧
      s.size = (bs.map (·.name)).toFinset.card ∧
      (∀ names,
        (∀ selected, s.select names = .ok selected ↔ names.map s.get? = selected.map some) ∧
        ∀ name, s.select names = .error name ↔
          names.find? (fun n ↦ (s.get? n).isNone) = some name) ∧
      ∀ language, s.forLanguage language
        = (s.names.filterMap s.get?).filter (·.language == language) := by
  intro s
  have hnodup : s.names.Nodup := nodup_names_ofList bs
  refine ⟨hnodup, names_ofList bs, get?_ofList bs, size_ofList bs, ?_, ?_⟩
  · exact fun names ↦ ⟨fun _ ↦ select_eq_ok_iff, fun _ ↦ select_eq_error_iff⟩
  · intro language
    rw [forLanguage, bindings_eq_filterMap hnodup]

/-- A binding for another language takes the place of Java, and its language with it. -/
example :
    let s := [.java, .kotlin, { Binding.python with name := "java" }].foldl insert empty
    s.names = ["java", "kotlin"] ∧ (s.forLanguage "python").map (·.name) = ["java"] ∧
      (s.forLanguage "java").length = 0 :=
  ⟨rfl, rfl, rfl⟩

end Cookery.BindingSet
