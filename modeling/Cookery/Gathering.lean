/-!
# Gathering results

Tasks that do not depend on each other may run side by side, and their results are gathered when
they are done. If all tasks succeed, their values come in the order of the tasks, whichever was done
first. If some fail, one of the errors is reported, and which one depends on the schedule. So there
is no single function that gathers results: a `Gathering` is any that answers in this way.
-/

namespace Cookery

/-- A way to gather the results of tasks. Which of several errors it reports is left open. -/
structure Gathering (ε α : Type) where
  gather : List (Except ε α) → Except ε (List α)
  gather_ok : ∀ values : List α, gather (values.map .ok) = .ok values
  gather_error : ∀ {results : List (Except ε α)} {e : ε}, .error e ∈ results →
    ∃ d, .error d ∈ results ∧ gather results = .error d

namespace Gathering

variable {ε α : Type}

/-- One task after the other, up to the first that fails. -/
def inOrder : Gathering ε α where
  gather results := results.mapM id
  gather_ok values := by
    induction values with
    | nil => rfl
    | cons a values ih =>
      rw [List.map_cons, List.mapM_cons, ih]
      rfl
  gather_error {results e} h := by
    induction results with
    | nil => exact absurd h List.not_mem_nil
    | cons r results ih =>
      rw [List.mapM_cons]
      rcases r with d | a
      · exact ⟨d, List.mem_cons_self, rfl⟩
      · have hrest : .error e ∈ results := by simpa using h
        obtain ⟨d, hd, hgather⟩ := ih hrest
        refine ⟨d, List.mem_cons_of_mem _ hd, ?_⟩
        rw [hgather]
        rfl

/-- Results are values without exception, or there is an error among them. -/
theorem eq_map_ok_or_error_mem (results : List (Except ε α)) :
    (∃ values : List α, results = values.map .ok) ∨ ∃ e, .error e ∈ results := by
  induction results with
  | nil => exact .inl ⟨[], rfl⟩
  | cons r results ih =>
    rcases r with e | a
    · exact .inr ⟨e, List.mem_cons_self⟩
    · rcases ih with ⟨values, rfl⟩ | ⟨e, he⟩
      · exact .inl ⟨a :: values, rfl⟩
      · exact .inr ⟨e, List.mem_cons_of_mem _ he⟩

variable (g : Gathering ε α)

theorem gather_eq_ok_iff {results : List (Except ε α)} {values : List α} :
    g.gather results = .ok values ↔ results = values.map .ok := by
  constructor
  · intro h
    rcases eq_map_ok_or_error_mem results with ⟨values', rfl⟩ | ⟨e, he⟩
    · rw [g.gather_ok] at h
      rw [Except.ok.inj h]
    · obtain ⟨d, -, hgather⟩ := g.gather_error he
      cases h.symm.trans hgather
  · rintro rfl
    exact g.gather_ok values

/-- Only errors of tasks are reported. -/
theorem error_mem_of_gather {results : List (Except ε α)} {e : ε}
    (h : g.gather results = .error e) : .error e ∈ results := by
  rcases eq_map_ok_or_error_mem results with ⟨values, rfl⟩ | ⟨d, hd⟩
  · cases h.symm.trans (g.gather_ok values)
  · obtain ⟨d, hd, hgather⟩ := g.gather_error hd
    rwa [Except.error.inj (h.symm.trans hgather)]

end Gathering

end Cookery
