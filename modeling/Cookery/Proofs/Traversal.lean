import Mathlib.Data.List.Forall2

/-!
# Traversals that stop at the first error

Rules, mappings and checks all walk a list in `Except` and stop at the first error. What such a walk
does is said here once: a walk without results succeeds exactly when every step does, a walk with
results pairs each entry with its own result, and two walks whose steps fail together fail with the
same error.

`Below` compares two computations of one result: the second may succeed where the first fails, and
where the first succeeds they agree. It is kept by sequencing and by walks.

`SucceedsIff` is for functions that are known to fail in one way only. It says when such a function
succeeds and how it fails, and it is kept by sequencing and by walks, so that the exact condition of
a long function can be read off its text.
-/

namespace Cookery

variable {ε ε' α β : Type}

/-! ## Sequencing -/

theorem bind_eq_ok_iff {x : Except ε α} {f : α → Except ε β} {b : β} :
    (x >>= f) = .ok b ↔ ∃ a, x = .ok a ∧ f a = .ok b := by
  cases x with
  | error e =>
    constructor
    · intro h
      exact nomatch h
    · rintro ⟨a, h, -⟩
      exact nomatch h
  | ok a =>
    constructor
    · intro h
      exact ⟨a, rfl, h⟩
    · rintro ⟨c, hc, h⟩
      cases hc
      exact h

theorem bind_eq_error_iff {x : Except ε α} {f : α → Except ε β} {e : ε} :
    (x >>= f) = .error e ↔ x = .error e ∨ ∃ a, x = .ok a ∧ f a = .error e := by
  cases x with
  | error d =>
    constructor
    · intro h
      exact .inl (congrArg Except.error (Except.error.inj h))
    · rintro (h | ⟨a, h, -⟩)
      · exact congrArg Except.error (Except.error.inj h)
      · exact nomatch h
  | ok a =>
    constructor
    · intro h
      exact .inr ⟨a, rfl, h⟩
    · rintro (h | ⟨c, hc, h⟩)
      · exact nomatch h
      · rw [Except.ok.inj hc]
        exact h

/-- A step that fails ends what it is a part of. -/
theorem seq_eq_ok_iff {x : Except ε Unit} {y : Except ε β} {b : β} :
    (x >>= fun _ ↦ y) = .ok b ↔ x = .ok () ∧ y = .ok b := by
  rw [bind_eq_ok_iff]
  constructor
  · rintro ⟨_, hx, hy⟩
    exact ⟨hx, hy⟩
  · rintro ⟨hx, hy⟩
    exact ⟨(), hx, hy⟩

theorem seq_eq_error_iff {x : Except ε Unit} {y : Except ε β} {e : ε} :
    (x >>= fun _ ↦ y) = .error e ↔ x = .error e ∨ x = .ok () ∧ y = .error e := by
  rw [bind_eq_error_iff]
  constructor
  · rintro (hx | ⟨_, hx, hy⟩)
    · exact .inl hx
    · exact .inr ⟨hx, hy⟩
  · rintro (hx | ⟨hx, hy⟩)
    · exact .inl hx
    · exact .inr ⟨(), hx, hy⟩

theorem discard_eq_ok_iff {x : Except ε α} : discard x = .ok () ↔ ∃ a, x = .ok a := by
  cases x with
  | error e => exact ⟨fun h ↦ (nomatch h), fun ⟨_, h⟩ ↦ nomatch h⟩
  | ok a => exact ⟨fun _ ↦ ⟨a, rfl⟩, fun _ ↦ rfl⟩

theorem discard_eq_error_iff {x : Except ε α} {e : ε} : discard x = .error e ↔ x = .error e := by
  cases x with
  | error d =>
    constructor
    · intro h
      rw [Except.error.inj h]
    · intro h
      rw [Except.error.inj h]
      rfl
  | ok a =>
    constructor
    · intro h
      cases h
    · intro h
      cases h

theorem mapError_eq_ok_iff {x : Except ε α} {lift : ε → ε'} {a : α} :
    x.mapError lift = .ok a ↔ x = .ok a := by
  cases x with
  | error e => exact ⟨fun h ↦ (nomatch h), fun h ↦ nomatch h⟩
  | ok b =>
    constructor
    · intro h
      rw [Except.ok.inj h]
    · intro h
      rw [Except.ok.inj h]
      rfl

theorem mapError_eq_error_iff {x : Except ε α} {lift : ε → ε'} {e : ε'} :
    x.mapError lift = .error e ↔ ∃ d, x = .error d ∧ lift d = e := by
  cases x with
  | error d =>
    constructor
    · intro h
      exact ⟨d, rfl, Except.error.inj h⟩
    · rintro ⟨c, hc, rfl⟩
      rw [← Except.error.inj hc]
      rfl
  | ok a => exact ⟨fun h ↦ (nomatch h), fun ⟨_, h, _⟩ ↦ nomatch h⟩

/-- A guard that refuses passes exactly when its condition fails and what follows passes. -/
theorem ite_error_eq_ok_iff {c : Prop} [Decidable c] {e : ε} {x : Except ε α} {a : α} :
    (if c then .error e else x) = .ok a ↔ ¬c ∧ x = .ok a := by
  by_cases hc : c
  · rw [if_pos hc]
    exact ⟨fun h ↦ (nomatch h), fun h ↦ absurd hc h.1⟩
  · rw [if_neg hc]
    exact ⟨fun h ↦ ⟨hc, h⟩, fun h ↦ h.2⟩

theorem ite_error_eq_error_iff {c : Prop} [Decidable c] {d e : ε} {x : Except ε α} :
    (if c then .error d else x) = .error e ↔ c ∧ d = e ∨ ¬c ∧ x = .error e := by
  by_cases hc : c
  · rw [if_pos hc]
    simp [hc]
  · rw [if_neg hc]
    simp [hc]

/-- Two computations that differ in their results and in how they word their errors succeed
together and fail together. -/
theorem agree_of_map_eq_mapError {x : Except ε' α} {y : Except ε Unit} {lift : ε → ε'}
    (h : x.map (fun _ ↦ ()) = y.mapError lift) :
    ((∃ a, x = .ok a) ↔ y = .ok ()) ∧ ∀ e, y = .error e → x = .error (lift e) := by
  cases x with
  | ok a =>
    cases y with
    | ok u => exact ⟨⟨fun _ ↦ rfl, fun _ ↦ ⟨a, rfl⟩⟩, fun e he ↦ nomatch he⟩
    | error d => exact nomatch h
  | error e' =>
    cases y with
    | ok u => exact nomatch h
    | error d =>
      refine ⟨⟨fun ⟨_, h⟩ ↦ (nomatch h), fun h ↦ nomatch h⟩, fun e he ↦ ?_⟩
      rw [← Except.error.inj he]
      exact congrArg Except.error (Except.error.inj h)

/-! ## Walks -/

/-- A walk succeeds exactly when every step does. -/
theorem forM_eq_ok_iff {f : α → Except ε Unit} {l : List α} :
    l.forM f = .ok () ↔ ∀ a ∈ l, f a = .ok () := by
  induction l with
  | nil => exact ⟨fun _ a ha ↦ (nomatch ha), fun _ ↦ rfl⟩
  | cons a l ih =>
    rw [show (a :: l).forM f = (f a >>= fun _ ↦ l.forM f) from rfl, seq_eq_ok_iff, ih,
      List.forall_mem_cons]

/-- A walk over entries with their positions, whose steps do not depend on the positions. -/
theorem forall_mem_zipIdx_iff {P : α → Prop} {l : List α} :
    (∀ x ∈ l.zipIdx, P x.1) ↔ ∀ a ∈ l, P a := by
  rw [← List.forall_mem_map (f := Prod.fst), List.zipIdx_map_fst]

/-- A walk whose steps have a meaning only after the earlier ones. It still succeeds exactly when
every step holds, since a step is never reached before the earlier ones have succeeded. -/
theorem forM_eq_ok_iff_of_earlier {f : α → Except ε Unit} {P : α → Prop} {l : List α}
    (h : ∀ before a after, l = before ++ a :: after → (∀ b ∈ before, P b) →
      (f a = .ok () ↔ P a)) : l.forM f = .ok () ↔ ∀ a ∈ l, P a := by
  induction l with
  | nil => exact ⟨fun _ a ha ↦ (nomatch ha), fun _ ↦ rfl⟩
  | cons a l ih =>
    have ha : f a = .ok () ↔ P a := h [] a l rfl fun b hb ↦ nomatch hb
    rw [show (a :: l).forM f = (f a >>= fun _ ↦ l.forM f) from rfl, seq_eq_ok_iff, ha,
      List.forall_mem_cons]
    refine and_congr_right fun hPa ↦ ih fun before b after hl hbefore ↦ ?_
    refine h (a :: before) b after (by rw [hl]; rfl) ?_
    exact List.forall_mem_cons.mpr ⟨hPa, hbefore⟩

/-- A walk with results succeeds exactly with the results of its steps. -/
theorem mapM_eq_ok_iff {f : α → Except ε β} {l : List α} {bs : List β} :
    l.mapM f = .ok bs ↔ List.Forall₂ (fun a b ↦ f a = .ok b) l bs := by
  induction l generalizing bs with
  | nil =>
    rw [List.mapM_nil, List.forall₂_nil_left_iff]
    exact ⟨fun h ↦ (Except.ok.inj h).symm, fun h ↦ h ▸ rfl⟩
  | cons a l ih =>
    rw [List.mapM_cons, bind_eq_ok_iff, List.forall₂_cons_left_iff]
    constructor
    · rintro ⟨b, hb, h⟩
      obtain ⟨cs, hcs, h⟩ := bind_eq_ok_iff.mp h
      exact ⟨b, cs, hb, ih.mp hcs, (Except.ok.inj h).symm⟩
    · rintro ⟨b, cs, hb, hcs, rfl⟩
      exact ⟨b, hb, bind_eq_ok_iff.mpr ⟨cs, ih.mpr hcs, rfl⟩⟩

/-- The same for steps whose results are known by other means. -/
theorem mapM_eq_ok_iff_forall₂ {f : α → Except ε β} {R : α → β → Prop} {l : List α} {bs : List β}
    (h : ∀ a b, f a = .ok b ↔ R a b) : l.mapM f = .ok bs ↔ List.Forall₂ R l bs :=
  mapM_eq_ok_iff.trans ⟨.imp fun a b ↦ (h a b).mp, .imp fun a b ↦ (h a b).mpr⟩

/-- A walk fails with the error of the first step that fails. What comes after it is not visited. -/
theorem mapM_eq_error_iff {f : α → Except ε β} {l : List α} {e : ε} :
    l.mapM f = .error e ↔ ∃ before a after, l = before ++ a :: after ∧
      (∀ c ∈ before, ∃ b, f c = .ok b) ∧ f a = .error e := by
  induction l with
  | nil =>
    refine ⟨fun h ↦ (nomatch h), ?_⟩
    rintro ⟨before, a, after, h, -⟩
    exact absurd h.symm (List.append_ne_nil_of_right_ne_nil before (List.cons_ne_nil a after))
  | cons x l ih =>
    rw [List.mapM_cons]
    cases hx : f x with
    | error d =>
      constructor
      · intro h
        obtain rfl : d = e := Except.error.inj h
        exact ⟨[], x, l, rfl, fun c hc ↦ (nomatch hc), hx⟩
      · rintro ⟨before, a, after, hl, hbefore, ha⟩
        cases before with
        | nil =>
          obtain ⟨rfl, -⟩ := List.cons.inj hl
          exact congrArg Except.error (Except.error.inj (hx.symm.trans ha))
        | cons c before =>
          obtain ⟨rfl, -⟩ := List.cons.inj hl
          obtain ⟨b, hb⟩ := hbefore x List.mem_cons_self
          exact nomatch hx.symm.trans hb
    | ok b =>
      have htail : ((Except.ok b : Except ε β) >>= fun b ↦ l.mapM f >>= fun bs ↦ pure (b :: bs))
          = .error e ↔ l.mapM f = .error e := by
        cases l.mapM f with
        | error d => exact ⟨fun h ↦ congrArg Except.error (Except.error.inj h), id⟩
        | ok bs => exact ⟨fun h ↦ (nomatch h), fun h ↦ nomatch h⟩
      rw [htail, ih]
      constructor
      · rintro ⟨before, a, after, rfl, hbefore, ha⟩
        refine ⟨x :: before, a, after, rfl, List.forall_mem_cons.mpr ⟨⟨b, hx⟩, hbefore⟩, ha⟩
      · rintro ⟨before, a, after, hl, hbefore, ha⟩
        cases before with
        | nil =>
          obtain ⟨rfl, -⟩ := List.cons.inj hl
          exact nomatch hx.symm.trans ha
        | cons c before =>
          obtain ⟨rfl, rfl⟩ := List.cons.inj hl
          exact ⟨before, a, after, rfl, (List.forall_mem_cons.mp hbefore).2, ha⟩

theorem optionMapM_eq_ok_iff {f : α → Except ε β} {o : Option α} {p : Option β} :
    o.mapM f = .ok p ↔ Option.Rel (fun a b ↦ f a = .ok b) o p := by
  cases o with
  | none =>
    constructor
    · intro h
      rw [← Except.ok.inj h]
      exact .none
    · rintro ⟨⟩
      rfl
  | some a =>
    constructor
    · intro h
      obtain ⟨b, hb, h⟩ := bind_eq_ok_iff.mp h
      rw [← Except.ok.inj h]
      exact .some hb
    · rintro (hb | _)
      exact bind_eq_ok_iff.mpr ⟨_, hb, rfl⟩

/-- Results of entries with their positions are results of the entries. -/
theorem forall₂_of_zipIdx {R : α → β → Prop} {l : List α} {bs : List β}
    (h : List.Forall₂ (fun x b ↦ R x.1 b) l.zipIdx bs) : List.Forall₂ R l bs := by
  rwa [← List.zipIdx_map_fst 0 l, List.forall₂_map_left_iff]

/-- Where each entry has a result, the list has one. -/
theorem exists_forall₂ {R : α → β → Prop} {l : List α} (h : ∀ a ∈ l, ∃ b, R a b) :
    ∃ bs, List.Forall₂ R l bs := by
  induction l with
  | nil => exact ⟨[], .nil⟩
  | cons a l ih =>
    obtain ⟨⟨b, hab⟩, hrest⟩ := List.forall_mem_cons.mp h
    obtain ⟨bs, hbs⟩ := ih hrest
    exact ⟨b :: bs, .cons hab hbs⟩

theorem exists_mapM {f : α → Except ε β} {l : List α} (h : ∀ a ∈ l, ∃ b, f a = .ok b) :
    ∃ bs, l.mapM f = .ok bs := by
  obtain ⟨bs, hbs⟩ := exists_forall₂ h
  exact ⟨bs, mapM_eq_ok_iff.mpr hbs⟩

/-- Where each entry has at most one result, what holds of all results holds of the result of each
entry. -/
theorem forall_mem_iff_of_forall₂ {R : α → β → Prop} {P : β → Prop} {l : List α} {bs : List β}
    (h : List.Forall₂ R l bs) (hR : ∀ a b c, R a b → R a c → b = c) :
    (∀ b ∈ bs, P b) ↔ ∀ a ∈ l, ∀ b, R a b → P b := by
  induction h with
  | nil => exact ⟨fun _ a ha ↦ (nomatch ha), fun _ b hb ↦ nomatch hb⟩
  | @cons a b l bs hab _ ih =>
    rw [List.forall_mem_cons, List.forall_mem_cons, ih]
    refine and_congr_left fun _ ↦ ⟨fun hb c hac ↦ ?_, fun ha ↦ ha b hab⟩
    exact hR a b c hab hac ▸ hb

/-- Every entry has a result, and every result comes from an entry. -/
theorem exists_mem_of_forall₂ {R : α → β → Prop} {l : List α} {bs : List β}
    (h : List.Forall₂ R l bs) :
    (∀ a ∈ l, ∃ b ∈ bs, R a b) ∧ ∀ b ∈ bs, ∃ a ∈ l, R a b := by
  induction h with
  | nil => exact ⟨fun a ha ↦ (nomatch ha), fun b hb ↦ nomatch hb⟩
  | @cons a b l bs hab _ ih =>
    refine ⟨List.forall_mem_cons.mpr ⟨⟨b, List.mem_cons_self, hab⟩, fun c hc ↦ ?_⟩,
      List.forall_mem_cons.mpr ⟨⟨a, List.mem_cons_self, hab⟩, fun c hc ↦ ?_⟩⟩
    · obtain ⟨d, hd, hcd⟩ := ih.1 c hc
      exact ⟨d, List.mem_cons_of_mem b hd, hcd⟩
    · obtain ⟨d, hd, hcd⟩ := ih.2 c hc
      exact ⟨d, List.mem_cons_of_mem a hd, hcd⟩

/-- What every result keeps of its entry, the results keep of the list. -/
theorem map_eq_map_of_forall₂ {γ : Type} {R : α → β → Prop} {f : α → γ} {g : β → γ} {l : List α}
    {bs : List β} (h : List.Forall₂ R l bs) (hR : ∀ a b, R a b → g b = f a) :
    bs.map g = l.map f := by
  induction h with
  | nil => rfl
  | cons hab _ ih => rw [List.map_cons, List.map_cons, hR _ _ hab, ih]

theorem map_eq_of_forall₂ {R : α → β → Prop} {g : β → α} {l : List α} {bs : List β}
    (h : List.Forall₂ R l bs) (hR : ∀ a b, R a b → g b = a) : bs.map g = l := by
  have hmap := map_eq_map_of_forall₂ (f := id) h hR
  rwa [List.map_id] at hmap

theorem map_eq_filterMap_of_forall₂ {γ : Type} {R : α → β → Prop} {f : α → Option γ} {g : β → γ}
    {l : List α} {bs : List β} (h : List.Forall₂ R l bs) (hR : ∀ a b, R a b → f a = some (g b)) :
    bs.map g = l.filterMap f := by
  induction h with
  | nil => rfl
  | cons hab _ ih => rw [List.map_cons, List.filterMap_cons_some (hR _ _ hab), ih]

/-- Entries that are passed over on one side are passed over on the other. -/
theorem map_filterMap_eq_map_filter_of_forall₂ {γ δ : Type} {R : α → β → Prop} {p : α → Bool}
    {f : α → δ} {g : β → Option γ} {k : γ → δ} {l : List α} {bs : List β}
    (h : List.Forall₂ R l bs)
    (hR : ∀ a b, R a b → (g b).map k = if p a then some (f a) else none) :
    (bs.filterMap g).map k = (l.filter p).map f := by
  induction h with
  | nil => rfl
  | @cons a b l bs hab _ ih =>
    have hb := hR a b hab
    by_cases ha : p a
    · rw [if_pos ha] at hb
      obtain ⟨c, hc, hk⟩ := Option.map_eq_some_iff.mp hb
      rw [List.filterMap_cons_some hc, List.filter_cons_of_pos ha, List.map_cons, List.map_cons,
        hk, ih]
    · rw [if_neg ha] at hb
      rw [List.filterMap_cons_none (Option.map_eq_none_iff.mp hb), List.filter_cons_of_neg ha, ih]

theorem forall₂_trans {γ : Type} {R : α → β → Prop} {S : β → γ → Prop} {T : α → γ → Prop}
    {l : List α} {bs : List β} {cs : List γ} (hR : List.Forall₂ R l bs)
    (hS : List.Forall₂ S bs cs) (hT : ∀ a b c, R a b → S b c → T a c) : List.Forall₂ T l cs := by
  induction hR generalizing cs with
  | nil =>
    cases hS
    exact .nil
  | cons hab _ ih =>
    obtain ⟨c, cs, hbc, hrest, rfl⟩ := List.forall₂_cons_left_iff.mp hS
    exact .cons (hT _ _ _ hab hbc) (ih hrest)

/-- Entries and results have the same positions. -/
theorem forall₂_zipIdx {R : α → β → Prop} {l : List α} {bs : List β} (h : List.Forall₂ R l bs)
    (start : Nat) :
    List.Forall₂ (fun x y ↦ R x.1 y.1 ∧ x.2 = y.2) (l.zipIdx start) (bs.zipIdx start) := by
  induction h generalizing start with
  | nil => exact .nil
  | cons hab _ ih =>
    rw [List.zipIdx_cons, List.zipIdx_cons]
    exact .cons ⟨hab, rfl⟩ (ih (start + 1))

/-- What sets entries apart sets their results apart. -/
theorem pairwise_of_forall₂ {R : α → β → Prop} {P : α → α → Prop} {Q : β → β → Prop} {l : List α}
    {bs : List β} (hl : l.Pairwise P) (h : List.Forall₂ R l bs)
    (hPQ : ∀ a b c d, P a c → R a b → R c d → Q b d) : bs.Pairwise Q := by
  induction h with
  | nil => exact .nil
  | @cons a b l bs hab hrest ih =>
    obtain ⟨hhead, htail⟩ := List.pairwise_cons.mp hl
    refine List.pairwise_cons.mpr ⟨fun d hd ↦ ?_, ih htail⟩
    obtain ⟨c, hc, hcd⟩ := (exists_mem_of_forall₂ hrest).2 d hd
    exact hPQ a b c d (hhead c hc) hab hcd

/-- Results that each entry has at most one of are a function of the entries. -/
theorem exists_map_of_forall₂ [Nonempty β] {R : α → β → Prop} {l : List α} {bs : List β}
    (h : List.Forall₂ R l bs) (hR : ∀ a b c, R a b → R a c → b = c) :
    ∃ f : α → β, bs = l.map f ∧ ∀ a ∈ l, R a (f a) := by
  refine ⟨fun a ↦ Classical.epsilon (R a), ?_, fun a ha ↦ ?_⟩
  · induction h with
    | nil => rfl
    | cons hab _ ih => rw [List.map_cons, ← ih, hR _ _ _ hab (Classical.epsilon_spec ⟨_, hab⟩)]
  · obtain ⟨b, -, hab⟩ := (exists_mem_of_forall₂ h).1 a ha
    exact Classical.epsilon_spec ⟨b, hab⟩

/-- Two walks over one list whose steps fail together, the one with results and the other without,
fail together. -/
theorem map_mapM_eq_mapError_forM {f : α → Except ε' β} {g : α → Except ε Unit} {lift : ε → ε'}
    {l : List α} (h : ∀ a ∈ l, (f a).map (fun _ ↦ ()) = (g a).mapError lift) :
    (l.mapM f).map (fun _ ↦ ()) = (l.forM g).mapError lift := by
  induction l with
  | nil => rfl
  | cons a l ih =>
    have ha := h a List.mem_cons_self
    have hl := ih fun c hc ↦ h c (List.mem_cons_of_mem a hc)
    rw [List.mapM_cons, show (a :: l).forM g = (g a >>= fun _ ↦ l.forM g) from rfl]
    cases hf : f a with
    | error e =>
      rw [hf] at ha
      cases hg : g a with
      | error d =>
        rw [hg] at ha
        exact ha
      | ok u =>
        rw [hg] at ha
        exact nomatch ha
    | ok b =>
      rw [hf] at ha
      cases hg : g a with
      | error d =>
        rw [hg] at ha
        exact nomatch ha
      | ok u =>
        -- Both heads succeed, so what remains of either walk is its tail.
        rw [show ((Except.ok u : Except ε Unit) >>= fun _ ↦ l.forM g) = l.forM g from rfl, ← hl]
        cases l.mapM f with
        | error e => rfl
        | ok bs => rfl

/-- A walk without results also fails with the error of the first step that fails. -/
theorem forM_eq_error_iff {f : α → Except ε Unit} {l : List α} {e : ε} :
    l.forM f = .error e ↔ ∃ before a after, l = before ++ a :: after ∧
      (∀ c ∈ before, f c = .ok ()) ∧ f a = .error e := by
  have hunit (a : α) : (f a).map (fun _ ↦ ()) = (f a).mapError id := by
    cases f a with
    | error d => rfl
    | ok u => rfl
  have hwalks : (l.mapM f).map (fun _ ↦ ()) = (l.forM f).mapError id :=
    map_mapM_eq_mapError_forM fun a _ ↦ hunit a
  have herror : l.forM f = .error e ↔ l.mapM f = .error e := by
    cases hmap : l.mapM f with
    | error d =>
      rw [hmap] at hwalks
      obtain ⟨c, hforM, rfl⟩ := mapError_eq_error_iff.mp hwalks.symm
      rw [hforM]
      simp
    | ok bs =>
      rw [hmap] at hwalks
      have hforM : l.forM f = .ok () := mapError_eq_ok_iff.mp hwalks.symm
      rw [hforM]
      simp
  have hok (a : α) : (∃ b, f a = .ok b) ↔ f a = .ok () :=
    ⟨fun ⟨_, h⟩ ↦ h, fun h ↦ ⟨(), h⟩⟩
  rw [herror, mapM_eq_error_iff]
  simp only [hok]

/-- A walk that fails has a step that does. -/
theorem exists_mem_of_forM_eq_error {f : α → Except ε Unit} {l : List α} {e : ε}
    (h : l.forM f = .error e) : ∃ a ∈ l, f a = .error e := by
  obtain ⟨before, a, after, rfl, -, ha⟩ := forM_eq_error_iff.mp h
  exact ⟨a, by simp, ha⟩

/-! ## Computations that succeed more often -/

/-- Where the first computation succeeds, the second succeeds with the same result. -/
def Below (x y : Except ε α) : Prop :=
  ∀ a, x = .ok a → y = .ok a

namespace Below

theorem refl (x : Except ε α) : Below x x :=
  fun _ h ↦ h

theorem bind {x y : Except ε α} {f g : α → Except ε β} (hxy : Below x y)
    (hfg : ∀ a, Below (f a) (g a)) : Below (x >>= f) (y >>= g) := by
  intro b h
  obtain ⟨a, hx, hf⟩ := bind_eq_ok_iff.mp h
  exact bind_eq_ok_iff.mpr ⟨a, hxy a hx, hfg a b hf⟩

theorem mapM {f g : α → Except ε β} (hfg : ∀ a, Below (f a) (g a)) (l : List α) :
    Below (l.mapM f) (l.mapM g) := by
  intro bs h
  exact mapM_eq_ok_iff.mpr ((mapM_eq_ok_iff.mp h).imp fun a b hab ↦ hfg a b hab)

theorem optionMapM {f g : α → Except ε β} (hfg : ∀ a, Below (f a) (g a)) (o : Option α) :
    Below (o.mapM f) (o.mapM g) := by
  cases o with
  | none => exact refl _
  | some a => exact (hfg a).bind fun b ↦ refl _

end Below

/-! ## Functions that fail in one way -/

/-- The computation succeeds exactly when `P` holds, and any error of it is in `E`. -/
def SucceedsIff (x : Except ε α) (P : Prop) (E : ε → Prop) : Prop :=
  match x with
  | .ok _ => P
  | .error e => ¬P ∧ E e

namespace SucceedsIff

variable {x : Except ε α} {P Q : Prop} {E : ε → Prop}

theorem ok (a : α) : SucceedsIff (.ok a : Except ε α) True E :=
  trivial

theorem exists_ok_iff (h : SucceedsIff x P E) : (∃ a, x = .ok a) ↔ P := by
  cases x with
  | error e => exact ⟨fun ⟨_, he⟩ ↦ (nomatch he), fun hP ↦ absurd hP h.1⟩
  | ok a => exact ⟨fun _ ↦ h, fun _ ↦ ⟨a, rfl⟩⟩

theorem of_error (h : SucceedsIff x P E) {e : ε} (he : x = .error e) : E e := by
  subst he
  exact h.2

theorem congr (h : SucceedsIff x P E) (hPQ : P ↔ Q) : SucceedsIff x Q E := by
  cases x with
  | error e => exact ⟨fun hQ ↦ h.1 (hPQ.mpr hQ), h.2⟩
  | ok a => exact hPQ.mp h

theorem weaken {E' : ε → Prop} (h : SucceedsIff x P E) (hE : ∀ e, E e → E' e) :
    SucceedsIff x P E' := by
  cases x with
  | error e => exact ⟨h.1, hE e h.2⟩
  | ok a => exact h

/-- The second part only has to be judged on what the first part gives. -/
theorem bind {f : α → Except ε β} (h : SucceedsIff x P E)
    (hf : ∀ a, x = .ok a → SucceedsIff (f a) Q E) : SucceedsIff (x >>= f) (P ∧ Q) E := by
  cases x with
  | error e => exact ⟨fun hPQ ↦ h.1 hPQ.1, h.2⟩
  | ok a => exact (hf a rfl).congr ⟨fun hQ ↦ ⟨h, hQ⟩, fun hPQ ↦ hPQ.2⟩

theorem mapM {f : α → Except ε β} {P : α → Prop} {l : List α}
    (h : ∀ a ∈ l, SucceedsIff (f a) (P a) E) : SucceedsIff (l.mapM f) (∀ a ∈ l, P a) E := by
  induction l with
  | nil => exact fun a ha ↦ nomatch ha
  | cons a l ih =>
    rw [List.mapM_cons]
    have htail := ih fun c hc ↦ h c (List.mem_cons_of_mem a hc)
    refine ((h a List.mem_cons_self).bind fun b _ ↦ htail.bind fun bs _ ↦ ok (b :: bs)).congr ?_
    rw [and_true, List.forall_mem_cons]

end SucceedsIff

end Cookery
