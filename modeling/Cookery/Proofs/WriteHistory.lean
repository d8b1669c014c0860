import Cookery.Proofs.Store
import Mathlib.Data.List.Induction

/-!
# A store as the history of its writes

A store holds one file for all spellings of a path, and what it holds is determined by the writes to
that path alone: the spelling comes from the first of them and the contents from the last.

## Two orders

Writes come in the order of time, and a store keeps its files in the order of their paths. What one
write does is said for one path at a time, by `Store.fileAt?_insertInto`, so the two orders never
have to be compared. But insertion stops looking for a path at the first that is greater, and finds
the file that is there only because the files are in order. The order of the paths is therefore an
invariant of all stores that are built by writes, and everything else is derived with its help.
-/

namespace Cookery

/-! ## The order of paths -/

namespace Component

theorem lt_irrefl (c : Component) : ¬c.lt c = true := by
  cases c with
  | name s => simpa only [lt, decide_eq_true_eq] using String.lt_irrefl s
  | _ => simp only [lt, Bool.false_eq_true, not_false_eq_true]

theorem lt_trans {a b c : Component} (hab : a.lt b = true) (hbc : b.lt c = true) :
    a.lt c = true := by
  cases a <;> cases b <;> cases c <;>
    simp only [lt, Bool.false_eq_true, decide_eq_true_eq] at hab hbc ⊢
  exact String.lt_trans hab hbc

theorem eq_of_not_lt {a b : Component} (hab : ¬a.lt b = true) (hba : ¬b.lt a = true) : a = b := by
  cases a <;> cases b <;>
    simp only [lt, not_true_eq_false, decide_eq_true_eq, name.injEq] at hab hba ⊢
  exact String.le_antisymm (String.not_lt.mp hba) (String.not_lt.mp hab)

end Component

theorem componentsLt_iff_lex {cs ds : List Component} :
    componentsLt cs ds = true ↔ List.Lex (fun c d ↦ c.lt d = true) cs ds := by
  induction cs generalizing ds with
  | nil => cases ds <;> simp [componentsLt]
  | cons c cs ih =>
    cases ds with
    | nil => simp [componentsLt]
    | cons d ds =>
      rw [componentsLt, List.cons_lex_cons_iff]
      by_cases h : c = d
      · rw [if_pos h, ih]
        simp [h, Component.lt_irrefl]
      · rw [if_neg h]
        simp [h]

theorem componentsLt_irrefl (cs : List Component) : ¬componentsLt cs cs = true := by
  rw [componentsLt_iff_lex]
  exact List.lex_irrefl Component.lt_irrefl cs

theorem componentsLt_trans {cs ds es : List Component} (h : componentsLt cs ds = true)
    (h' : componentsLt ds es = true) : componentsLt cs es = true := by
  rw [componentsLt_iff_lex] at h h' ⊢
  exact List.lex_trans Component.lt_trans h h'

theorem componentsLt_of_not {cs ds : List Component} (hne : cs ≠ ds)
    (h : ¬componentsLt ds cs = true) : componentsLt cs ds = true := by
  rw [componentsLt_iff_lex] at h ⊢
  by_contra h'
  exact hne (List.lex_trichotomous (fun _ _ ↦ Component.eq_of_not_lt) h h')

namespace Store

/-! ## Files in order -/

/-- Every file comes before the files at greater paths. -/
def Increasing (files : List (Path × String)) : Prop :=
  files.Pairwise fun f g ↦ componentsLt f.1.components g.1.components = true

theorem Increasing.nodup {files : List (Path × String)} (h : Increasing files) :
    (files.map (·.1.components)).Nodup := by
  rw [List.Nodup, List.pairwise_map]
  refine List.Pairwise.imp ?_ h
  intro f g hlt heq
  rw [heq] at hlt
  exact componentsLt_irrefl _ hlt

/-- Insertion has no new paths but the one that is inserted. -/
theorem fst_of_mem_insertInto {path : Path} {contents : String} {files : List (Path × String)}
    {g : Path × String} (h : g ∈ insertInto path contents files) :
    g.1 = path ∨ ∃ f ∈ files, g.1 = f.1 := by
  induction files with
  | nil => exact .inl (by rw [List.mem_singleton.mp h])
  | cons f files ih =>
    rw [insertInto] at h
    split at h
    · rcases List.mem_cons.mp h with rfl | h
      · exact .inr ⟨f, List.mem_cons_self, rfl⟩
      · exact .inr ⟨g, List.mem_cons_of_mem f h, rfl⟩
    · split at h
      · rcases List.mem_cons.mp h with rfl | h
        · exact .inl rfl
        · exact .inr ⟨g, h, rfl⟩
      · rcases List.mem_cons.mp h with rfl | h
        · exact .inr ⟨f, List.mem_cons_self, rfl⟩
        · refine (ih h).imp_right ?_
          rintro ⟨f', hf', heq⟩
          exact ⟨f', List.mem_cons_of_mem f hf', heq⟩

theorem Increasing.insertInto {files : List (Path × String)} (h : Increasing files) (path : Path)
    (contents : String) : Increasing (insertInto path contents files) := by
  induction files with
  | nil => exact List.pairwise_singleton _ _
  | cons f files ih =>
    obtain ⟨hf, hfiles⟩ := List.pairwise_cons.mp h
    rw [Store.insertInto]
    split
    · exact List.pairwise_cons.mpr ⟨hf, hfiles⟩
    · next hne =>
      split
      · next hlt =>
        refine List.pairwise_cons.mpr ⟨fun g hg ↦ ?_, h⟩
        rcases List.mem_cons.mp hg with rfl | hg
        · exact hlt
        · exact componentsLt_trans hlt (hf g hg)
      · next hlt =>
        refine List.pairwise_cons.mpr ⟨fun g hg ↦ ?_, ih hfiles⟩
        rcases fst_of_mem_insertInto hg with hpath | ⟨f', hf', heq⟩
        · rw [hpath]
          exact componentsLt_of_not hne hlt
        · rw [heq]
          exact hf f' hf'

/-- A write leaves the files at other paths as they are and where they are. -/
theorem filter_insertInto (path : Path) (contents : String) (files : List (Path × String)) :
    (insertInto path contents files).filter (·.1.components ≠ path.components) =
      files.filter (·.1.components ≠ path.components) := by
  induction files with
  | nil => simp [insertInto]
  | cons f files ih =>
    rw [insertInto]
    split
    · next hsame => simp [hsame]
    · split
      · simp
      · rw [List.filter_cons, List.filter_cons, ih]

/-! ## One path -/

/-- The file at a path, with the spelling that the store has for it. -/
def fileAt? (files : List (Path × String)) (q : Path) : Option (Path × String) :=
  files.find? fun f ↦ f.1.components = q.components

theorem fileAt?_cons (f : Path × String) (files : List (Path × String)) (q : Path) :
    fileAt? (f :: files) q =
      if f.1.components = q.components then some f else fileAt? files q := by
  by_cases h : f.1.components = q.components <;> simp [fileAt?, h]

/-- What is beyond a greater path is not the path itself. -/
theorem fileAt?_eq_none_of_lt {files : List (Path × String)} {f : Path × String} {q : Path}
    (h : Increasing (f :: files)) (hlt : componentsLt q.components f.1.components = true) :
    fileAt? (f :: files) q = none := by
  rw [fileAt?, List.find?_eq_none]
  intro g hg hsame
  have hsame : g.1.components = q.components := of_decide_eq_true hsame
  refine componentsLt_irrefl q.components ?_
  rcases List.mem_cons.mp hg with rfl | hg
  · rwa [hsame] at hlt
  · have hfg := (List.pairwise_cons.mp h).1 g hg
    rw [hsame] at hfg
    exact componentsLt_trans hlt hfg

/-- A write keeps the spelling that the store has for its path, and brings its own otherwise. -/
theorem fileAt?_insertInto {files : List (Path × String)} (h : Increasing files) (path : Path)
    (contents : String) (q : Path) :
    fileAt? (insertInto path contents files) q =
      if path.components = q.components then
        some (((fileAt? files q).map (·.1)).getD path, contents)
      else fileAt? files q := by
  induction files with
  | nil => rw [insertInto, fileAt?_cons]; rfl
  | cons f files ih =>
    rw [insertInto]
    by_cases hsame : f.1.components = path.components
    · rw [if_pos hsame, fileAt?_cons, fileAt?_cons, hsame]
      split <;> rfl
    · rw [if_neg hsame]
      by_cases hlt : componentsLt path.components f.1.components = true
      · rw [if_pos hlt, fileAt?_cons]
        by_cases hq : path.components = q.components
        · rw [if_pos hq, if_pos hq, fileAt?_eq_none_of_lt h (by rwa [← hq])]
          rfl
        · rw [if_neg hq, if_neg hq]
      · rw [if_neg hlt, fileAt?_cons, fileAt?_cons, ih (List.pairwise_cons.mp h).2]
        by_cases hf : f.1.components = q.components
        · rw [if_pos hf, if_pos hf, if_neg fun hq ↦ hsame (hf.trans hq.symm)]
        · rw [if_neg hf, if_neg hf]

/-- In a store that is in order every file is the one at its path. -/
theorem Increasing.fileAt?_of_mem {files : List (Path × String)} (h : Increasing files)
    {f : Path × String} (hf : f ∈ files) : fileAt? files f.1 = some f := by
  induction files with
  | nil => exact absurd hf List.not_mem_nil
  | cons g files ih =>
    obtain ⟨hg, hfiles⟩ := List.pairwise_cons.mp h
    rw [fileAt?_cons]
    rcases List.mem_cons.mp hf with rfl | hf
    · rw [if_pos rfl]
    · have hne : g.1.components ≠ f.1.components := by
        intro heq
        refine componentsLt_irrefl f.1.components ?_
        have hlt := hg f hf
        rwa [heq] at hlt
      rw [if_neg hne, ih hfiles hf]

/-! ## The history -/

/-- The writes to a path, however they spell it. -/
def writesTo (writes : List RenderedFile) (q : Path) : List RenderedFile :=
  writes.filter (·.path.components = q.components)

theorem writesTo_append_singleton (writes : List RenderedFile) (w : RenderedFile) (q : Path) :
    writesTo (writes ++ [w]) q =
      if w.path.components = q.components then writesTo writes q ++ [w] else writesTo writes q := by
  by_cases h : w.path.components = q.components <;> simp [writesTo, h]

theorem insertAll_append_singleton (s : Store) (writes : List RenderedFile) (w : RenderedFile) :
    s.insertAll (writes ++ [w]) = (s.insertAll writes).insert w.path w.contents := by
  rw [insertAll, List.foldl_append]
  rfl

theorem increasing_insertAll (writes : List RenderedFile) :
    Increasing (empty.insertAll writes).files := by
  induction writes using List.reverseRecOn with
  | nil => exact List.Pairwise.nil
  | append_singleton writes w ih =>
    rw [insertAll_append_singleton]
    exact ih.insertInto w.path w.contents

/-- Of the writes to a path the first gives the spelling and the last the contents. -/
theorem fileAt?_insertAll (writes : List RenderedFile) (q : Path) :
    fileAt? (empty.insertAll writes).files q =
      (writesTo writes q).head?.bind fun first ↦
        (writesTo writes q).getLast?.map fun last ↦ (first.path, last.contents) := by
  induction writes using List.reverseRecOn with
  | nil => rfl
  | append_singleton writes w ih =>
    rw [insertAll_append_singleton, insert, fileAt?_insertInto (increasing_insertAll writes),
      writesTo_append_singleton, ih]
    by_cases hw : w.path.components = q.components
    · rw [if_pos hw, if_pos hw, List.getLast?_concat]
      cases writesTo writes q with
      | nil => rfl
      | cons first rest =>
        rw [List.getLast?_cons]
        rfl
    · rw [if_neg hw, if_neg hw]

theorem get?_insertAll (writes : List RenderedFile) (q : Path) :
    (empty.insertAll writes).get? q = (writesTo writes q).getLast?.map (·.contents) := by
  rw [get?, ← fileAt?, fileAt?_insertAll]
  cases writesTo writes q with
  | nil => rfl
  | cons first rest =>
    rw [List.getLast?_cons]
    rfl

theorem head?_writesTo_of_mem {writes : List RenderedFile} {f : Path × String}
    (hf : f ∈ (empty.insertAll writes).files) :
    (writesTo writes f.1).head?.map (·.path) = some f.1 := by
  have hfile := (increasing_insertAll writes).fileAt?_of_mem hf
  rw [fileAt?_insertAll] at hfile
  obtain ⟨first, hfirst, hlast⟩ := Option.bind_eq_some_iff.mp hfile
  obtain ⟨last, -, heq⟩ := Option.map_eq_some_iff.mp hlast
  rw [hfirst, ← heq]
  rfl

/-- **A store is what its writes make it.** Writes to an empty store never fail. A path leads to the
contents of the last write to it under any spelling, and nowhere if there was none. The files stand
in strictly increasing order of their paths, no two at the same path, and each path is spelled as in
the first write to it. One more write leaves all files at other paths as they are. -/
theorem writes_kept_in_order (writes : List RenderedFile) :
    let s := empty.insertAll writes
    Pipeline.writeAll writer empty writes = (.ok (), s) ∧
      (∀ p, s.get? p = (writesTo writes p).getLast?.map (·.contents)) ∧
      s.files.Pairwise (fun f g ↦ componentsLt f.1.components g.1.components = true) ∧
      (s.files.map (·.1.components)).Nodup ∧
      (∀ f ∈ s.files, (writesTo writes f.1).head?.map (·.path) = some f.1) ∧
      ∀ path contents,
        (writer.write s path contents).2.files.filter (·.1.components ≠ path.components) =
          s.files.filter (·.1.components ≠ path.components) := by
  intro s
  have hincreasing : Increasing s.files := increasing_insertAll writes
  refine ⟨writeAll_writer empty writes, get?_insertAll writes, hincreasing, hincreasing.nodup,
    fun f hf ↦ head?_writesTo_of_mem hf, fun path contents ↦ ?_⟩
  exact filter_insertInto path contents s.files

/-- Two spellings of `b/x`, and `./a` beside `a`. -/
theorem writes_kept_in_order_spellings :
    let writes : List RenderedFile :=
      [⟨⟨"b//x"⟩, "1"⟩, ⟨⟨"a"⟩, "2"⟩, ⟨⟨"b/./x/"⟩, "3"⟩, ⟨⟨"./a"⟩, "4"⟩]
    let s := empty.insertAll writes
    s.files = [(⟨"./a"⟩, "4"), (⟨"a"⟩, "2"), (⟨"b//x"⟩, "3")] ∧
      s.get? ⟨"b/x"⟩ = some "3" ∧
      (writesTo writes ⟨"b//x"⟩).head?.map (·.path) = some ⟨"b//x"⟩ := by
  intro writes s
  obtain ⟨-, hget, -, -, hfirst, -⟩ := writes_kept_in_order writes
  refine ⟨by decide, ?_, hfirst (⟨"b//x"⟩, "3") (by decide)⟩
  rw [hget]
  decide

end Store

end Cookery
