import Cookery.Pipeline
import Mathlib.Data.List.Nodup

/-!
# Files in memory

A store is asked for files by path, and two paths that have the same components ask for one file.
What a write does to the answers is said by `Store.get?_insert`: the path that is written has the
new contents, and every other path what it had. A path that is new makes the store longer by one.

For many files the paths have to be distinct for this to add up. Then every file can be read back,
and there are as many files as have been written.
-/

namespace Cookery

namespace Store

/-! ## One file -/

theorem get?_cons (f : Path × String) (files : List (Path × String)) (q : Path) :
    get? ⟨f :: files⟩ q =
      if f.1.components = q.components then some f.2 else get? ⟨files⟩ q := by
  rw [get?, List.find?_cons]
  by_cases h : f.1.components = q.components
  · rw [if_pos h, decide_eq_true h]
    rfl
  · rw [if_neg h, decide_eq_false h]
    rfl

theorem get?_insertInto (path : Path) (contents : String) (files : List (Path × String))
    (q : Path) :
    get? ⟨insertInto path contents files⟩ q =
      if path.components = q.components then some contents else get? ⟨files⟩ q := by
  induction files with
  | nil => rw [insertInto, get?_cons]
  | cons f files ih =>
    rw [insertInto]
    by_cases hsame : f.1.components = path.components
    · -- The file is replaced, and its place in the order stays.
      rw [if_pos hsame, get?_cons, get?_cons, hsame]
      by_cases hq : path.components = q.components
      · rw [if_pos hq, if_pos hq]
      · rw [if_neg hq, if_neg hq, if_neg hq]
    · rw [if_neg hsame]
      by_cases hlt : componentsLt path.components f.1.components = true
      · rw [if_pos hlt, get?_cons]
      · rw [if_neg hlt, get?_cons, get?_cons, ih]
        by_cases hf : f.1.components = q.components
        · rw [if_pos hf, if_pos hf, if_neg fun h ↦ hsame (hf.trans h.symm)]
        · rw [if_neg hf, if_neg hf]

/-- A write gives the contents of its path, and nothing else changes. -/
theorem get?_insert (s : Store) (path : Path) (contents : String) (q : Path) :
    (s.insert path contents).get? q =
      if path.components = q.components then some contents else s.get? q :=
  get?_insertInto path contents s.files q

theorem length_insertInto {path : Path} {files : List (Path × String)}
    (h : get? ⟨files⟩ path = none) (contents : String) :
    (insertInto path contents files).length = files.length + 1 := by
  induction files with
  | nil => rfl
  | cons f files ih =>
    rw [get?_cons] at h
    by_cases hsame : f.1.components = path.components
    · rw [if_pos hsame] at h
      cases h
    · rw [if_neg hsame] at h
      rw [insertInto, if_neg hsame]
      by_cases hlt : componentsLt path.components f.1.components = true
      · rw [if_pos hlt, List.length_cons]
      · rw [if_neg hlt, List.length_cons, ih h, List.length_cons]

/-! ## Many files -/

/-- Writes files in order. -/
def insertAll (s : Store) (files : List RenderedFile) : Store :=
  files.foldl (fun s f ↦ s.insert f.path f.contents) s

theorem insertAll_cons (s : Store) (f : RenderedFile) (fs : List RenderedFile) :
    s.insertAll (f :: fs) = (s.insert f.path f.contents).insertAll fs :=
  rfl

/-- A store takes every file that it is handed. -/
theorem writeAll_writer (s : Store) (files : List RenderedFile) :
    Pipeline.writeAll writer s files = (.ok (), s.insertAll files) := by
  induction files generalizing s with
  | nil => rfl
  | cons f fs ih => exact ih (s.insert f.path f.contents)

/-- Files elsewhere do not change what is at a path. -/
theorem get?_insertAll_of_forall_ne {files : List RenderedFile} {q : Path}
    (h : ∀ f ∈ files, f.path.components ≠ q.components) (s : Store) :
    (s.insertAll files).get? q = s.get? q := by
  induction files generalizing s with
  | nil => rfl
  | cons f fs ih =>
    obtain ⟨hf, hfs⟩ := List.forall_mem_cons.mp h
    rw [insertAll_cons, ih hfs, get?_insert, if_neg hf]

/-- At distinct paths no file is written over another. -/
theorem get?_insertAll_of_mem {files : List RenderedFile}
    (hpaths : (files.map (·.path.components)).Nodup) (s : Store) {f : RenderedFile}
    (hf : f ∈ files) : (s.insertAll files).get? f.path = some f.contents := by
  induction files generalizing s with
  | nil => exact absurd hf List.not_mem_nil
  | cons g fs ih =>
    obtain ⟨hg, hpaths⟩ := List.nodup_cons.mp hpaths
    rw [insertAll_cons]
    rcases List.mem_cons.mp hf with rfl | hf
    · have hlater : ∀ e ∈ fs, e.path.components ≠ f.path.components :=
        fun e he heq ↦ hg (List.mem_map.mpr ⟨e, he, heq⟩)
      rw [get?_insertAll_of_forall_ne hlater, get?_insert, if_pos rfl]
    · exact ih hpaths _ hf

/-- Files at distinct paths that are all new make the store longer by their number. -/
theorem length_insertAll {files : List RenderedFile}
    (hpaths : (files.map (·.path.components)).Nodup) {s : Store}
    (hnew : ∀ f ∈ files, s.get? f.path = none) :
    (s.insertAll files).files.length = s.files.length + files.length := by
  induction files generalizing s with
  | nil => rfl
  | cons f fs ih =>
    obtain ⟨hf, hpaths⟩ := List.nodup_cons.mp hpaths
    obtain ⟨hfnew, hnew⟩ := List.forall_mem_cons.mp hnew
    have hstill : ∀ g ∈ fs, (s.insert f.path f.contents).get? g.path = none := by
      intro g hg
      have hne : f.path.components ≠ g.path.components :=
        fun heq ↦ hf (List.mem_map.mpr ⟨g, hg, heq.symm⟩)
      rw [get?_insert, if_neg hne, hnew g hg]
    rw [insertAll_cons, ih hpaths hstill, insert, length_insertInto hfnew, List.length_cons,
      Nat.add_assoc, Nat.add_comm 1]

end Store

end Cookery
