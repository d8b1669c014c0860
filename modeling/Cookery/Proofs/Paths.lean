import Cookery.Proofs.Traversal
import Cookery.Render

/-!
# Paths of rendered files

Paths are compared by their components, and a text has to be taken apart to know them. This is done
here once. A name that passes `isSafeName` is a single component, with an extension or without, and
to append plain names to a path is to append their components, however the path is written. So the
components of the file of a record are the names that its path is made of, `ArtifactRecord.place`.
-/

namespace Cookery

/-! ## Splitting at slashes -/

namespace Path

theorem splitSlashes_of_notMem {part : List Char} (h : '/' ∉ part) :
    splitSlashes part = [part] := by
  induction part with
  | nil => rfl
  | cons c cs ih =>
    obtain ⟨hc, hcs⟩ := List.ne_and_not_mem_of_not_mem_cons h
    rw [splitSlashes, if_neg hc.symm, ih hcs]

theorem splitSlashes_ne_nil (cs : List Char) : splitSlashes cs ≠ [] := by
  cases cs with
  | nil => exact List.cons_ne_nil _ _
  | cons c cs =>
    rw [splitSlashes]
    split
    · exact List.cons_ne_nil _ _
    · split <;> exact List.cons_ne_nil _ _

/-- A slash divides the parts before it from the parts after it. -/
theorem splitSlashes_append (cs ds : List Char) :
    splitSlashes (cs ++ '/' :: ds) = splitSlashes cs ++ splitSlashes ds := by
  induction cs with
  | nil => exact if_pos rfl
  | cons c cs ih =>
    rw [List.cons_append, splitSlashes, splitSlashes, ih]
    split
    · rfl
    · obtain ⟨part, parts, hparts⟩ := List.exists_cons_of_ne_nil (splitSlashes_ne_nil cs)
      rw [hparts]
      rfl

/-! ## Names as components -/

/-- A text that, as a part of a path, names a file or directory. -/
structure IsName (text : String) : Prop where
  ne_empty : text.toList ≠ []
  ne_current : text.toList ≠ ['.']
  ne_parent : text.toList ≠ ['.', '.']
  slash_notMem : '/' ∉ text.toList

theorem IsName.component?_eq {text : String} (h : IsName text) :
    component? text.toList = some (.name text) := by
  have hcounts : ¬(text.toList = [] ∨ text.toList = ['.']) :=
    fun hor ↦ hor.elim h.ne_empty h.ne_current
  rw [component?, if_neg hcounts, if_neg h.ne_parent, String.ofList_toList]

/-- A name by itself is a path with one component. -/
theorem IsName.components_eq {text : String} (h : IsName text) :
    components ⟨text⟩ = [.name text] := by
  have hsplit : splitSlashes text.toList = [text.toList] := splitSlashes_of_notMem h.slash_notMem
  have habsolute : ¬isAbsolute ⟨text⟩ = true := by
    intro habsolute
    exact h.slash_notMem (List.mem_of_head? (beq_iff_eq.mp habsolute))
  rw [components, if_neg habsolute, hsplit, List.head?_cons, if_neg (by simpa using h.ne_current),
    List.filterMap_cons_some h.component?_eq]
  rfl

/-! ## Appending paths -/

/-- The components inside a path whose parts continue those of another. A slash at the end leaves an
empty part, which counts for nothing, so it is enough to compare what counts. -/
theorem components_eq_append {p full : Path} {rest : List Component}
    (habsolute : full.isAbsolute = p.isAbsolute)
    (hhead : (splitSlashes full.text.toList).head? = (splitSlashes p.text.toList).head?)
    (hinner : (splitSlashes full.text.toList).filterMap component?
      = (splitSlashes p.text.toList).filterMap component? ++ rest) :
    full.components = p.components ++ rest := by
  rw [components, components, habsolute, hhead, hinner]
  split
  · rfl
  · split <;> rfl

/-- A path of plain names is relative, and all its components come from its parts. -/
theorem relative_of_components {p : Path} {names : List String}
    (h : p.components = names.map .name) :
    p.isAbsolute = false ∧ p.components = (splitSlashes p.text.toList).filterMap component? := by
  have hplain : ∀ c ∈ p.components, c ≠ .root ∧ c ≠ .current := by
    simp [h]
  rw [components] at hplain ⊢
  by_cases habsolute : p.isAbsolute
  · simp [habsolute] at hplain
  · by_cases hcurrent : (splitSlashes p.text.toList).head? == some ['.']
    · simp [habsolute, hcurrent] at hplain
    · simp [habsolute, hcurrent]

/-- A root may end with the slash that divides it from what is appended, or the slash is put in. -/
theorem components_of_slash {root full : Path} {stem rest : List Char}
    (hroot : root.text.toList = stem ++ ['/'] ∨ root.text.toList = stem ∧ stem ≠ [])
    (hfull : full.text.toList = stem ++ '/' :: rest) :
    full.components = root.components ++ (splitSlashes rest).filterMap component? := by
  have hstem := splitSlashes_ne_nil stem
  have hend : (splitSlashes []).filterMap component? = [] := rfl
  refine components_eq_append ?_ ?_ ?_
  · rw [isAbsolute, isAbsolute, hfull]
    rcases hroot with hroot | ⟨hroot, hne⟩
    · rw [hroot]
      cases stem <;> simp
    · rw [hroot, List.head?_append_of_ne_nil _ hne]
  · rw [hfull, splitSlashes_append, List.head?_append_of_ne_nil _ hstem]
    rcases hroot with hroot | ⟨hroot, -⟩
    · rw [hroot, splitSlashes_append, List.head?_append_of_ne_nil _ hstem]
    · rw [hroot]
  · rw [hfull, splitSlashes_append, List.filterMap_append]
    rcases hroot with hroot | ⟨hroot, -⟩
    · rw [hroot, splitSlashes_append, List.filterMap_append, hend, List.append_nil]
    · rw [hroot]

/-- A path of plain names is appended by its components. -/
theorem components_join (root : Path) {p : Path} {names : List String}
    (h : p.components = names.map .name) :
    (root.join p).components = root.components ++ p.components := by
  obtain ⟨habsolute, hinner⟩ := relative_of_components h
  rw [join, habsolute, Bool.false_or]
  by_cases hempty : root.text.isEmpty
  · rw [if_pos hempty]
    have hroot : root.components = [] := by
      obtain ⟨text⟩ := root
      obtain rfl := String.isEmpty_iff.mp hempty
      rfl
    rw [hroot, List.nil_append]
  · rw [if_neg hempty, hinner]
    by_cases hslash : root.text.toList.getLast? == some '/'
    · rw [if_pos hslash]
      obtain ⟨stem, hstem⟩ := List.getLast?_eq_some_iff.mp (beq_iff_eq.mp hslash)
      exact components_of_slash (.inl hstem) (by simp [hstem])
    · rw [if_neg hslash]
      have hne : root.text.toList ≠ [] := by simpa using hempty
      exact components_of_slash (.inr ⟨rfl, hne⟩) (by simp)

/-- A name is appended as one more component. -/
theorem IsName.components_join {text : String} (h : IsName text) (root : Path) :
    (root.join ⟨text⟩).components = root.components ++ [.name text] := by
  have hone : components ⟨text⟩ = [text].map .name := h.components_eq
  rw [Path.components_join root hone, h.components_eq]

end Path

/-! ## Safe names -/

theorem isSafeName_iff {name : String} :
    isSafeName name = true ↔ name ≠ "" ∧ name ≠ "." ∧ name ≠ ".." ∧
      '/' ∉ name.toList ∧ '\\' ∉ name.toList ∧ '\x00' ∉ name.toList := by
  simp only [isSafeName, Bool.not_eq_true', Bool.or_eq_false_iff, beq_eq_false_iff_ne,
    List.any_eq_false, Bool.not_eq_true]
  constructor
  · rintro ⟨⟨⟨hempty, hcurrent⟩, hparent⟩, hchars⟩
    exact ⟨hempty, hcurrent, hparent, fun h ↦ (hchars _ h).1.1 rfl, fun h ↦ (hchars _ h).1.2 rfl,
      fun h ↦ (hchars _ h).2 rfl⟩
  · rintro ⟨hempty, hcurrent, hparent, hslash, hbackslash, hnul⟩
    refine ⟨⟨⟨hempty, hcurrent⟩, hparent⟩, fun c hc ↦ ⟨⟨?_, ?_⟩, ?_⟩⟩
    · exact fun h ↦ hslash (h ▸ hc)
    · exact fun h ↦ hbackslash (h ▸ hc)
    · exact fun h ↦ hnul (h ▸ hc)

theorem safeName_eq_ok_iff {kind : RecordKind} {name directory : String} :
    safeName kind name = .ok directory ↔ isSafeName name = true ∧ directory = name := by
  rw [safeName]
  by_cases h : isSafeName name = true
  · rw [if_pos h]
    exact ⟨fun heq ↦ ⟨h, (Except.ok.inj heq).symm⟩, fun heq ↦ congrArg _ heq.2.symm⟩
  · rw [if_neg h]
    exact ⟨fun heq ↦ (nomatch heq), fun heq ↦ absurd heq.1 h⟩

theorem isName_of_isSafeName {name : String} (h : isSafeName name = true) : Path.IsName name := by
  obtain ⟨hempty, hcurrent, hparent, hslash, -⟩ := isSafeName_iff.mp h
  refine ⟨fun heq ↦ hempty ?_, fun heq ↦ hcurrent ?_, fun heq ↦ hparent ?_, hslash⟩
  all_goals exact String.toList_injective heq

/-- With an extension a safe name is still safe. -/
theorem isSafeName_append_json {name : String} (h : isSafeName name = true) :
    isSafeName (name ++ ".json") = true := by
  obtain ⟨-, -, -, hslash, hbackslash, hnul⟩ := isSafeName_iff.mp h
  have hlong : 5 ≤ (name ++ ".json").toList.length := by simp
  have hchar {c : Char} (hname : c ∉ name.toList) (hextension : c ∉ ".json".toList) :
      c ∉ (name ++ ".json").toList := by
    rw [String.toList_append, List.mem_append]
    exact not_or.mpr ⟨hname, hextension⟩
  refine isSafeName_iff.mpr ⟨fun heq ↦ ?_, fun heq ↦ ?_, fun heq ↦ ?_,
    hchar hslash (by decide), hchar hbackslash (by decide), hchar hnul (by decide)⟩
  all_goals
    rw [heq] at hlong
    exact absurd hlong (by decide)

/-! ## Files of records -/

namespace ArtifactRecord

/-- The directories down to the file of a record, and its name. -/
def place (r : ArtifactRecord) : List String :=
  match r.kind with
  | .manifest => [r.binding, "index.json"]
  | .ingredient => [r.binding, "ingredients", r.name ++ ".json"]
  | .enum => [r.binding, "enums", r.name ++ ".json"]

/-- A file in a directory of the binding. -/
theorem components_join_join {binding directory file : String}
    (hbinding : isSafeName binding = true) (hdirectory : isSafeName directory = true)
    (hfile : isSafeName file = true) :
    ((Path.join ⟨binding⟩ ⟨directory⟩).join ⟨file⟩).components
      = [binding, directory, file].map .name := by
  rw [(isName_of_isSafeName hfile).components_join,
    (isName_of_isSafeName hdirectory).components_join,
    (isName_of_isSafeName hbinding).components_eq]
  rfl

/-- The components of the path of a record are the names of its place, and all of them are safe. -/
theorem path_eq_ok {r : ArtifactRecord} {p : Path} (h : r.path = .ok p) :
    p.components = r.place.map .name ∧ ∀ name ∈ r.place, isSafeName name = true := by
  obtain ⟨directory, hdirectory, h⟩ := bind_eq_ok_iff.mp h
  obtain ⟨hbinding, rfl⟩ := safeName_eq_ok_iff.mp hdirectory
  rw [place]
  cases hkind : r.kind with
  | manifest =>
    rw [hkind] at h
    obtain rfl := Except.ok.inj h
    have hindex : isSafeName "index.json" = true := rfl
    refine ⟨?_, by simp [hbinding, hindex]⟩
    rw [(isName_of_isSafeName hindex).components_join,
      (isName_of_isSafeName hbinding).components_eq]
    rfl
  | ingredient =>
    rw [hkind] at h
    obtain ⟨name, hname, h⟩ := bind_eq_ok_iff.mp h
    obtain ⟨hsafe, rfl⟩ := safeName_eq_ok_iff.mp hname
    obtain rfl := Except.ok.inj h
    have hdirectory : isSafeName "ingredients" = true := rfl
    have hfile := isSafeName_append_json hsafe
    exact ⟨components_join_join hbinding hdirectory hfile, by simp [hbinding, hdirectory, hfile]⟩
  | enum =>
    rw [hkind] at h
    obtain ⟨name, hname, h⟩ := bind_eq_ok_iff.mp h
    obtain ⟨hsafe, rfl⟩ := safeName_eq_ok_iff.mp hname
    obtain rfl := Except.ok.inj h
    have hdirectory : isSafeName "enums" = true := rfl
    have hfile := isSafeName_append_json hsafe
    exact ⟨components_join_join hbinding hdirectory hfile, by simp [hbinding, hdirectory, hfile]⟩

end ArtifactRecord

end Cookery
