import Cookery.FileTree
import Cookery.Proofs.Paths

/-!
# Files stay below their root

A record may come from anywhere, and its binding and its name may be any texts. Written into a path
they could lead out of the directory that the file is meant for: an absolute part replaces what
comes before it, `..` leads upwards, and a slash makes several parts of one. Rendering refuses just
the names that could. Every other record has a path of two or three plain names, `r.place`.

## What follows for a root

To append a path of plain names to a root is to append its components, however the root is written:
empty, with slashes at its end, or with dots in it (`Path.components_join`). Following a plain name
goes down by one directory. So whatever a tree of files finds by the joined path lies in the
directory to which the root leads, at the place of the record.
-/

namespace Cookery

/-! ## Following paths -/

namespace FileTree

variable {t : FileTree} {l : Location}

theorem walk_append (cs ds : List Component) :
    t.walk l (cs ++ ds) = t.walk l cs >>= fun m ↦ t.walk m ds := by
  induction cs generalizing l with
  | nil => rfl
  | cons c cs ih =>
    cases c with
    | root => exact ih
    | current => exact ih
    | parent =>
      rw [List.cons_append, walk, walk, bind_assoc]
      exact congrArg _ (funext fun _ ↦ ih)
    | name s =>
      rw [List.cons_append, walk, walk, bind_assoc]
      exact congrArg _ (funext fun _ ↦ ih)

/-- Plain names lead downwards, one directory for each. -/
theorem eq_append_of_walk {names : List String} {m : Location}
    (h : t.walk l (names.map .name) = .ok m) : m = l ++ names := by
  induction names generalizing l with
  | nil => rw [← Except.ok.inj h, List.append_nil]
  | cons name names ih =>
    obtain ⟨-, h⟩ := seq_eq_ok_iff.mp h
    rw [ih h, List.append_assoc, List.singleton_append]

/-- What is found by a root and plain names after it lies below what is found by the root. -/
theorem exists_walk_of_locate_join {root p : Path} {names : List String}
    (hp : p.components = names.map .name) (h : t.locate (root.join p) = .ok l) :
    ∃ m, t.walk t.workingDirectory root.components = .ok m ∧ l = m ++ names := by
  rw [locate] at h
  split at h
  · cases h
  · rw [Path.components_join root hp, hp, walk_append] at h
    obtain ⟨m, hm, h⟩ := bind_eq_ok_iff.mp h
    exact ⟨m, hm, eq_append_of_walk h⟩

end FileTree

/-! ## Refused names -/

/-- A text that could change where a path leads. -/
def IsUnsafe (name : String) : Prop :=
  name = "" ∨ name = "." ∨ name = ".." ∨ '/' ∈ name.toList ∨ '\\' ∈ name.toList ∨
    '\x00' ∈ name.toList

theorem isSafeName_iff_not_isUnsafe {name : String} :
    isSafeName name = true ↔ ¬IsUnsafe name := by
  simp only [isSafeName_iff, IsUnsafe, not_or, ne_eq]

theorem safeName_of_isUnsafe {kind : RecordKind} {name : String} (h : IsUnsafe name) :
    safeName kind name = .error (.unsafeName kind name) :=
  if_neg fun hsafe ↦ isSafeName_iff_not_isUnsafe.mp hsafe h

theorem safeName_of_not_isUnsafe {kind : RecordKind} {name : String} (h : ¬IsUnsafe name) :
    safeName kind name = .ok name :=
  if_pos (isSafeName_iff_not_isUnsafe.mpr h)

namespace ArtifactRecord

/-- A name in the path of the record is unsafe. The name of an index is not in its path. -/
def HasUnsafeName (r : ArtifactRecord) : Prop :=
  IsUnsafe r.binding ∨ r.kind ≠ .manifest ∧ IsUnsafe r.name

variable {r : ArtifactRecord}

/-- An unsafe binding is reported before the name is looked at. -/
theorem path_of_hasUnsafeName (h : r.HasUnsafeName) :
    ∃ name ∈ [r.binding, r.name], IsUnsafe name ∧ r.path = .error (.unsafeName r.kind name) := by
  rw [path]
  by_cases hbinding : IsUnsafe r.binding
  · rw [safeName_of_isUnsafe hbinding]
    exact ⟨r.binding, by simp, hbinding, rfl⟩
  · obtain ⟨hkind, hname⟩ := h.resolve_left hbinding
    rw [safeName_of_not_isUnsafe hbinding]
    refine ⟨r.name, by simp, hname, ?_⟩
    cases r with
    | manifest m => exact absurd rfl hkind
    | ingredient i => simp [kind, safeName_of_isUnsafe hname, bind, Except.bind]
    | enum e => simp [kind, safeName_of_isUnsafe hname, bind, Except.bind]

theorem exists_path_of_not_hasUnsafeName (h : ¬r.HasUnsafeName) : ∃ p, r.path = .ok p := by
  obtain ⟨hbinding, hname⟩ := not_or.mp h
  have hnamed (hkind : r.kind ≠ .manifest) : safeName r.kind r.name = .ok r.name :=
    safeName_of_not_isUnsafe fun hunsafe ↦ hname ⟨hkind, hunsafe⟩
  rw [path, safeName_of_not_isUnsafe hbinding]
  cases hkind : r.kind with
  | manifest => exact ⟨_, rfl⟩
  | ingredient =>
    rw [hkind] at hnamed
    exact ⟨_, bind_eq_ok_iff.mpr ⟨_, rfl, bind_eq_ok_iff.mpr ⟨_, hnamed (by decide), rfl⟩⟩⟩
  | enum =>
    rw [hkind] at hnamed
    exact ⟨_, bind_eq_ok_iff.mpr ⟨_, rfl, bind_eq_ok_iff.mpr ⟨_, hnamed (by decide), rfl⟩⟩⟩

theorem length_place (r : ArtifactRecord) :
    r.place.length = if r.kind = .manifest then 2 else 3 := by
  cases r <;> rfl

/-- **Files stay below their root.** A record with an unsafe name is refused with that name. Every
other record is rendered as one file. Its path is relative, and its components are two plain names
for an index and three for an ingredient or an enum. Appended to any root it adds just these
components, and where a tree of files can follow the result, it leads to them below the directory of
the root. -/
theorem render_stays_below_root (r : ArtifactRecord) :
    r.HasUnsafeName ∧ (∃ name ∈ [r.binding, r.name], IsUnsafe name ∧
        r.render = .error (.unsafeName r.kind name)) ∨
      ¬r.HasUnsafeName ∧ ∃ f, r.render = .ok f ∧ f.path.isAbsolute = false ∧
        f.path.components = r.place.map .name ∧
        r.place.length = (if r.kind = .manifest then 2 else 3) ∧
        (∀ name ∈ r.place, ¬IsUnsafe name) ∧
        ∀ root : Path, (root.join f.path).components = root.components ++ f.path.components ∧
          ∀ (t : FileTree) l, t.locate (root.join f.path) = .ok l →
            ∃ m, t.walk t.workingDirectory root.components = .ok m ∧ l = m ++ r.place := by
  by_cases h : r.HasUnsafeName
  · obtain ⟨name, hmem, hunsafe, hpath⟩ := path_of_hasUnsafeName h
    refine .inl ⟨h, name, hmem, hunsafe, ?_⟩
    exact bind_eq_error_iff.mpr (.inl hpath)
  · obtain ⟨p, hpath⟩ := exists_path_of_not_hasUnsafeName h
    obtain ⟨hcomponents, hsafe⟩ := path_eq_ok hpath
    refine .inr ⟨h, ⟨p, r.toJson.pretty ++ "\n"⟩, bind_eq_ok_iff.mpr ⟨p, hpath, rfl⟩,
      (Path.relative_of_components hcomponents).1, hcomponents, r.length_place, ?_, ?_⟩
    · exact fun name hname ↦ isSafeName_iff_not_isUnsafe.mp (hsafe name hname)
    · intro root
      refine ⟨Path.components_join root hcomponents, fun t l hl ↦ ?_⟩
      exact FileTree.exists_walk_of_locate_join hcomponents hl

/-- A record whose binding and name have as many dots as they may. -/
def dotted : ArtifactRecord :=
  .enum ⟨"...", "..json", "Heat", []⟩

/-- The directories that the record needs, and one more. -/
def dottedTree : FileTree where
  entries := [(["out"], .directory), (["..."], .directory), (["...", "enums"], .directory)]

/-- The root has dots as well, and leads out of `out` again. -/
theorem render_stays_below_root_dotted :
    ∃ f, dotted.render = .ok f ∧ ¬IsUnsafe "..json.json" ∧
      (Path.join ⟨"./out/../"⟩ f.path).components
        = Path.components ⟨"./out/../"⟩ ++ [.name "...", .name "enums", .name "..json.json"] ∧
      dottedTree.locate (Path.join ⟨"./out/../"⟩ f.path) = .ok dotted.place ∧
      ∃ m, dottedTree.walk [] (Path.components ⟨"./out/../"⟩) = .ok m ∧
        dotted.place = m ++ dotted.place := by
  have hrender : ∃ contents, dotted.render = .ok ⟨⟨".../enums/..json.json"⟩, contents⟩ := ⟨_, rfl⟩
  have hlocate : dottedTree.locate (Path.join ⟨"./out/../"⟩ ⟨".../enums/..json.json"⟩)
      = .ok dotted.place := rfl
  obtain ⟨contents, hrender⟩ := hrender
  rcases render_stays_below_root dotted with
    ⟨-, name, -, -, herror⟩ | ⟨-, f, hf, -, hplace, -, hsafe, hroot⟩
  · rw [hrender] at herror
    cases herror
  · obtain rfl := Except.ok.inj (hrender.symm.trans hf)
    obtain ⟨hjoin, hfollow⟩ := hroot ⟨"./out/../"⟩
    rw [hplace] at hjoin
    exact ⟨_, hrender, hsafe "..json.json" (by decide), hjoin, hlocate, hfollow _ _ hlocate⟩

end ArtifactRecord

end Cookery
