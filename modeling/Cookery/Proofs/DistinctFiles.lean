import Cookery.Proofs.AllOrNothing
import Cookery.Proofs.Paths
import Cookery.Proofs.Store

/-!
# No file is written over another

The files of a run lie in one directory for each binding, and there in one directory for
ingredients, one for enums, and the index beside them. `Cookbook.layout` lists these places, without
going through records: it depends on the names of the cookbook and the name of the binding alone.

In a valid cookbook no place is listed twice, and bindings with different names have no place in
common. Since the components of a path are the names of its place, the paths of a run differ also
where they are compared by components, and a store that was empty holds every file afterwards.
-/

namespace Cookery

/-! ## Places of one binding -/

/-- Where the files of a binding go, in the order of its records. -/
def Cookbook.layout (cb : Cookbook) (binding : String) : List (List String) :=
  cb.ingredients.map (fun i ↦ [binding, "ingredients", i.name ++ ".json"]) ++
    cb.enums.map (fun d ↦ [binding, "enums", d.name ++ ".json"]) ++ [[binding, "index.json"]]

section Layout

variable {cb : Cookbook} {binding : String}

theorem Cookbook.head?_of_mem_layout {place : List String} (h : place ∈ cb.layout binding) :
    place.head? = some binding := by
  rw [layout, List.mem_append, List.mem_append, List.mem_singleton] at h
  rcases h with (h | h) | rfl
  · obtain ⟨i, -, rfl⟩ := List.mem_map.mp h
    rfl
  · obtain ⟨d, -, rfl⟩ := List.mem_map.mp h
    rfl
  · rfl

/-- Files in one directory are as distinct as the names they are called by. -/
theorem nodup_map_place {α : Type} {name : α → String} {l : List α} (h : (l.map name).Nodup)
    (binding directory : String) :
    (l.map fun a ↦ [binding, directory, name a ++ ".json"]).Nodup := by
  have hinjective : Function.Injective fun n : String ↦ [binding, directory, n ++ ".json"] := by
    intro n m heq
    exact (String.append_left_inj _).mp (List.cons.inj (List.cons.inj (List.cons.inj heq).2).2).1
  have hmap := h.map hinjective
  rwa [List.map_map] at hmap

/-- A binding has no place twice: the three kinds of records go to different directories. -/
theorem Cookbook.nodup_layout (hvalid : cb.validate = .ok ()) (binding : String) :
    (cb.layout binding).Nodup := by
  have hrules := Rule.holds_of_validate hvalid
  have hingredients := nodup_map_place (hrules .uniqueIngredientNames) binding "ingredients"
  have henums := nodup_map_place (hrules .uniqueEnumNames) binding "enums"
  have hkind {first second : String} {rest rest' : List String} (hne : first ≠ second) :
      binding :: first :: rest ≠ binding :: second :: rest' :=
    fun h ↦ hne (List.cons.inj (List.cons.inj h).2).1
  rw [layout, List.nodup_append, List.nodup_append]
  refine ⟨⟨hingredients, henums, ?_⟩, List.nodup_singleton _, ?_⟩
  · intro place hplace other hother
    obtain ⟨i, -, rfl⟩ := List.mem_map.mp hplace
    obtain ⟨d, -, rfl⟩ := List.mem_map.mp hother
    exact hkind (by decide)
  · intro place hplace other hother
    rw [List.mem_singleton.mp hother]
    rcases List.mem_append.mp hplace with hplace | hplace
    · obtain ⟨i, -, rfl⟩ := List.mem_map.mp hplace
      exact hkind (by decide)
    · obtain ⟨d, -, rfl⟩ := List.mem_map.mp hplace
      exact hkind (by decide)

theorem map_place_of_generate {b : Binding} {records : List ArtifactRecord}
    (h : generate b cb = .ok records) : records.map (·.place) = cb.layout b.name := by
  obtain ⟨ingredients, enums, hingredients, henums, rfl⟩ := generate_eq_ok_iff.mp h
  have hingredient : ∀ i r, ingredientRecord b cb i = .ok r →
      (ArtifactRecord.ingredient r).place = [b.name, "ingredients", i.name ++ ".json"] := by
    intro i r hr
    obtain ⟨fields, parts, hbuilt⟩ := exists_builtFrom_of_ingredientRecord hr
    rw [← hbuilt.binding_eq, ← hbuilt.name_eq]
    rfl
  have henum : ∀ d r, enumRecord b cb d = .ok r →
      (ArtifactRecord.enum r).place = [b.name, "enums", d.name ++ ".json"] := by
    intro d r hr
    obtain ⟨-, -, hbinding, hname, -⟩ := enumRecord_eq_ok_iff.mp hr
    rw [← hbinding, ← hname]
    rfl
  rw [List.map_append, List.map_append, List.map_map, List.map_map, Cookbook.layout]
  refine congrArg₂ _ (congrArg₂ _ ?_ ?_) rfl
  · exact map_eq_map_of_forall₂ hingredients hingredient
  · exact map_eq_map_of_forall₂ henums henum

end Layout

/-! ## Places of all bindings -/

namespace Pipeline

variable {cb : Cookbook} {bindings : List Binding} {groups : List (List ArtifactRecord)}

theorem map_place_of_generated
    (h : List.Forall₂ (fun b records ↦ Cookery.generate b cb = .ok records) bindings groups) :
    groups.flatten.map (·.place) = bindings.flatMap fun b ↦ cb.layout b.name := by
  induction h with
  | nil => rfl
  | cons hb _ ih =>
    rw [List.flatten_cons, List.map_append, map_place_of_generate hb, ih, List.flatMap_cons]

/-- Bindings with different names share no place. -/
theorem nodup_flatMap_layout (hvalid : cb.validate = .ok ())
    (hnames : (bindings.map (·.name)).Nodup) :
    (bindings.flatMap fun b ↦ cb.layout b.name).Nodup := by
  rw [List.nodup_flatMap]
  refine ⟨fun b _ ↦ Cookbook.nodup_layout hvalid b.name, ?_⟩
  refine (List.pairwise_map.mp hnames).imp fun hne place hfirst hsecond ↦ hne ?_
  have hhead := (Cookbook.head?_of_mem_layout hfirst).symm.trans
    (Cookbook.head?_of_mem_layout hsecond)
  exact Option.some.inj hhead

/-! ## Files -/

theorem components_of_render {r : ArtifactRecord} {f : RenderedFile} (h : r.render = .ok f) :
    f.path.components = r.place.map .name := by
  obtain ⟨path, hpath, h⟩ := bind_eq_ok_iff.mp h
  rw [← Except.ok.inj h]
  exact (ArtifactRecord.path_eq_ok hpath).1

/-- The paths of a run differ as lists of components. -/
theorem nodup_components_of_render {ε : Type} {p : Pipeline ε} {rendering : Rendering}
    (hnames : (p.bindings.map (·.name)).Nodup) (h : p.render cb = .ok rendering) :
    (rendering.files.map (·.path.components)).Nodup := by
  obtain ⟨hvalid, groups, hgroups, -, hfiles⟩ := render_eq_ok_iff.mp h
  have hcomponents : rendering.files.map (·.path.components)
      = (groups.flatten.map (·.place)).map (·.map Component.name) := by
    rw [List.map_map]
    exact map_eq_map_of_forall₂ hfiles fun r f hf ↦ components_of_render hf
  have hinjective : Function.Injective fun place : List String ↦ place.map Component.name :=
    List.map_injective_iff.mpr fun _ _ ↦ Component.name.inj
  rw [hcomponents, map_place_of_generated hgroups]
  exact (nodup_flatMap_layout hvalid hnames).map hinjective

/-- **No file is written over another.** Let all bindings have different names, and let rendering
succeed. Then each record has one file, all in order, and the paths of the files differ as lists of
components. A run into an empty store succeeds, leaves as many files as there are records, and every
path leads to the contents that were rendered for it. -/
theorem run_keeps_every_file (p : Pipeline Empty) (hnames : (p.bindings.map (·.name)).Nodup)
    (cb : Cookbook) (rendering : Rendering) (h : p.render cb = .ok rendering) :
    ∃ groups store, p.records cb = .ok groups ∧
      rendering.records = groups.flatten.length ∧
      List.Forall₂ (fun r f ↦ ArtifactRecord.render r = .ok f) groups.flatten rendering.files ∧
      (rendering.files.map (·.path.components)).Nodup ∧
      p.run cb Store.writer .empty = (.ok {
        bindings := p.bindings.map (·.name)
        records := rendering.records
        files := rendering.files.map (·.path) }, store) ∧
      store.files.length = groups.flatten.length ∧
      ∀ f ∈ rendering.files, store.get? f.path = some f.contents := by
  obtain ⟨-, groups, hgroups, hrecords, hfiles⟩ := render_eq_ok_iff.mp h
  have hpaths := nodup_components_of_render hnames h
  refine ⟨groups, Store.empty.insertAll rendering.files, records_eq_ok_iff.mpr hgroups, hrecords,
    hfiles, hpaths, ?_, ?_, fun f hf ↦ Store.get?_insertAll_of_mem hpaths .empty hf⟩
  · rw [run_of_render_ok Store.writer h, Store.writeAll_writer]
    rfl
  · rw [Store.length_insertAll hpaths fun _ _ ↦ rfl, hfiles.length_eq]
    exact Nat.zero_add _

/-- An ingredient and an enum of one name. -/
def sizeCookbook : Cookbook where
  ingredients := [{ name := "Size" }]
  enums := [⟨"Size", ["small"]⟩]

/-- Twelve files come of two declarations with one name and the four bindings of the tool. -/
theorem run_keeps_every_file_size :
    ∃ rendering groups store,
      (⟨BindingSet.builtin.bindings, .inOrder⟩ : Pipeline Empty).render sizeCookbook
        = .ok rendering ∧
      List.Forall₂ (fun r f ↦ ArtifactRecord.render r = .ok f) (List.flatten groups)
        rendering.files ∧
      (rendering.files.map (·.path.components)).Nodup ∧
      (⟨BindingSet.builtin.bindings, .inOrder⟩ : Pipeline Empty).run sizeCookbook Store.writer
        .empty = (.ok {
            bindings := ["java", "kotlin", "typescript", "python"]
            records := 12
            files := rendering.files.map (·.path) }, store) ∧
      store.files.length = 12 ∧
      ∀ f ∈ rendering.files, store.get? f.path = some f.contents := by
  have hnames : (BindingSet.builtin.bindings.map (·.name)).Nodup := by decide
  have hrender : ∃ rendering, (⟨BindingSet.builtin.bindings, .inOrder⟩ : Pipeline Empty).render
      sizeCookbook = .ok rendering := ⟨_, rfl⟩
  obtain ⟨rendering, hrender⟩ := hrender
  have hcount := records_of_render hrender
  obtain ⟨groups, store, -, hrecords, hfiles, hpaths, hrun, hlength, hread⟩ :=
    run_keeps_every_file _ hnames _ rendering hrender
  rw [hcount] at hrun
  exact ⟨rendering, groups, store, hrender, hfiles, hpaths, hrun,
    hlength.trans (hrecords.symm.trans hcount), hread⟩

end Pipeline

end Cookery
