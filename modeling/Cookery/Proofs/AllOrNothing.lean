import Cookery.Pipeline
import Cookery.Proofs.Assembly

/-!
# Everything is rendered before anything is written

A run of the pipeline validates, maps the cookbook through every binding and renders every record,
and only then turns to the writer. So there are two kinds of runs. In the first some stage refuses:
the run ends with the error of that stage, and the writer is never called. In the second all files
are there, and the writer gets them one by one until it has all or refuses one.

Bindings run side by side. If several of them fail, any of their errors may be the one that is
reported, so what is said of a run holds for every way to gather results.

## Calls as data

The pipeline only sees a writer through its answers, so "the writer is never called" says nothing
about its state: a call may leave a state as it was. Calls are made visible by a log beside the
state. `Writer.recording` answers as the writer does and notes each file it is handed, also one that
is refused; `Pipeline.run_eq_recording` says that a run does not notice the log, so what the log
says of a run with it holds of every run.
-/

namespace Cookery

variable {σ ε : Type}

/-! ## Writers and their calls -/

namespace Writer

/-- The writer with a log of the files it has been handed, in order. -/
def recording (w : Writer σ ε) : Writer (σ × List RenderedFile) ε where
  write s path contents :=
    ((w.write s.1 path contents).1, (w.write s.1 path contents).2, s.2 ++ [⟨path, contents⟩])

/-- From one state to another, the writer takes all of these files. -/
inductive Accepts (w : Writer σ ε) : σ → List RenderedFile → σ → Prop
  | nil (s : σ) : Accepts w s [] s
  | cons {s t u : σ} {f : RenderedFile} {fs : List RenderedFile}
      (first : w.write s f.path f.contents = (.ok (), t)) (rest : Accepts w t fs u) :
      Accepts w s (f :: fs) u

end Writer

namespace Pipeline

section Writing

variable (w : Writer σ ε)

/-- One write: the loop goes on where the writer accepts and stops where it refuses, and the log
grows by the file in both cases. -/
theorem writeAll_recording_cons (s : σ) (log : List RenderedFile) (f : RenderedFile)
    (fs : List RenderedFile) :
    (∀ t, w.write s f.path f.contents = (.ok (), t) →
        writeAll w.recording (s, log) (f :: fs) = writeAll w.recording (t, log ++ [f]) fs) ∧
      ∀ e t, w.write s f.path f.contents = (.error e, t) →
        writeAll w.recording (s, log) (f :: fs) = (.error (.write f.path e), t, log ++ [f]) := by
  constructor
  · intro t h
    rw [writeAll, Writer.recording]
    dsimp only
    rw [h]
  · intro e t h
    rw [writeAll, Writer.recording]
    dsimp only
    rw [h]

/-- A list of files is accepted as a whole, or there is a first file that is refused. The log holds
what was handed over: all files, or those up to the refused one. -/
theorem writeAll_recording (s : σ) (log files : List RenderedFile) :
    (∃ t, w.Accepts s files t ∧
        writeAll w.recording (s, log) files = (.ok (), t, log ++ files)) ∨
      ∃ before f after t e u, files = before ++ f :: after ∧ w.Accepts s before t ∧
        w.write t f.path f.contents = (.error e, u) ∧
        writeAll w.recording (s, log) files
          = (.error (.write f.path e), u, log ++ (before ++ [f])) := by
  induction files generalizing s log with
  | nil =>
    refine .inl ⟨s, .nil s, ?_⟩
    rw [writeAll, List.append_nil]
  | cons f fs ih =>
    obtain ⟨hok, herror⟩ := writeAll_recording_cons w s log f fs
    rcases h : w.write s f.path f.contents with ⟨e | ⟨⟩, t⟩
    · exact .inr ⟨[], f, fs, s, e, t, rfl, .nil s, h, herror e t h⟩
    · rw [hok t h]
      rcases ih t (log ++ [f]) with ⟨u, haccepts, hlog⟩ | ⟨before, g, after, u, e, v, rfl, haccepts,
        hrefused, hlog⟩
      · refine .inl ⟨u, .cons h haccepts, ?_⟩
        rw [hlog, List.append_assoc, List.singleton_append]
      · refine .inr ⟨f :: before, g, after, u, e, v, rfl, .cons h haccepts, hrefused, ?_⟩
        rw [hlog, List.append_assoc, List.singleton_append, List.cons_append]

/-- The loop does not notice the log. -/
theorem writeAll_eq_recording (s : σ) (log files : List RenderedFile) :
    writeAll w s files = ((writeAll w.recording (s, log) files).1,
      (writeAll w.recording (s, log) files).2.1) := by
  induction files generalizing s log with
  | nil => rfl
  | cons f fs ih =>
    obtain ⟨hok, herror⟩ := writeAll_recording_cons w s log f fs
    rw [writeAll]
    rcases h : w.write s f.path f.contents with ⟨e | ⟨⟩, t⟩
    · rw [herror e t h]
    · rw [hok t h, ← ih t (log ++ [f])]

end Writing

/-! ## The stages before writing -/

/-- A stage refuses the cookbook, the earlier stages having passed it. Bindings run side by side, so
any of them that fails may be the one that is reported. Records are taken in order, and the error is
that of the first which fails. -/
inductive Refuses (p : Pipeline ε) (cb : Cookbook) : PipelineError ε → Prop
  | validation {e : SchemaError} (fails : cb.validate = .error e) : Refuses p cb (.schema e)
  | generation {b : Binding} {e : SchemaError} (valid : cb.validate = .ok ())
      (mem : b ∈ p.bindings) (fails : Cookery.generate b cb = .error e) :
      Refuses p cb (.generate b.name e)
  | rendering {groups : List (List ArtifactRecord)} {before after : List ArtifactRecord}
      {r : ArtifactRecord} {e : RenderError} (valid : cb.validate = .ok ())
      (generated : List.Forall₂ (fun b records ↦ Cookery.generate b cb = .ok records) p.bindings
        groups)
      (split : groups.flatten = before ++ r :: after)
      (earlier : ∀ q ∈ before, ∃ f, q.render = .ok f) (fails : r.render = .error e) :
      Refuses p cb (.render e)

variable {p : Pipeline ε} {cb : Cookbook}

theorem records_eq_ok_iff {groups : List (List ArtifactRecord)} :
    p.records cb = .ok groups ↔
      List.Forall₂ (fun b records ↦ Cookery.generate b cb = .ok records) p.bindings groups := by
  rw [records, Gathering.gather_eq_ok_iff, ← List.forall₂_eq_eq_eq, List.forall₂_map_left_iff,
    List.forall₂_map_right_iff]
  simp only [mapError_eq_ok_iff]

/-- The error that is reported is that of a binding, not necessarily the first that fails. -/
theorem exists_of_records_eq_error {e : PipelineError ε} (h : p.records cb = .error e) :
    ∃ b ∈ p.bindings, ∃ d, Cookery.generate b cb = .error d ∧ e = .generate b.name d := by
  obtain ⟨b, hb, hfails⟩ := List.mem_map.mp (p.gathering.error_mem_of_gather h)
  obtain ⟨d, hd, rfl⟩ := mapError_eq_error_iff.mp hfails
  exact ⟨b, hb, d, hd, rfl⟩

/-- Rendering goes through the records of all bindings in order. -/
theorem render_eq_ok_iff {rendering : Rendering} :
    p.render cb = .ok rendering ↔ cb.validate = .ok () ∧ ∃ groups,
      List.Forall₂ (fun b records ↦ Cookery.generate b cb = .ok records) p.bindings groups ∧
      rendering.records = groups.flatten.length ∧
      List.Forall₂ (fun r f ↦ ArtifactRecord.render r = .ok f) groups.flatten rendering.files := by
  have hrenders {records : List ArtifactRecord} {files : List RenderedFile} :
      (records.mapM fun r ↦ r.render.mapError PipelineError.render) =
          (.ok files : Except (PipelineError ε) _) ↔
        List.Forall₂ (fun r f ↦ ArtifactRecord.render r = .ok f) records files :=
    mapM_eq_ok_iff_forall₂ fun _ _ ↦ mapError_eq_ok_iff
  constructor
  · intro h
    obtain ⟨hvalid, h⟩ := seq_eq_ok_iff.mp h
    obtain ⟨groups, hgroups, h⟩ := bind_eq_ok_iff.mp h
    obtain ⟨files, hfiles, h⟩ := bind_eq_ok_iff.mp h
    obtain rfl := Except.ok.inj h
    exact ⟨mapError_eq_ok_iff.mp hvalid, groups, records_eq_ok_iff.mp hgroups, rfl,
      hrenders.mp hfiles⟩
  · rintro ⟨hvalid, groups, hgroups, hrecords, hfiles⟩
    apply seq_eq_ok_iff.mpr
    refine ⟨mapError_eq_ok_iff.mpr hvalid, bind_eq_ok_iff.mpr ⟨groups, ?_, ?_⟩⟩
    · exact records_eq_ok_iff.mpr hgroups
    · refine bind_eq_ok_iff.mpr ⟨rendering.files, hrenders.mpr hfiles, ?_⟩
      rw [← hrecords]
      rfl

/-- What is rendered does not depend on the gathering. -/
theorem render_with_gathering {rendering : Rendering} (h : p.render cb = .ok rendering)
    (gathering : Gathering (PipelineError ε) (List ArtifactRecord)) :
    ({ p with gathering } : Pipeline ε).render cb = .ok rendering := by
  have hrenders := render_eq_ok_iff.mp h
  exact render_eq_ok_iff.mpr hrenders

/-- Rendering fails only with the refusal of a stage. -/
theorem refuses_of_render_eq_error {e : PipelineError ε} (h : p.render cb = .error e) :
    p.Refuses cb e := by
  rcases bind_eq_error_iff.mp h with hinvalid | ⟨⟨⟩, hvalid, h⟩
  · obtain ⟨d, hd, rfl⟩ := mapError_eq_error_iff.mp hinvalid
    exact .validation hd
  · have hvalid := mapError_eq_ok_iff.mp hvalid
    rcases bind_eq_error_iff.mp h with hgenerate | ⟨groups, hgroups, h⟩
    · obtain ⟨b, hb, d, hd, rfl⟩ := exists_of_records_eq_error hgenerate
      exact .generation hvalid hb hd
    · rcases bind_eq_error_iff.mp h with hrender | ⟨files, -, h⟩
      · obtain ⟨before, r, after, hsplit, hbefore, hr⟩ := mapM_eq_error_iff.mp hrender
        obtain ⟨d, hd, rfl⟩ := mapError_eq_error_iff.mp hr
        refine .rendering hvalid (records_eq_ok_iff.mp hgroups) hsplit (fun q hq ↦ ?_) hd
        obtain ⟨f, hf⟩ := hbefore q hq
        exact ⟨f, mapError_eq_ok_iff.mp hf⟩
      · exact nomatch h

/-- Where a stage refuses, nothing is rendered. -/
theorem render_ne_ok_of_refuses {e : PipelineError ε} (h : p.Refuses cb e) (rendering : Rendering) :
    p.render cb ≠ .ok rendering := by
  intro hrender
  obtain ⟨hvalid, groups, hgroups, -, hfiles⟩ := render_eq_ok_iff.mp hrender
  cases h with
  | validation fails => exact nomatch hvalid.symm.trans fails
  | generation _ mem fails =>
    obtain ⟨records, -, hrecords⟩ := (exists_mem_of_forall₂ hgroups).1 _ mem
    exact nomatch hrecords.symm.trans fails
  | rendering _ generated split _ fails =>
    -- The records are those of the rendering, and each of them has a file.
    have hsame := records_eq_ok_iff.mpr generated
    obtain rfl := Except.ok.inj (hsame.symm.trans (records_eq_ok_iff.mpr hgroups))
    rw [split] at hfiles
    obtain ⟨f, -, hf⟩ := (exists_mem_of_forall₂ hfiles).1 _
      (List.mem_append_right _ List.mem_cons_self)
    exact nomatch hf.symm.trans fails

theorem exists_render_eq_error {e : PipelineError ε} (h : p.Refuses cb e) :
    ∃ d, p.render cb = .error d := by
  cases hrender : p.render cb with
  | error d => exact ⟨d, rfl⟩
  | ok rendering => exact absurd hrender (render_ne_ok_of_refuses h rendering)

/-- Every binding makes a record of each ingredient and each enum, and an index. -/
theorem length_flatten_of_generated {bindings : List Binding} {groups : List (List ArtifactRecord)}
    (h : List.Forall₂ (fun b records ↦ Cookery.generate b cb = .ok records) bindings groups) :
    groups.flatten.length
      = bindings.length * (cb.ingredients.length + cb.enums.length + 1) := by
  induction h with
  | nil => rw [List.flatten_nil, List.length_nil, List.length_nil, Nat.zero_mul]
  | cons hb _ ih =>
    rw [List.flatten_cons, List.length_append, length_of_generate hb, ih, List.length_cons,
      Nat.succ_mul, Nat.add_comm]

theorem records_of_render {rendering : Rendering} (h : p.render cb = .ok rendering) :
    rendering.records = p.bindings.length * (cb.ingredients.length + cb.enums.length + 1) := by
  obtain ⟨-, groups, hgroups, hrecords, -⟩ := render_eq_ok_iff.mp h
  rw [hrecords]
  exact length_flatten_of_generated hgroups

/-! ## Runs -/

variable (w : Writer σ ε)

theorem run_of_render_error {e : PipelineError ε} (h : p.render cb = .error e) (s : σ) :
    p.run cb w s = (.error e, s) := by
  rw [run, h]

theorem run_of_render_ok {rendering : Rendering} (h : p.render cb = .ok rendering) (s : σ) :
    p.run cb w s = ((writeAll w s rendering.files).1.map fun _ ↦ {
        bindings := p.bindings.map (·.name)
        records := rendering.records
        files := rendering.files.map (·.path) }, (writeAll w s rendering.files).2) := by
  rw [run, h]
  dsimp only
  rcases writeAll w s rendering.files with ⟨e | ⟨⟩, t⟩
  · rfl
  · rfl

/-- A run does not notice the log. -/
theorem run_eq_recording (s : σ) (log : List RenderedFile) :
    p.run cb w s = ((p.run cb w.recording (s, log)).1, (p.run cb w.recording (s, log)).2.1) := by
  cases h : p.render cb with
  | error e => rw [run_of_render_error w h, run_of_render_error w.recording h]
  | ok rendering =>
    rw [run_of_render_ok w h, run_of_render_ok w.recording h,
      writeAll_eq_recording w s log rendering.files]

/-- **All or nothing, up to writing.** The log beside the state shows what the writer is handed, and
does not change the run. If a stage refuses, the run ends with the error of a refusal and nothing
has been handed over; where several bindings fail, it is the error of one of them. If none refuses,
there is a rendering, with a record for each ingredient, each enum and the index in each binding.
Then either the writer accepts all its files: they have been handed over in order, and the summary
lists them. Or it refuses one: the files up to that one have been handed over, and the run ends with
its path. -/
theorem run_all_or_nothing (p : Pipeline ε) (cb : Cookbook) (w : Writer σ ε) (s : σ) :
    p.run cb w s = ((p.run cb w.recording (s, [])).1, (p.run cb w.recording (s, [])).2.1) ∧
      ((∃ e, p.Refuses cb e) →
        ∃ e, p.Refuses cb e ∧ p.run cb w.recording (s, []) = (.error e, s, [])) ∧
      ((∀ e, ¬p.Refuses cb e) → ∃ rendering : Rendering,
        p.render cb = .ok rendering ∧
        rendering.records = p.bindings.length * (cb.ingredients.length + cb.enums.length + 1) ∧
        ((∃ t, w.Accepts s rendering.files t ∧
            p.run cb w.recording (s, []) = (.ok {
              bindings := p.bindings.map (·.name)
              records := rendering.records
              files := rendering.files.map (·.path) }, t, rendering.files)) ∨
          ∃ before f after t e u, rendering.files = before ++ f :: after ∧
            w.Accepts s before t ∧ w.write t f.path f.contents = (.error e, u) ∧
            p.run cb w.recording (s, []) = (.error (.write f.path e), u, before ++ [f]))) := by
  refine ⟨run_eq_recording w s [], ?_, ?_⟩
  · rintro ⟨e, he⟩
    obtain ⟨d, hd⟩ := exists_render_eq_error he
    exact ⟨d, refuses_of_render_eq_error hd, run_of_render_error w.recording hd (s, [])⟩
  · intro hpasses
    cases h : p.render cb with
    | error e => exact absurd (refuses_of_render_eq_error h) (hpasses e)
    | ok rendering =>
      refine ⟨rendering, rfl, records_of_render h, ?_⟩
      rw [run_of_render_ok w.recording h]
      rcases writeAll_recording w s [] rendering.files with ⟨t, haccepts, hlog⟩ |
        ⟨before, f, after, t, e, u, hsplit, haccepts, hrefused, hlog⟩
      · refine .inl ⟨t, haccepts, ?_⟩
        rw [hlog]
        rfl
      · refine .inr ⟨before, f, after, t, e, u, hsplit, haccepts, hrefused, ?_⟩
        rw [hlog]
        rfl

/-- An enum with two members that are spelled alike. -/
def alikeSizes : Cookbook where
  enums := [⟨"Size", ["x-large", "x_large"]⟩]

/-- Members that are spelled alike stop the run before the store is touched, with the error of one
of the two bindings, however their results are gathered. With distinct members the store is handed
the enum and the index. -/
theorem run_all_or_nothing_kotlin :
    (∀ gathering, ∃ b ∈ [Binding.kotlin, .java],
        (⟨[.kotlin, .java], gathering⟩ : Pipeline Empty).run alikeSizes Store.writer.recording
            (.empty, [])
          = (.error (.generate b.name (.duplicateName .enumMember "x_large" (some "Size"))), .empty,
              [])) ∧
      ∃ rendering t, (⟨[.kotlin], .inOrder⟩ : Pipeline Empty).run
          { enums := [⟨"Size", ["small", "large"]⟩] } Store.writer.recording (.empty, [])
        = (.ok { bindings := ["kotlin"], records := 2, files := rendering.map (·.path) }, t,
            rendering) := by
  constructor
  · intro gathering
    have hclash : ∀ b ∈ [Binding.kotlin, .java], Cookery.generate b alikeSizes
        = .error (.duplicateName .enumMember "x_large" (some "Size")) := by
      rw [List.forall_mem_cons, List.forall_mem_singleton]
      exact ⟨rfl, rfl⟩
    have hmem : Binding.kotlin ∈ [Binding.kotlin, .java] := List.mem_cons_self
    obtain ⟨e, hrefuses, hrun⟩ :=
      (run_all_or_nothing ⟨_, gathering⟩ alikeSizes Store.writer .empty).2.1
        ⟨_, .generation rfl hmem (hclash _ hmem)⟩
    rcases hrefuses with hinvalid | ⟨-, hb, hfails⟩ | ⟨-, hgenerated, -⟩
    · exact nomatch hinvalid
    · rw [hclash _ hb] at hfails
      cases hfails
      exact ⟨_, hb, hrun⟩
    · obtain ⟨records, -, hrecords⟩ := (exists_mem_of_forall₂ hgenerated).1 _ hmem
      rw [hclash _ hmem] at hrecords
      cases hrecords
  · have hrender : ∃ rendering, (⟨[.kotlin], .inOrder⟩ : Pipeline Empty).render
        { enums := [⟨"Size", ["small", "large"]⟩] } = .ok rendering := ⟨_, rfl⟩
    obtain ⟨rendering, hrender⟩ := hrender
    obtain ⟨rendering, -, hrecords, ⟨t, -, hrun⟩ | ⟨-, -, -, -, e, -⟩⟩ :=
      (run_all_or_nothing _ _ Store.writer .empty).2.2 fun e he ↦
        render_ne_ok_of_refuses he rendering hrender
    · rw [hrecords] at hrun
      exact ⟨rendering.files, t, hrun⟩
    · exact e.elim

end Pipeline

end Cookery
