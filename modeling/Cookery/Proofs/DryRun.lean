import Cookery.Command.Run
import Cookery.Proofs.AllOrNothing
import Cookery.Proofs.JsonReadBack

/-!
# Dry runs, real runs and checks

A request to generate can be made as a dry run, which lists files and writes none, and the cookbook
it is about can be checked without it. The three share how they find the cookbook, and the first two
share how they find the bindings and render the files. So a dry run tells what a real run would do,
a real run that fails has written nothing unless it was a write that failed, and what can be
generated can be checked.

## Files that are handed over

As for the pipeline, what is written is read off a log beside the state: `Command.trace` is a
request in a workspace whose writers keep one. Reading does not notice the log and neither does the
outcome, so everything that happens before writing is the same with it, by definition; only the
writing itself needs an argument, and that one is about pipelines. The dry run and the real run need
not gather the results of bindings in the same way, since what is rendered does not depend on it.

## Exit codes

The code of a failure is decided where it happens. Code `2` belongs to one place, a cookbook that is
asked for nowhere, and that place is only reached when the bindings have been found: a request with
neither bindings that exist nor a cookbook ends with code `1`.
-/

namespace Cookery

variable {σ ε : Type}

/-! ## Writers and workspaces -/

namespace Writer

/-- The writer takes whatever it is handed. -/
def NeverRefuses (w : Writer σ ε) : Prop :=
  ∀ s path contents, (w.write s path contents).1 = .ok ()

/-- The writer takes some of the files and refuses the next one. -/
def RefusesOne (w : Writer σ ε) (s : σ) (files : List RenderedFile) : Prop :=
  ∃ before f after t e u, files = before ++ f :: after ∧ w.Accepts s before t ∧
    w.write t f.path f.contents = (.error e, u)

theorem NeverRefuses.not_refusesOne {w : Writer σ ε} (h : w.NeverRefuses) {s : σ}
    {files : List RenderedFile} : ¬w.RefusesOne s files := by
  rintro ⟨before, f, after, t, e, u, -, -, hrefused⟩
  have hok := h t f.path f.contents
  rw [hrefused] at hok
  cases hok

end Writer

/-- The workspace with a log of the files that its writers have been handed, in order. -/
def Workspace.recording (w : Workspace σ ε) : Workspace (σ × List RenderedFile) ε where
  read s := w.read s.1
  writer outDir := (w.writer outDir).recording
  message := w.message
  gathering := w.gathering

/-! ## Bindings by name -/

/-- The names that have bindings can be selected, and the name in an error has none. -/
theorem BindingSet.select_succeedsIff (set : BindingSet) (names : List String) :
    SucceedsIff (set.select names) (∀ name ∈ names, name ∈ set.names) (· ∉ set.names) := by
  refine SucceedsIff.mapM fun name _ ↦ ?_
  cases hget : set.get? name with
  | some b =>
    have hmem : b ∈ set.bindings := List.mem_of_find?_eq_some hget
    have hname : b.name = name := by simpa using List.find?_some hget
    exact List.mem_map.mpr ⟨b, hmem, hname⟩
  | none =>
    have hnot : name ∉ set.names := by
      intro hmem
      obtain ⟨b, hb, hname⟩ := List.mem_map.mp hmem
      exact List.find?_eq_none.mp hget b hb (beq_iff_eq.mpr hname)
    exact ⟨hnot, hnot⟩

/-! ## Loading -/

namespace Cookbook

/-- What it takes to load a cookbook from a file: its notation is given or told by the extension,
the file can be read, the text can be decoded, and the cookbook is valid. -/
def Loads (read : Path → Except ε String) (path : Path) (format : Option Format)
    (cb : Cookbook) : Prop :=
  ∃ known text, (format <|> Format.ofPath? path) = some known ∧ read path = .ok text ∧
    (decodeText known text : Except (LoadError ε) Cookbook) = .ok cb ∧ cb.validate = .ok ()

theorem loadText_eq_ok_iff {format : Format} {text : String} {cb : Cookbook} :
    (loadText format text : Except (LoadError ε) Cookbook) = .ok cb ↔
      (decodeText format text : Except (LoadError ε) Cookbook) = .ok cb ∧ cb.validate = .ok () := by
  constructor
  · intro h
    obtain ⟨decoded, hdecode, h⟩ := bind_eq_ok_iff.mp h
    obtain ⟨hvalid, h⟩ := seq_eq_ok_iff.mp h
    obtain rfl := Except.ok.inj h
    exact ⟨hdecode, mapError_eq_ok_iff.mp hvalid⟩
  · rintro ⟨hdecode, hvalid⟩
    refine bind_eq_ok_iff.mpr ⟨cb, hdecode, seq_eq_ok_iff.mpr ⟨?_, rfl⟩⟩
    exact mapError_eq_ok_iff.mpr hvalid

theorem load_eq_ok_iff {read : Path → Except ε String} {path : Path} {format : Option Format}
    {cb : Cookbook} : load read path format = .ok cb ↔ Loads read path format cb := by
  rw [load, Loads]
  rcases (format <|> Format.ofPath? path) with _ | known
  · constructor
    · intro h
      exact nomatch h
    · rintro ⟨known, text, hknown, -⟩
      exact nomatch hknown
  · constructor
    · intro h
      obtain ⟨text, hread, h⟩ := bind_eq_ok_iff.mp h
      exact ⟨known, text, rfl, mapError_eq_ok_iff.mp hread, loadText_eq_ok_iff.mp h⟩
    · rintro ⟨known, text, hknown, hread, hloads⟩
      obtain rfl := Option.some.inj hknown
      apply bind_eq_ok_iff.mpr
      exact ⟨text, mapError_eq_ok_iff.mpr hread, loadText_eq_ok_iff.mpr hloads⟩

end Cookbook

/-! ## Valid cookbooks in the pipeline -/

namespace Pipeline

variable {p : Pipeline ε} {cb : Cookbook}

theorem render_ne_schema (h : cb.validate = .ok ()) (e : SchemaError) :
    p.render cb ≠ .error (.schema e) := by
  intro hrender
  cases refuses_of_render_eq_error hrender with
  | validation fails => exact nomatch h.symm.trans fails

theorem run_ne_schema (h : cb.validate = .ok ()) (w : Writer σ ε) (s : σ) (e : SchemaError) :
    (p.run cb w s).1 ≠ .error (.schema e) := by
  cases hrender : p.render cb with
  | error d =>
    rw [run_of_render_error w hrender]
    intro heq
    rw [Except.error.inj heq] at hrender
    exact render_ne_schema h e hrender
  | ok rendering =>
    -- The only error left is that of a write.
    rw [run_of_render_ok w hrender, writeAll_eq_recording w s [] rendering.files]
    rcases writeAll_recording w s [] rendering.files with
      ⟨t, -, hlog⟩ | ⟨before, f, after, t, d, u, -, -, -, hlog⟩
    · rw [hlog]
      intro heq
      cases heq
    · rw [hlog]
      intro heq
      cases heq

end Pipeline

namespace Command

/-- The names by which a request selects bindings: its own, or else those of the settings. -/
def selectedNames (r : GenerateRequest) (settings : Settings) : List String :=
  if r.bindings = [] then settings.bindings.getD [] else r.bindings

theorem selectBindings_succeedsIff (r : GenerateRequest) (settings : Settings) :
    SucceedsIff (selectBindings r.bindings settings)
      (∀ name ∈ selectedNames r settings, name ∈ BindingSet.builtin.names)
      (· ∉ BindingSet.builtin.names) := by
  rw [selectBindings, selectedNames]
  by_cases hnone : r.bindings = []
  · rw [if_pos (List.isEmpty_iff.mpr hnone), if_pos hnone]
    cases settings.bindings with
    | none =>
      refine (SucceedsIff.ok _).congr ?_
      simp
    | some names => exact BindingSet.select_succeedsIff _ names
  · rw [if_neg (by rwa [List.isEmpty_iff]), if_neg hnone]
    exact BindingSet.select_succeedsIff _ r.bindings

/-! ## What comes before rendering -/

/-- All that has to be there before files are rendered: bindings, and a cookbook that loads. -/
structure Prepares (w : Workspace σ ε) (settings : Settings) (r : GenerateRequest) (s : σ)
    (p : Pipeline ε) (path : Path) (cb : Cookbook) : Prop where
  selected : selectBindings r.bindings settings = .ok p.bindings
  gathering_eq : p.gathering = w.gathering
  path_eq : schemaPath? r.schema settings = some path
  loaded : Cookbook.Loads (w.read s) path r.format cb

theorem schemaPath?_eq_none_iff {schema : Option Path} {settings : Settings} :
    schemaPath? schema settings = none ↔ schema = none ∧ settings.schema = none := by
  rw [schemaPath?]
  cases schema with
  | none => simp
  | some path => simp

section Preparation

variable {w : Workspace σ ε} {settings : Settings} {r : GenerateRequest} {s : σ} {p : Pipeline ε}
  {path : Path} {cb : Cookbook} {outcome : Outcome}

theorem loadCookbook_eq_ok_iff {schema : Option Path} {format : Option Format} :
    loadCookbook w settings schema format s = .ok (path, cb) ↔
      schemaPath? schema settings = some path ∧ Cookbook.load (w.read s) path format = .ok cb := by
  rw [loadCookbook]
  cases schemaPath? schema settings with
  | none => simp
  | some path' =>
    dsimp only
    cases hload : Cookbook.load (w.read s) path' format with
    | error e =>
      refine ⟨fun h ↦ ?_, fun ⟨hpath, h⟩ ↦ ?_⟩
      · cases h
      · rw [← Option.some.inj hpath, hload] at h
        cases h
    | ok cb' =>
      constructor
      · intro h
        obtain ⟨rfl, rfl⟩ := Prod.mk.inj (Except.ok.inj h)
        exact ⟨rfl, hload⟩
      · rintro ⟨hpath, h⟩
        obtain rfl := Option.some.inj hpath
        rw [hload] at h
        rw [Except.ok.inj h]

theorem code_of_loadCookbook_error {schema : Option Path} {format : Option Format}
    (h : loadCookbook w settings schema format s = .error outcome) :
    schemaPath? schema settings = none ∧ outcome.code = 2 ∨
      schemaPath? schema settings ≠ none ∧ outcome.code = 1 := by
  rw [loadCookbook] at h
  cases hpath : schemaPath? schema settings with
  | none =>
    rw [hpath] at h
    obtain rfl := Except.error.inj h
    exact .inl ⟨rfl, rfl⟩
  | some path =>
    rw [hpath] at h
    dsimp only at h
    cases hload : Cookbook.load (w.read s) path format with
    | ok cb =>
      rw [hload] at h
      cases h
    | error e =>
      rw [hload] at h
      obtain rfl := Except.error.inj h
      exact .inr ⟨Option.some_ne_none path, rfl⟩

theorem prepare_eq_ok_iff :
    prepare w settings r s = .ok (p, path, cb) ↔ Prepares w settings r s p path cb := by
  rw [prepare]
  cases hselect : selectBindings r.bindings settings with
  | error name =>
    refine ⟨fun h ↦ ?_, fun h ↦ ?_⟩
    · cases h
    · rw [h.selected] at hselect
      cases hselect
  | ok selected =>
    constructor
    · intro h
      obtain ⟨⟨path', cb'⟩, hload, h⟩ := bind_eq_ok_iff.mp h
      cases h
      obtain ⟨hpath, hload⟩ := loadCookbook_eq_ok_iff.mp hload
      exact ⟨hselect, rfl, hpath, Cookbook.load_eq_ok_iff.mp hload⟩
    · intro h
      have hbindings : selected = p.bindings := Except.ok.inj (hselect.symm.trans h.selected)
      have hload := Cookbook.load_eq_ok_iff.mpr h.loaded
      refine bind_eq_ok_iff.mpr ⟨(path, cb), loadCookbook_eq_ok_iff.mpr ⟨h.path_eq, hload⟩, ?_⟩
      rw [hbindings, ← h.gathering_eq]
      rfl

/-- Before rendering, code `2` says that the bindings are there and no cookbook is asked for. Any
other failure has code `1`. -/
theorem code_of_prepare_error (h : prepare w settings r s = .error outcome) :
    (outcome.code = 2 ↔
        (∀ name ∈ selectedNames r settings, name ∈ BindingSet.builtin.names) ∧
          schemaPath? r.schema settings = none) ∧
      (outcome.code = 1 ∨ outcome.code = 2) := by
  have hselects := selectBindings_succeedsIff r settings
  rw [prepare] at h
  cases hselect : selectBindings r.bindings settings with
  | error name =>
    rw [hselect] at h hselects
    obtain rfl := Except.error.inj h
    refine ⟨⟨fun hcode ↦ ?_, fun hknown ↦ absurd hknown.1 hselects.1⟩, .inl rfl⟩
    cases hcode
  | ok selected =>
    rw [hselect] at h hselects
    rcases bind_eq_error_iff.mp h with hload | ⟨loaded, -, h⟩
    · rcases code_of_loadCookbook_error hload with ⟨hpath, hcode⟩ | ⟨hpath, hcode⟩
      · exact ⟨⟨fun _ ↦ ⟨hselects, hpath⟩, fun _ ↦ hcode⟩, .inr hcode⟩
      · refine ⟨⟨fun htwo ↦ ?_, fun hknown ↦ absurd hknown.2 hpath⟩, .inl hcode⟩
        rw [hcode] at htwo
        cases htwo
    · cases h

end Preparation

/-! ## Outcomes of the two modes -/

theorem code_runDry_eq_zero_iff {w : Workspace σ ε} {p : Pipeline ε} {path : Path} {cb : Cookbook} :
    (runDry w p path cb).code = 0 ↔ ∃ rendering, p.render cb = .ok rendering := by
  rw [runDry]
  cases p.render cb with
  | ok rendering => exact ⟨fun _ ↦ ⟨rendering, rfl⟩, fun _ ↦ rfl⟩
  | error e =>
    refine ⟨fun h ↦ ?_, fun ⟨_, h⟩ ↦ ?_⟩
    · cases h
    · cases h

theorem code_runDry_eq_zero_or_one {w : Workspace σ ε} {p : Pipeline ε} {path : Path}
    {cb : Cookbook} : (runDry w p path cb).code = 0 ∨ (runDry w p path cb).code = 1 := by
  rw [runDry]
  cases p.render cb with
  | ok rendering => exact .inl rfl
  | error e => exact .inr rfl

/-- A real run, once there is a cookbook. If it cannot be rendered, nothing is handed over. If it
can, all files are handed over, in order, or one of them is refused. -/
theorem runWriting_recording_cases (w : Workspace σ ε) (p : Pipeline ε) (path : Path)
    (cb : Cookbook) (outDir : Path) (s : σ) :
    (∃ e line, p.render cb = .error e ∧
        runWriting w.recording p path cb outDir (s, []) = (.notice 1 line, s, [])) ∨
      ∃ rendering, p.render cb = .ok rendering ∧
        ((∃ line t, runWriting w.recording p path cb outDir (s, [])
            = (.notice 0 line, t, rendering.files)) ∨
          (w.writer outDir).RefusesOne s rendering.files ∧
            ∃ line t, runWriting w.recording p path cb outDir (s, []) = (.notice 1 line, t)) := by
  have hwriter : w.recording.writer outDir = (w.writer outDir).recording := rfl
  rw [runWriting, hwriter]
  cases hrender : p.render cb with
  | error e =>
    rw [Pipeline.run_of_render_error _ hrender]
    exact .inl ⟨e, _, rfl, rfl⟩
  | ok rendering =>
    rw [Pipeline.run_of_render_ok _ hrender]
    refine .inr ⟨rendering, rfl, ?_⟩
    rcases Pipeline.writeAll_recording (w.writer outDir) s [] rendering.files with
      ⟨t, -, hlog⟩ | ⟨before, f, after, t, e, u, hsplit, haccepts, hrefused, hlog⟩
    · rw [hlog]
      exact .inl ⟨_, t, rfl⟩
    · rw [hlog]
      exact .inr ⟨⟨before, f, after, t, e, u, hsplit, haccepts, hrefused⟩, _, _, rfl⟩

/-! ## Requests -/

/-- A request in a workspace with a log: the outcome, the state it leaves, and the files that were
handed to a writer, in order. -/
def trace (w : Workspace σ ε) (settings : Settings) (r : GenerateRequest) (s : σ) :
    Outcome × σ × List RenderedFile :=
  run w.recording settings (.generate r) (s, [])

section Traces

variable {w : Workspace σ ε} {settings : Settings} {r : GenerateRequest} {s : σ} {p : Pipeline ε}
  {path : Path} {cb : Cookbook}

theorem trace_of_prepare_error {outcome : Outcome} (h : prepare w settings r s = .error outcome) :
    trace w settings r s = (outcome, s, []) := by
  have hprepare : prepare w.recording settings r (s, []) = .error outcome := h
  rw [trace, run, runGenerate, hprepare]

/-- There is one notation for files, so it decides nothing. -/
theorem trace_of_prepares (h : Prepares w settings r s p path cb) :
    trace w settings r s = if r.dryRun then (runDry w p path cb, s, [])
      else runWriting w.recording p path cb (r.outDir.getD settings.effectiveOutDir) (s, []) := by
  have hplain : prepare w settings r s = .ok (p, path, cb) := prepare_eq_ok_iff.mpr h
  have hprepare : prepare w.recording settings r (s, []) = .ok (p, path, cb) := hplain
  rw [trace, run, runGenerate, hprepare]
  dsimp only
  cases r.output.getD settings.effectiveFormat with
  | json => rfl

/-- What a request can do: fail in the preparation, with nothing handed over, or go on to one of the
two modes. -/
theorem trace_cases (w : Workspace σ ε) (settings : Settings) (r : GenerateRequest) (s : σ) :
    (∃ outcome, prepare w settings r s = .error outcome ∧
        trace w settings r s = (outcome, s, [])) ∨
      ∃ p path cb, Prepares w settings r s p path cb := by
  cases hprepare : prepare w settings r s with
  | error outcome => exact .inl ⟨outcome, rfl, trace_of_prepare_error hprepare⟩
  | ok prepared =>
    obtain ⟨p, path, cb⟩ := prepared
    exact .inr ⟨p, path, cb, prepare_eq_ok_iff.mp hprepare⟩

/-- A request does not notice the log. -/
theorem run_generate_eq_trace (w : Workspace σ ε) (settings : Settings) (r : GenerateRequest)
    (s : σ) : run w settings (.generate r) s
      = ((trace w settings r s).1, (trace w settings r s).2.1) := by
  rw [run, runGenerate]
  rcases trace_cases w settings r s with ⟨outcome, hprepare, htrace⟩ | ⟨p, path, cb, hprepares⟩
  · rw [hprepare, htrace]
  · rw [prepare_eq_ok_iff.mpr hprepares, trace_of_prepares hprepares]
    dsimp only
    cases r.output.getD settings.effectiveFormat with
    | json =>
      by_cases hdry : r.dryRun
      · rw [if_pos hdry, if_pos hdry]
      · have hwriter (outDir : Path) :
            w.recording.writer outDir = (w.writer outDir).recording := rfl
        rw [if_neg hdry, if_neg hdry, runWriting, runWriting, hwriter,
          Pipeline.run_eq_recording (w.writer _) s []]
        rcases p.run cb (w.writer _).recording (s, []) with ⟨e | summary, t, log⟩
        · rfl
        · rfl

theorem code_trace_eq_zero_or_one (h : Prepares w settings r s p path cb) :
    (trace w settings r s).1.code = 0 ∨ (trace w settings r s).1.code = 1 := by
  rw [trace_of_prepares h]
  by_cases hdry : r.dryRun
  · rw [if_pos hdry]
    exact code_runDry_eq_zero_or_one
  · rw [if_neg hdry]
    rcases runWriting_recording_cases w p path cb (r.outDir.getD settings.effectiveOutDir) s with
      ⟨e, line, -, hrun⟩ | ⟨rendering, -, ⟨line, t, hrun⟩ | ⟨-, line, t, hrun⟩⟩
    · rw [hrun]
      exact .inr rfl
    · rw [hrun]
      exact .inl rfl
    · rw [hrun]
      exact .inr rfl

/-- What succeeds has been prepared. -/
theorem exists_prepares_of_code_eq_zero (h : (trace w settings r s).1.code = 0) :
    ∃ p path cb, Prepares w settings r s p path cb := by
  rcases trace_cases w settings r s with ⟨outcome, hprepare, htrace⟩ | hprepares
  · rw [htrace] at h
    have hcode := (code_of_prepare_error hprepare).2
    dsimp only at h
    omega
  · exact hprepares

theorem code_trace_eq_two_iff :
    (trace w settings r s).1.code = 2 ↔
      (∀ name ∈ selectedNames r settings, name ∈ BindingSet.builtin.names) ∧ r.schema = none ∧
        settings.schema = none := by
  rw [← schemaPath?_eq_none_iff]
  rcases trace_cases w settings r s with ⟨outcome, hprepare, htrace⟩ | ⟨p, path, cb, hprepares⟩
  · rw [htrace]
    exact (code_of_prepare_error hprepare).1
  · refine ⟨fun hcode ↦ ?_, fun ⟨_, hnone⟩ ↦ ?_⟩
    · have hcases := code_trace_eq_zero_or_one hprepares
      omega
    · rw [hprepares.path_eq] at hnone
      cases hnone

theorem code_trace_le_two : (trace w settings r s).1.code ≤ 2 := by
  rcases trace_cases w settings r s with ⟨outcome, hprepare, htrace⟩ | ⟨p, path, cb, hprepares⟩
  · rw [htrace]
    have hcode := (code_of_prepare_error hprepare).2
    dsimp only
    omega
  · have hcode := code_trace_eq_zero_or_one hprepares
    omega

/-- The cookbook of a request that has been prepared can be checked. -/
theorem code_runCheck_eq_zero (h : Prepares w settings r s p path cb) :
    (runCheck w settings r.schema r.format s).code = 0 := by
  have hload := Cookbook.load_eq_ok_iff.mpr h.loaded
  rw [runCheck, loadCookbook_eq_ok_iff.mpr ⟨h.path_eq, hload⟩]
  rfl

/-! ### Dry runs -/

theorem trace_snd_of_dryRun (hdry : r.dryRun = true) : (trace w settings r s).2 = (s, []) := by
  rcases trace_cases w settings r s with ⟨outcome, -, htrace⟩ | ⟨p, path, cb, hprepares⟩
  · rw [htrace]
  · rw [trace_of_prepares hprepares, if_pos hdry]

theorem code_trace_eq_zero_iff_of_dryRun (hdry : r.dryRun = true) :
    (trace w settings r s).1.code = 0 ↔ ∃ p path cb rendering,
      Prepares w settings r s p path cb ∧ p.render cb = .ok rendering := by
  constructor
  · intro hcode
    obtain ⟨p, path, cb, hprepares⟩ := exists_prepares_of_code_eq_zero hcode
    rw [trace_of_prepares hprepares, if_pos hdry] at hcode
    obtain ⟨rendering, hrender⟩ := code_runDry_eq_zero_iff.mp hcode
    exact ⟨p, path, cb, rendering, hprepares, hrender⟩
  · rintro ⟨p, path, cb, rendering, hprepares, hrender⟩
    rw [trace_of_prepares hprepares, if_pos hdry]
    exact code_runDry_eq_zero_iff.mpr ⟨rendering, hrender⟩

/-- What a dry run lists is what a real run hands to writers that take it. -/
theorem trace_dryRun_eq_lines (hdry : r.dryRun = true) (hcode : (trace w settings r s).1.code = 0)
    {writer : Path → Writer σ ε} (htakes : ∀ outDir, (writer outDir).NeverRefuses)
    (gathering : Gathering (PipelineError ε) (List ArtifactRecord)) :
    (trace { w with writer, gathering } settings { r with dryRun := false } s).1.code = 0 ∧
      (trace w settings r s).1 = .lines
        ((trace { w with writer, gathering } settings { r with dryRun := false } s).2.2.map
          (·.path.text)) := by
  obtain ⟨p, path, cb, rendering, hprepares, hrender⟩ :=
    (code_trace_eq_zero_iff_of_dryRun hdry).mp hcode
  -- Writers and mode play no part in the preparation, and the gathering none in what is rendered.
  have hreal : Prepares { w with writer, gathering } settings { r with dryRun := false } s
      { p with gathering } path cb :=
    ⟨hprepares.selected, rfl, hprepares.path_eq, hprepares.loaded⟩
  have hrender' : ({ p with gathering } : Pipeline ε).render cb = .ok rendering :=
    Pipeline.render_with_gathering hrender gathering
  rw [trace_of_prepares hprepares, if_pos hdry, trace_of_prepares hreal, if_neg Bool.false_ne_true,
    runDry, hrender]
  rcases runWriting_recording_cases { w with writer, gathering } { p with gathering } path cb
      (r.outDir.getD settings.effectiveOutDir) s with
    ⟨e, line, herror, -⟩ | ⟨rendering', hok, ⟨line, t, hrun⟩ | ⟨hrefuses, -⟩⟩
  · exact nomatch hrender'.symm.trans herror
  · obtain rfl := Except.ok.inj (hrender'.symm.trans hok)
    rw [hrun]
    exact ⟨rfl, rfl⟩
  · exact absurd hrefuses (htakes _).not_refusesOne

/-! ### Real runs -/

/-- A real run that fails has handed nothing over, or it is a write that has failed. -/
theorem trace_snd_or_refusesOne (hreal : r.dryRun = false)
    (hcode : (trace w settings r s).1.code ≠ 0) :
    (trace w settings r s).2 = (s, []) ∨ ∃ p path cb rendering,
      Prepares w settings r s p path cb ∧ p.render cb = .ok rendering ∧
        (w.writer (r.outDir.getD settings.effectiveOutDir)).RefusesOne s rendering.files := by
  rcases trace_cases w settings r s with ⟨outcome, -, htrace⟩ | ⟨p, path, cb, hprepares⟩
  · rw [htrace]
    exact .inl rfl
  · rw [trace_of_prepares hprepares, if_neg (Bool.eq_false_iff.mp hreal)] at hcode ⊢
    rcases runWriting_recording_cases w p path cb (r.outDir.getD settings.effectiveOutDir) s with
      ⟨e, line, -, hrun⟩ | ⟨rendering, hrender, ⟨line, t, hrun⟩ | ⟨hrefuses, -⟩⟩
    · rw [hrun]
      exact .inl rfl
    · rw [hrun] at hcode
      exact absurd rfl hcode
    · exact .inr ⟨p, path, cb, rendering, hprepares, hrender, hrefuses⟩

end Traces

/-- **Three commands, one story.** A request to generate files, in any workspace and with any
settings; the log shows what its writers are handed and does not change it. As a dry run it hands
nothing over, succeeds exactly when there are bindings and a cookbook and the files can be rendered,
and lists the files that a real run, with any way to gather results, hands to writers which never
refuse; and that one succeeds. A real run that fails has handed nothing over, unless it is a write
that has failed. A cookbook that has loaded is not refused by validation again. Code `2` says that
the bindings exist and no cookbook is asked for; every other failure has code `1`. And a check
succeeds whenever the request does. -/
theorem generate_faithful (w : Workspace σ ε) (settings : Settings) (r : GenerateRequest) (s : σ) :
    run w settings (.generate r) s = ((trace w settings r s).1, (trace w settings r s).2.1) ∧
      (r.dryRun = true →
        (trace w settings r s).2 = (s, []) ∧
        ((trace w settings r s).1.code = 0 ↔ ∃ p path cb rendering,
          Prepares w settings r s p path cb ∧ p.render cb = .ok rendering) ∧
        ((trace w settings r s).1.code = 0 → ∀ (writer : Path → Writer σ ε) gathering,
          (∀ outDir, (writer outDir).NeverRefuses) →
            (trace { w with writer, gathering } settings { r with dryRun := false } s).1.code = 0 ∧
              (trace w settings r s).1 = .lines
                ((trace { w with writer, gathering } settings { r with dryRun := false } s).2.2.map
                  (·.path.text)))) ∧
      (r.dryRun = false → (trace w settings r s).1.code ≠ 0 →
        (trace w settings r s).2 = (s, []) ∨ ∃ p path cb rendering,
          Prepares w settings r s p path cb ∧ p.render cb = .ok rendering ∧
            (w.writer (r.outDir.getD settings.effectiveOutDir)).RefusesOne s rendering.files) ∧
      (∀ path cb, Cookbook.load (w.read s) path r.format = .ok cb → ∀ (p : Pipeline ε) e,
        p.render cb ≠ .error (.schema e) ∧
          ∀ outDir t, (p.run cb (w.writer outDir) t).1 ≠ .error (.schema e)) ∧
      ((trace w settings r s).1.code = 2 ↔
        (∀ name ∈ selectedNames r settings, name ∈ BindingSet.builtin.names) ∧ r.schema = none ∧
          settings.schema = none) ∧
      ((trace w settings r s).1.code ≠ 0 → (trace w settings r s).1.code ≠ 2 →
        (trace w settings r s).1.code = 1) ∧
      ((trace w settings r s).1.code = 0 →
        (run w settings (.check r.schema r.format) s).1.code = 0) := by
  refine ⟨run_generate_eq_trace w settings r s, fun hdry ↦ ⟨trace_snd_of_dryRun hdry,
    code_trace_eq_zero_iff_of_dryRun hdry, fun hcode writer gathering htakes ↦ ?_⟩, ?_, ?_,
    code_trace_eq_two_iff, ?_, ?_⟩
  · exact trace_dryRun_eq_lines hdry hcode htakes gathering
  · exact trace_snd_or_refusesOne
  · intro path cb hload p e
    obtain ⟨-, -, -, -, -, hvalid⟩ := Cookbook.load_eq_ok_iff.mp hload
    exact ⟨Pipeline.render_ne_schema hvalid e, fun outDir t ↦ Pipeline.run_ne_schema hvalid _ t e⟩
  · intro hzero htwo
    have hle : (trace w settings r s).1.code ≤ 2 := code_trace_le_two
    omega
  · intro hcode
    obtain ⟨p, path, cb, hprepares⟩ := exists_prepares_of_code_eq_zero hcode
    exact code_runCheck_eq_zero hprepares

/-- An enum, and an ingredient that may have one of its values. -/
def fryCookbook : Cookbook where
  ingredients := [{ name := "Fry", optionals := [.simple "heat" "Heat" false] }]
  enums := [⟨"Heat", ["LOW", "HIGH"]⟩]

/-- A workspace with this cookbook in every file, and with writers that take everything. -/
def fryWorkspace : Workspace Store Empty where
  read _ _ := .ok (fryCookbook.toJson.pretty ++ "\n")
  writer _ := Store.writer
  message := nofun
  gathering := .inOrder

theorem loads_fryCookbook (s : Store) :
    Cookbook.Loads (fryWorkspace.read s) ⟨"fry.json"⟩ none fryCookbook := by
  have htextual : Json.Textual 128 fryCookbook.toJson := by
    simp [Cookbook.toJson, Cookbook.toJsonWith, fryCookbook, Ingredient.toJsonWith, EnumDef.toJson,
      OptionalField.toJson, OptionalField.simple, Json.field?, Json.strings]
  refine ⟨.json, _, rfl, rfl, ?_, rfl⟩
  rw [Cookbook.decodeText, htextual.parse?_pretty]
  rfl

/-- Settings name two bindings and the file. The dry run lists their files, a real run writes them,
however results are gathered, and the check passes. Without a file the code is `2`; with a binding
that does not exist, or a text that is no JSON, it is `1`. -/
theorem generate_faithful_fry :
    let settings : Settings := { bindings := some ["java", "python"], schema := some ⟨"fry.json"⟩ }
    let r : GenerateRequest := { dryRun := true }
    (trace fryWorkspace settings r .empty).2 = (.empty, []) ∧
      (∀ gathering, (trace fryWorkspace settings r .empty).1 = .lines
        ((trace { fryWorkspace with gathering } settings { r with dryRun := false }
          .empty).2.2.map (·.path.text))) ∧
      (trace fryWorkspace settings r .empty).1 = .lines ["java/ingredients/Fry.json",
        "java/enums/Heat.json", "java/index.json", "python/ingredients/Fry.json",
        "python/enums/Heat.json", "python/index.json"] ∧
      (run fryWorkspace settings (.check r.schema r.format) .empty).1.code = 0 ∧
      (trace fryWorkspace { settings with schema := none } r .empty).1.code = 2 ∧
      (trace fryWorkspace settings { r with bindings := ["java", "cobol"] } .empty).1.code = 1 ∧
      (trace { fryWorkspace with read := fun _ _ ↦ .ok "[" } settings r .empty).1.code = 1 := by
  intro settings r
  have hprepares : Prepares fryWorkspace settings r .empty ⟨[.java, .python], .inOrder⟩
      ⟨"fry.json"⟩ fryCookbook :=
    ⟨rfl, rfl, rfl, loads_fryCookbook .empty⟩
  have hrender : ∃ rendering : Rendering,
      (⟨[.java, .python], .inOrder⟩ : Pipeline Empty).render fryCookbook = .ok rendering ∧
        rendering.files.map (·.path.text) = ["java/ingredients/Fry.json", "java/enums/Heat.json",
          "java/index.json", "python/ingredients/Fry.json", "python/enums/Heat.json",
          "python/index.json"] := ⟨_, rfl, rfl⟩
  obtain ⟨rendering, hrender, hpaths⟩ := hrender
  have hfaithful := generate_faithful fryWorkspace settings r .empty
  obtain ⟨hstate, hsucceeds, hlists⟩ := hfaithful.2.1 rfl
  have hcode := hsucceeds.mpr ⟨_, _, _, rendering, hprepares, hrender⟩
  have htakes : ∀ outDir, (fryWorkspace.writer outDir).NeverRefuses := fun _ _ _ _ ↦ rfl
  refine ⟨hstate, fun gathering ↦ ?_, ?_, hfaithful.2.2.2.2.2.2 hcode, ?_, ?_, ?_⟩
  · dsimp only
    exact (hlists hcode fryWorkspace.writer gathering htakes).2
  · rw [trace_of_prepares hprepares, if_pos rfl, runDry, hrender, ← hpaths]
  · have hknown : ∀ name ∈ ["java", "python"], name ∈ BindingSet.builtin.names := by decide
    exact (generate_faithful fryWorkspace { settings with schema := none } r
      .empty).2.2.2.2.1.mpr ⟨hknown, rfl, rfl⟩
  · exact (generate_faithful fryWorkspace settings { r with bindings := ["java", "cobol"] }
      .empty).2.2.2.2.2.1 nofun nofun
  · exact (generate_faithful { fryWorkspace with read := fun _ _ ↦ .ok "[" } settings r
      .empty).2.2.2.2.2.1 nofun nofun

end Command

end Cookery
