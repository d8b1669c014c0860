import Cookery.Binding.Set
import Cookery.Gathering
import Cookery.Record.Generate
import Cookery.Render
import Cookery.Validation
import Cookery.Writer

/-!
# The pipeline

Validate a cookbook, map it through every binding, render all records, and only then write: nothing
is written unless everything can be. The bindings run side by side; if several of them fail, it is
left open which one is reported.
-/

namespace Cookery

/-- Why a run of the pipeline fails; `ε` are the errors of the writer. -/
inductive PipelineError (ε : Type) where
  | schema (e : SchemaError)
  | generate (binding : String) (e : SchemaError)
  | render (e : RenderError)
  | write (path : Path) (e : ε)

/-- The message of an error, given those of the writer. -/
def PipelineError.message {ε : Type} (writeMessage : ε → String) : PipelineError ε → String
  | schema e => e.message
  | generate binding e => s!"binding `{binding}`: {e.message}"
  | render e => e.message
  | write path e => s!"failed to write {path.text}: {writeMessage e}"

/-- All files of a run, and the number of records they come from. -/
structure Rendering where
  records : Nat
  files : List RenderedFile

/-- What a run has done. -/
structure RunSummary where
  bindings : List String
  records : Nat
  files : List Path
deriving DecidableEq

/-- Bindings in the order in which their files come, and how their results are gathered. -/
structure Pipeline (ε : Type) where
  bindings : List Binding
  gathering : Gathering (PipelineError ε) (List ArtifactRecord)

namespace Pipeline

variable {σ ε : Type}

/-- The records of all bindings, grouped by binding. -/
def records (p : Pipeline ε) (cb : Cookbook) :
    Except (PipelineError ε) (List (List ArtifactRecord)) :=
  p.gathering.gather (p.bindings.map fun b ↦ (generate b cb).mapError (.generate b.name))

/-- Renders the files of all bindings, without writing any. -/
def render (p : Pipeline ε) (cb : Cookbook) : Except (PipelineError ε) Rendering := do
  cb.validate.mapError .schema
  let records := (← p.records cb).flatten
  let files ← records.mapM fun r ↦ r.render.mapError .render
  return { records := records.length, files }

/-- Writes files in order, up to the first that fails. -/
def writeAll (w : Writer σ ε) (s : σ) : List RenderedFile → Except (PipelineError ε) Unit × σ
  | [] => (.ok (), s)
  | f :: fs =>
    match w.write s f.path f.contents with
    | (.ok (), s) => writeAll w s fs
    | (.error e, s) => (.error (.write f.path e), s)

/-- Renders everything, then writes it. -/
def run (p : Pipeline ε) (cb : Cookbook) (w : Writer σ ε) (s : σ) :
    Except (PipelineError ε) RunSummary × σ :=
  match p.render cb with
  | .error e => (.error e, s)
  | .ok rendering =>
    match writeAll w s rendering.files with
    | (.error e, s) => (.error e, s)
    | (.ok (), s) =>
      (.ok {
        bindings := p.bindings.map (·.name)
        records := rendering.records
        files := rendering.files.map (·.path) }, s)

end Pipeline

end Cookery
