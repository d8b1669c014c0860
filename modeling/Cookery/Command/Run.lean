import Cookery.Command.Basic
import Cookery.Pipeline

/-!
# Running commands

The bindings of a request are looked up before its cookbook is loaded, and a dry run stops where
writing would begin.
-/

namespace Cookery

namespace Command

variable {σ ε : Type}

/-- The cookbook file that is asked for, or else the one of the settings. -/
def schemaPath? (schema : Option Path) (settings : Settings) : Option Path :=
  schema <|> settings.schema

/-- Loads the cookbook of a command, or tells the user why not. -/
def loadCookbook (w : Workspace σ ε) (settings : Settings) (schema : Option Path)
    (format : Option Format) (s : σ) : Except Outcome (Path × Cookbook) :=
  match schemaPath? schema settings with
  | none =>
    .error (.notice 2 "No schema given. Pass a path or set [schema] path in .sous/config.toml")
  | some path =>
    match Cookbook.load (w.read s) path format with
    | .ok cb => .ok (path, cb)
    | .error e => .error (.notice 1 s!"{path.text}: {e.message w.message}")

/-- A text filled up with blanks to twelve characters. -/
def column (s : String) : String :=
  s.pushn ' ' (12 - s.length)

/-! ## The commands that write nothing -/

def runCheck (w : Workspace σ ε) (settings : Settings) (schema : Option Path)
    (format : Option Format) (s : σ) : Outcome :=
  match loadCookbook w settings schema format s with
  | .error outcome => outcome
  | .ok (path, cb) =>
    let ingredients := cb.ingredients.length
    let enums := cb.enums.length
    .lines [s!"{path.text}: ok ({ingredients} ingredients, {enums} enums)"]

/-- How a binding spells a type, with the array form if it differs. -/
def spelling (b : Binding) (t : ParamType) : String :=
  let native := b.mapType t false
  let array := b.mapType t true
  if native = array then native else s!"{native}  (as array: {array})"

/-- The cookbook whose enums a type may name: none if no cookbook is asked for or set. -/
def typesCookbook (w : Workspace σ ε) (settings : Settings) (schema : Option Path)
    (format : Option Format) (s : σ) : Except Outcome Cookbook :=
  if (schemaPath? schema settings).isSome then
    (loadCookbook w settings schema format s).map (·.2)
  else .ok {}

def runTypes (w : Workspace σ ε) (settings : Settings) (type : String) (schema : Option Path)
    (format : Option Format) (s : σ) : Outcome :=
  match typesCookbook w settings schema format s with
  | .error outcome => outcome
  | .ok cb =>
    match ParamType.parse? cb type with
    | none => .notice 1 (ParamType.unresolvedMessage type)
    | some t =>
      .lines (t.render :: BindingSet.builtin.bindings.map fun b ↦
        s!"  {column b.name} {spelling b t}")

/-- What is listed of a binding as JSON. -/
def bindingJson (b : Binding) : Json :=
  .obj [("extension", .str b.extension), ("language", .str b.language), ("name", .str b.name)]

def runBindings (asJson : Bool) : Outcome :=
  let listed := BindingSet.builtin.bindings
  if asJson then .lines [(Json.arr (listed.map bindingJson)).pretty]
  else .lines (listed.map fun b ↦ s!"{column b.name} {column b.language} .{b.extension}")

/-! ## Generating -/

/-- The bindings of a request: those it names, else those of the settings, else all. -/
def selectBindings (requested : List String) (settings : Settings) :
    Except String (List Binding) :=
  if requested.isEmpty then
    match settings.bindings with
    | some names => BindingSet.builtin.select names
    | none => .ok BindingSet.builtin.bindings
  else BindingSet.builtin.select requested

/-- The pipeline of a request and the cookbook to run it on, or why there is none. -/
def prepare (w : Workspace σ ε) (settings : Settings) (r : GenerateRequest) (s : σ) :
    Except Outcome (Pipeline ε × Path × Cookbook) :=
  match selectBindings r.bindings settings with
  | .error name =>
    let available := ", ".intercalate BindingSet.builtin.names
    .error (.notice 1 s!"Unknown binding: {name}. Available: {available}")
  | .ok selected => do
    let (path, cb) ← loadCookbook w settings r.schema r.format s
    return (⟨selected, w.gathering⟩, path, cb)

/-- Lists the files of a pipeline. -/
def runDry (w : Workspace σ ε) (p : Pipeline ε) (path : Path) (cb : Cookbook) : Outcome :=
  match p.render cb with
  | .ok rendering => .lines (rendering.files.map (·.path.text))
  | .error e => .notice 1 s!"{path.text}: {e.message w.message}"

/-- Writes the files of a pipeline below a directory. -/
def runWriting (w : Workspace σ ε) (p : Pipeline ε) (path : Path) (cb : Cookbook) (outDir : Path)
    (s : σ) : Outcome × σ :=
  match p.run cb (w.writer outDir) s with
  | (.ok summary, s) =>
    let names := ", ".intercalate summary.bindings
    (.notice 0 s!"Generated {summary.files.length} files for {names} into {outDir.text}", s)
  | (.error e, s) => (.notice 1 s!"{path.text}: {e.message w.message}", s)

def runGenerate (w : Workspace σ ε) (settings : Settings) (r : GenerateRequest) (s : σ) :
    Outcome × σ :=
  match prepare w settings r s with
  | .error outcome => (outcome, s)
  | .ok (p, path, cb) =>
    match r.output.getD settings.effectiveFormat with
    | .json =>
      if r.dryRun then (runDry w p path cb, s)
      else runWriting w p path cb (r.outDir.getD settings.effectiveOutDir) s

/-- Runs a command. -/
def run (w : Workspace σ ε) (settings : Settings) (c : Command) (s : σ) : Outcome × σ :=
  match c with
  | .check schema format => (runCheck w settings schema format s, s)
  | .generate r => runGenerate w settings r s
  | .bindings asJson => (runBindings asJson, s)
  | .types type schema format => (runTypes w settings type schema format s, s)

end Command

end Cookery
