import Cookery.FileTree
import Cookery.Toml.Reader

/-!
# Settings

Defaults for the commands come from two files, one for the user and one for the project. The files
are merged key by key, and what the project sets wins. A file that cannot be read, is malformed, has
a key that is not known or a value of the wrong type counts as if it were not there: it is never
used in part.
-/

namespace Cookery

/-- The notations of generated files. -/
inductive OutputFormat where
  | json
deriving DecidableEq

def OutputFormat.name : OutputFormat → String
  | json => "json"

def OutputFormat.ofName? : String → Option OutputFormat
  | "json" => some .json
  | _ => none

/-- What a settings file may say. -/
structure Settings where
  /-- The bindings to generate for. -/
  bindings : Option (List String) := none
  /-- The directory of generated files. -/
  outDir : Option Path := none
  /-- The notation of generated files. -/
  format : Option OutputFormat := none
  /-- The cookbook file. -/
  schema : Option Path := none
deriving DecidableEq

namespace Settings

/-- Where generated files go if nothing says otherwise. -/
def defaultOutDir : Path := ⟨"generated"⟩

def effectiveOutDir (s : Settings) : Path :=
  s.outDir.getD defaultOutDir

def effectiveFormat (s : Settings) : OutputFormat :=
  s.format.getD .json

/-- Adds the settings of a second file, which win. -/
def merge (s t : Settings) : Settings where
  bindings := t.bindings <|> s.bindings
  outDir := t.outDir <|> s.outDir
  format := t.format <|> s.format
  schema := t.schema <|> s.schema

/-! ## Reading settings -/

/-- The entries of a group of settings: a table with known keys only, or a list that gives their
values in order. -/
def entries? (keys : List String) : Toml → Option Toml.Entries
  | .table _ es => if es.all fun e ↦ keys.contains e.1 then some es else none
  | .array items => if items.length ≤ keys.length then some (keys.zip items) else none
  | .tables earlier last =>
    let items := earlier ++ [.table .header last]
    if items.length ≤ keys.length then some (keys.zip items) else none
  | _ => none

/-- Reads a value that may be missing. -/
def readField? {α : Type} (read : Toml → Option α) (es : Toml.Entries) (key : String) :
    Option (Option α) :=
  match es.lookup key with
  | none => some none
  | some v => (read v).map some

def readText? : Toml → Option String
  | .string s => some s
  | _ => none

def readTexts? : Toml → Option (List String)
  | .array items => items.mapM readText?
  | _ => none

/-- A notation is given by its name, or as a table with its name as the only key and nothing in
it. -/
def readFormat? : Toml → Option OutputFormat
  | .string s => OutputFormat.ofName? s
  | .table _ [(s, .table _ [])] => OutputFormat.ofName? s
  | .table _ [(s, .array [])] => OutputFormat.ofName? s
  | _ => none

/-- Reads the settings of a file. -/
def ofToml? (root : Toml.Entries) : Option Settings := do
  let groups ← entries? ["generate", "schema"] (.table .header root)
  let generate ← readField? (entries? ["bindings", "out_dir", "format"]) groups "generate"
  let schema ← readField? (entries? ["path"]) groups "schema"
  let generate := generate.getD []
  let schema := schema.getD []
  return {
    bindings := ← readField? readTexts? generate "bindings"
    outDir := (← readField? readText? generate "out_dir").map Path.mk
    format := ← readField? readFormat? generate "format"
    schema := (← readField? readText? schema "path").map Path.mk }

def parse? (text : String) : Option Settings :=
  (Toml.parse? text).bind ofToml?

/-! ## Finding settings -/

/-- The settings of a file, if there is a file with settings. -/
def readFile? (t : FileTree) (p : Path) : Option Settings :=
  match t.readText p with
  | .ok text => parse? text
  | .error _ => none

end Settings

/-- The directories of a user: the one for settings, and the one for all else. -/
structure UserDirectories where
  config : Option Path := none
  home : Option Path := none
deriving DecidableEq

/-- The settings file of a user. -/
def UserDirectories.settingsFile? (u : UserDirectories) : Option Path :=
  let home := u.home.filter fun p ↦ !p.text.isEmpty
  (u.config <|> home.map (·.join ⟨".config"⟩)).map fun dir ↦
    (dir.join ⟨"sous"⟩).join ⟨"config.toml"⟩

/-- The settings file of a project. -/
def Settings.projectFile (root : Path) : Path :=
  (root.join ⟨".sous"⟩).join ⟨"config.toml"⟩

/-- The settings of a user for a project. A cookbook that the project names is found from the root
of the project. -/
def Settings.load (t : FileTree) (u : UserDirectories) (root : Path) : Settings :=
  let user := (u.settingsFile?.bind (readFile? t)).getD {}
  match readFile? t (projectFile root) with
  | none => user
  | some project => user.merge { project with schema := project.schema.map root.join }

end Cookery
