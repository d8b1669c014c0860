import Cookery.Path
import Cookery.Record.Json

/-!
# From records to files

Each record becomes one file under the directory of its binding: `ingredients/Name.json`,
`enums/Name.json`, or `index.json`. A binding or name that could not be a single part of a path is
refused, so that no file lands outside the directory it is meant for.
-/

namespace Cookery

/-- A file to write. Its path is relative to the output directory. -/
structure RenderedFile where
  path : Path
  contents : String
deriving DecidableEq

/-- Why a record cannot be rendered. -/
inductive RenderError where
  | unsafeName (kind : RecordKind) (name : String)
deriving DecidableEq

def RenderError.message : RenderError → String
  | unsafeName kind name => s!"{kind.text} name `{name}` cannot be used as a file name"

/-- Whether a name can be a part of a path. -/
def isSafeName (name : String) : Bool :=
  !(name == "" || name == "." || name == ".." ||
    name.toList.any fun c ↦ c == '/' || c == '\\' || c == '\x00')

/-- A name that can be a part of a path. -/
def safeName (kind : RecordKind) (name : String) : Except RenderError String :=
  if isSafeName name then .ok name else .error (.unsafeName kind name)

namespace ArtifactRecord

/-- The path of the file of a record. -/
def path (r : ArtifactRecord) : Except RenderError Path := do
  let directory : Path := ⟨← safeName r.kind r.binding⟩
  match r.kind with
  | .manifest => return directory.join ⟨"index.json"⟩
  | .ingredient =>
    return (directory.join ⟨"ingredients"⟩).join ⟨(← safeName r.kind r.name) ++ ".json"⟩
  | .enum => return (directory.join ⟨"enums"⟩).join ⟨(← safeName r.kind r.name) ++ ".json"⟩

/-- The file of a record. -/
def render (r : ArtifactRecord) : Except RenderError RenderedFile := do
  return { path := ← r.path, contents := r.toJson.pretty ++ "\n" }

end ArtifactRecord

end Cookery
