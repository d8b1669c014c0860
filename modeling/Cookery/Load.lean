import Cookery.Cookbook.Yaml
import Cookery.Json.Reader
import Cookery.Path
import Cookery.Validation

/-!
# Loading cookbooks

A cookbook is loaded from YAML or JSON: decoded, then validated. The notation is told from the
extension of the file, unless it is given.
-/

namespace Cookery

/-- The notations of cookbooks. -/
inductive Format where
  | yaml
  | json
deriving DecidableEq

/-- The notation that the extension of a file name tells. -/
def Format.ofPath? (p : Path) : Option Format :=
  match p.extension? with
  | some "yaml" => some .yaml
  | some "yml" => some .yaml
  | some "json" => some .json
  | _ => none

/-- Why a cookbook cannot be loaded; `ε` are the errors of reading files. -/
inductive LoadError (ε : Type) where
  | io (path : Path) (e : ε)
  | yaml (e : DecodeError)
  | json (e : DecodeError)
  | unknownFormat (path : Path)
  | schema (e : SchemaError)

/-- The message of an error, given those of reading files. -/
def LoadError.message {ε : Type} (readMessage : ε → String) : LoadError ε → String
  | io path e => s!"failed to read {path.text}: {readMessage e}"
  | yaml e => s!"invalid YAML: {e.message}"
  | json e => s!"invalid JSON: {e.message}"
  | unknownFormat path =>
    s!"cannot infer schema format from `{path.text}` (expected .yaml, .yml or .json)"
  | schema e => e.message

namespace Cookbook

variable {ε : Type}

/-- Decodes a cookbook from a text, without validating it. -/
def decodeText (format : Format) (text : String) : Except (LoadError ε) Cookbook :=
  match format with
  | .yaml =>
    match Yaml.Tree.parse text with
    | .error _ => .error (.yaml .malformed)
    | .ok tree => (decode Yaml.source tree).mapError .yaml
  | .json =>
    match Json.parse? text with
    | none => .error (.json .malformed)
    | some v => (ofJson v).mapError .json

/-- Decodes and validates a cookbook. -/
def loadText (format : Format) (text : String) : Except (LoadError ε) Cookbook := do
  let cb ← decodeText format text
  cb.validate.mapError .schema
  return cb

/-- Reads, decodes and validates a cookbook file. -/
def load (read : Path → Except ε String) (path : Path) (format : Option Format) :
    Except (LoadError ε) Cookbook := do
  match format <|> Format.ofPath? path with
  | none => .error (.unknownFormat path)
  | some format =>
    let text ← (read path).mapError (.io path)
    loadText format text

end Cookbook

end Cookery
