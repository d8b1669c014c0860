import Cookery.FileTree
import Cookery.Load
import Cookery.Pipeline
import Cookery.Settings

/-!
# Commands and their outcomes

A command is a value, and running it is a function: from the state of the files to what is printed,
an exit code, and the new state. Where cookbooks are read and where files are written is left open,
as a `Workspace`, so that nothing that is shown about commands depends on what files are. Neither
does it depend on how bindings that run side by side are scheduled.
-/

namespace Cookery

/-- A request to generate files. -/
structure GenerateRequest where
  schema : Option Path := none
  bindings : List String := []
  outDir : Option Path := none
  output : Option OutputFormat := none
  format : Option Format := none
  dryRun : Bool := false
deriving DecidableEq

/-- What the tool can be asked to do. A missing cookbook is taken from the settings. -/
inductive Command where
  /-- Load and validate a cookbook. -/
  | check (schema : Option Path) (format : Option Format)
  /-- Write the records of a cookbook for some bindings. -/
  | generate (request : GenerateRequest)
  /-- List the bindings. -/
  | bindings (asJson : Bool)
  /-- Show how each binding spells a type. -/
  | types (type : String) (schema : Option Path) (format : Option Format)
deriving DecidableEq

/-- What a command leaves behind for the user. -/
structure Outcome where
  code : Nat := 0
  output : String := ""
  errors : String := ""
deriving DecidableEq

namespace Outcome

/-- Lines of output and success. -/
def lines (ls : List String) : Outcome where
  output := String.join (ls.map (· ++ "\n"))

/-- One line for the user, and a code. -/
def notice (code : Nat) (line : String) : Outcome where
  code
  errors := line ++ "\n"

end Outcome

/-- Where cookbooks are read and files written, and how the results of bindings are gathered. -/
structure Workspace (σ ε : Type) where
  read : σ → Path → Except ε String
  writer : Path → Writer σ ε
  message : ε → String
  gathering : Gathering (PipelineError ε) (List ArtifactRecord)

/-- The workspace of a file tree, where bindings run one after the other. -/
def FileTree.workspace : Workspace FileTree FileError where
  read := readText
  writer := FileTree.writer
  message := FileError.message
  gathering := .inOrder

end Cookery
