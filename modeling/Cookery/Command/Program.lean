import Cookery.Command.Arguments
import Cookery.Command.Run

/-!
# The whole program

From the words of a command line and the files that are there to what is printed and the files that
are there afterwards.
-/

namespace Cookery

/-- What is printed about the program itself. -/
def versionLine : String := "sous 0.1.0"

def usageLines : List String :=
  ["Generate builder artifacts for several languages from one cookbook schema",
   "",
   "Usage: sous [-v] <COMMAND>",
   "",
   "Commands:",
   "  check [SCHEMA] [-f auto|yaml|json]",
   "  generate [SCHEMA] [-b BINDING,...] [-o DIR] [--output json] [-f auto|yaml|json] [--dry-run]",
   "  bindings [--json]",
   "  types <TYPE> [-s SCHEMA] [-f auto|yaml|json]"]

/-- The files that a command may read, and the directory that it may write into. -/
def Command.paths (settings : Settings) : Command → List Path × Option Path
  | .check schema _ => ((schemaPath? schema settings).toList, none)
  | .types _ schema _ => ((schemaPath? schema settings).toList, none)
  | .bindings _ => ([], none)
  | .generate r =>
    ((schemaPath? r.schema settings).toList, some (r.outDir.getD settings.effectiveOutDir))

/-- Runs the program for a project. A command line that cannot be read touches nothing. -/
def runProgram (user : UserDirectories) (root : Path) (words : List String) (t : FileTree) :
    Outcome × FileTree :=
  match Arguments.read words with
  | .error e => (.notice 2 s!"error: {e.message}", t)
  | .ok .showVersion => (.lines [versionLine], t)
  | .ok .showHelp => (.lines usageLines, t)
  | .ok (.run command) => command.run FileTree.workspace (Settings.load t user root) t

end Cookery
