import Cookery.Command.Program

/-!
# The command line

Takes in the files that a command may look at, runs the program on them, and puts out what has
changed. Everything else is decided by `Cookery.runProgram`.
-/

namespace Cookery

/-- The text of a location. -/
def Location.text (l : Location) : String :=
  "/" ++ "/".intercalate l

/-! ## Taking files in -/

/-- Takes in what is at a location. -/
def takeIn (t : FileTree) (l : Location) : IO FileTree := do
  let path := (← IO.currentDir) / Location.text l
  if ← path.isDir then return t.setEntry l .directory
  else if ← path.pathExists then return t.setEntry l (.file (← IO.FS.readBinFile path))
  else return t

/-- Takes in what is on the way to a path, and there. -/
def takeInPath (t : FileTree) (p : Path) : IO FileTree :=
  (List.range (p.components.length + 1)).foldlM (fun t n ↦
    match t.walk t.workingDirectory (p.components.take n) with
    | .ok l => takeIn t l
    | .error _ => return t) t

/-- Takes in everything below a location. -/
partial def takeInBelow (t : FileTree) (l : Location) : IO FileTree := do
  let path := (← IO.currentDir) / Location.text l
  if ← path.isDir then
    (← path.readDir).foldlM (fun t entry ↦ do
      let inner := l ++ [entry.fileName]
      takeInBelow (← takeIn t inner) inner) t
  else return t

/-- Takes in a path and, if it is a directory, everything below it. -/
def takeInDirectory (t : FileTree) (p : Path) : IO FileTree := do
  let t ← takeInPath t p
  match t.locate p with
  | .ok l => takeInBelow t l
  | .error _ => return t

/-- The files that the program may look at. -/
def takeInFor (user : UserDirectories) (root : Path) (words : List String) : IO FileTree := do
  let location := root.components.filterMap fun
    | .name s => some s
    | _ => none
  let start : FileTree := { workingDirectory := location }
  let t ← takeInPath start root
  let t ← user.settingsFile?.toList.foldlM takeInPath t
  let t ← takeInPath t (Settings.projectFile root)
  match Arguments.read words with
  | .ok (.run command) =>
    let (inputs, output) := command.paths (Settings.load t user root)
    let t ← inputs.foldlM takeInPath t
    output.toList.foldlM takeInDirectory t
  | _ => return t

/-! ## Putting files out -/

/-- Puts out an entry unless it was there before. -/
def putOut (before : FileTree) (l : Location) (e : Entry) : IO Unit := do
  match e, before.entry? l with
  | .directory, some .directory => return
  | .directory, _ => IO.FS.createDirAll (Location.text l)
  | .file bytes, some (.file old) =>
    if old.toList != bytes.toList then IO.FS.writeBinFile (Location.text l) bytes
  | .file bytes, _ => IO.FS.writeBinFile (Location.text l) bytes

/-! ## Running -/

/-- Runs the program on the files of this machine. -/
def runHere (words : List String) : IO UInt32 := do
  let user : UserDirectories :=
    { config := (← IO.getEnv "XDG_CONFIG_HOME").map Path.mk
      home := (← IO.getEnv "HOME").map Path.mk }
  let root : Path := ⟨(← IO.currentDir).toString⟩
  let before ← takeInFor user root words
  let (outcome, after) := runProgram user root words before
  after.entries.forM fun (l, e) ↦ putOut before l e
  (← IO.getStdout).putStr outcome.output
  (← IO.getStderr).putStr outcome.errors
  return outcome.code.toUInt32

end Cookery

def main (words : List String) : IO UInt32 :=
  Cookery.runHere words
