import Cookery.Path
import Cookery.Writer

/-!
# Files and directories

A value that stands for the files and directories a command can see. Entries are kept by location,
which is a list of names from the root; the root itself is a directory. Paths are followed part by
part: each part but the last must be a directory, and `..` leads to the directory above.

The commands of the tool are functions from such a value to a new one, so that what they do to files
can be stated and proved.
-/

namespace Cookery

/-- Why an operation on files fails. -/
inductive FileError where
  | notFound
  | alreadyExists
  | notADirectory
  | isADirectory
  | notUtf8
deriving DecidableEq

def FileError.message : FileError → String
  | notFound => "No such file or directory (os error 2)"
  | alreadyExists => "File exists (os error 17)"
  | notADirectory => "Not a directory (os error 20)"
  | isADirectory => "Is a directory (os error 21)"
  | notUtf8 => "stream did not contain valid UTF-8"

/-- A file or a directory. -/
inductive Entry where
  | file (bytes : ByteArray)
  | directory

/-- The names on the way from the root to an entry. -/
abbrev Location := List String

/-- Files and directories, and the directory in which relative paths start. -/
structure FileTree where
  entries : List (Location × Entry) := []
  workingDirectory : Location := []

namespace FileTree

/-- The entry at a location. -/
def entry? (t : FileTree) (l : Location) : Option Entry :=
  if l = [] then some .directory else t.entries.lookup l

/-- Puts an entry at a location, in the place of the one that is there. -/
def setEntry (t : FileTree) (l : Location) (e : Entry) : FileTree :=
  if (t.entries.lookup l).isSome then
    { t with entries := t.entries.map fun (k, old) ↦ if k = l then (k, e) else (k, old) }
  else { t with entries := t.entries ++ [(l, e)] }

/-- Whether a location is a directory, and why not. -/
def checkDirectory (t : FileTree) (l : Location) : Except FileError Unit :=
  match t.entry? l with
  | some .directory => .ok ()
  | some (.file _) => .error .notADirectory
  | none => .error .notFound

/-- Follows components from a location. The result need not exist. -/
def walk (t : FileTree) (l : Location) : List Component → Except FileError Location
  | [] => .ok l
  | .root :: cs => t.walk [] cs
  | .current :: cs => t.walk l cs
  | .parent :: cs => do
    t.checkDirectory l
    t.walk l.dropLast cs
  | .name s :: cs => do
    t.checkDirectory l
    t.walk (l ++ [s]) cs

/-- The location that a path names. -/
def locate (t : FileTree) (p : Path) : Except FileError Location :=
  if p.text.isEmpty then .error .notFound else t.walk t.workingDirectory p.components

/-! ## Reading -/

/-- The bytes of the file at a path. -/
def readBytes (t : FileTree) (p : Path) : Except FileError ByteArray := do
  let l ← t.locate p
  match t.entry? l with
  | none => .error .notFound
  | some .directory => .error .isADirectory
  | some (.file bytes) => if p.namesDirectory then .error .notADirectory else .ok bytes

/-- The text of the file at a path. -/
def readText (t : FileTree) (p : Path) : Except FileError String := do
  match String.fromUTF8? (← t.readBytes p) with
  | some s => .ok s
  | none => .error .notUtf8

/-! ## Writing -/

/-- Makes a directory where there is nothing. -/
def makeDirectory (t : FileTree) (cs : List Component) : Except FileError FileTree := do
  let l ← t.walk t.workingDirectory cs
  match t.entry? l with
  | some _ => .error .alreadyExists
  | none =>
    t.checkDirectory l.dropLast
    return t.setEntry l .directory

/-- Whether there is a directory. -/
def isDirectory (t : FileTree) (cs : List Component) : Bool :=
  match t.walk t.workingDirectory cs with
  | .ok l => (t.checkDirectory l).isOk
  | .error _ => false

/-- Makes a directory unless it is there. -/
def ensureDirectory (t : FileTree) (cs : List Component) : Except FileError Unit × FileTree :=
  match t.makeDirectory cs with
  | .ok t => (.ok (), t)
  | .error e => if t.isDirectory cs then (.ok (), t) else (.error e, t)

/-- Makes a directory and the missing ones above it. The components come in reverse. -/
def ensureDirectories (t : FileTree) : List Component → Except FileError Unit × FileTree
  | [] => (.ok (), t)
  | c :: cs =>
    match t.ensureDirectory (c :: cs).reverse with
    | (.error .notFound, t) =>
      match t.ensureDirectories cs with
      | (.ok (), t) => t.ensureDirectory (c :: cs).reverse
      | failed => failed
    | result => result

/-- Writes a file into a directory that is there. -/
def writeFile (t : FileTree) (p : Path) (contents : String) : Except FileError FileTree := do
  let l ← t.locate p
  match t.entry? l with
  | some .directory => .error .isADirectory
  | some (.file _) =>
    if p.namesDirectory then .error .notADirectory else .ok (t.setEntry l (.file contents.toUTF8))
  | none =>
    if p.namesDirectory then .error .isADirectory
    else do
      t.checkDirectory l.dropLast
      return t.setEntry l (.file contents.toUTF8)

/-- Writes files below a directory and makes the directories they need. -/
def writer (root : Path) : Writer FileTree FileError where
  write t path contents :=
    let full := root.join path
    match t.ensureDirectories full.components.reverse.tail with
    | (.error e, t) => (.error e, t)
    | (.ok (), t) =>
      match t.writeFile full contents with
      | .ok t => (.ok (), t)
      | .error e => (.error e, t)

end FileTree

end Cookery
