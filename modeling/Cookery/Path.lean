/-!
# Paths

A path is a text whose parts are divided by slashes. Two paths are compared by their components:
repeated slashes, a slash at the end, and the parts `.` count for nothing, except that a relative
path may start with `.`. What is shown to the user is the text.
-/

namespace Cookery

/-- A path, as it is written. -/
structure Path where
  text : String
deriving DecidableEq, Inhabited

/-- A part of a path that counts. -/
inductive Component where
  | root
  | current
  | parent
  | name (s : String)
deriving DecidableEq

/-- The order of components: the root, `.`, `..`, and then names by their characters. -/
def Component.lt : Component → Component → Bool
  | .name s, .name t => s < t
  | .name _, _ => false
  | _, .name _ => true
  | .parent, _ => false
  | _, .parent => true
  | .current, _ => false
  | _, .current => true
  | .root, .root => false

/-- Lists of components are ordered by the first that differs. -/
def componentsLt : List Component → List Component → Bool
  | [], [] => false
  | [], _ :: _ => true
  | _ :: _, [] => false
  | c :: cs, d :: ds => if c = d then componentsLt cs ds else c.lt d

namespace Path

/-- The parts of a text between slashes. -/
def splitSlashes : List Char → List (List Char)
  | [] => [[]]
  | c :: cs =>
    if c = '/' then [] :: splitSlashes cs
    else match splitSlashes cs with
      | [] => [[c]]
      | part :: parts => (c :: part) :: parts

/-- The component of a part, if it counts inside a path. -/
def component? (part : List Char) : Option Component :=
  if part = [] ∨ part = ['.'] then none
  else if part = ['.', '.'] then some .parent
  else some (.name (String.ofList part))

/-- Whether the path starts at the root. -/
def isAbsolute (p : Path) : Bool :=
  p.text.toList.head? == some '/'

/-- The components of a path. -/
def components (p : Path) : List Component :=
  let parts := splitSlashes p.text.toList
  let inner := parts.filterMap component?
  if p.isAbsolute then .root :: inner
  else if parts.head? == some ['.'] then .current :: inner
  else inner

/-- Appends a path. An absolute path replaces what it is appended to. -/
def join (p q : Path) : Path :=
  if q.isAbsolute || p.text.isEmpty then q
  else if p.text.toList.getLast? == some '/' then ⟨p.text ++ q.text⟩
  else ⟨p.text ++ "/" ++ q.text⟩

/-- The name of the file, unless the path ends otherwise. -/
def fileName? (p : Path) : Option String :=
  match p.components.getLast? with
  | some (.name s) => some s
  | _ => none

/-- What follows the last dot of a file name, if something stands before it. -/
def extension? (p : Path) : Option String :=
  p.fileName?.bind fun name ↦
    let cs := name.toList.reverse
    let after := cs.takeWhile (· != '.')
    match cs.dropWhile (· != '.') with
    | '.' :: _ :: _ => some (String.ofList after.reverse)
    | _ => none

/-- Whether the text of the path says that it names a directory. -/
def namesDirectory (p : Path) : Bool :=
  match p.text.toList.reverse with
  | '/' :: _ => true
  | '.' :: '/' :: _ => true
  | _ => false

end Path

end Cookery
