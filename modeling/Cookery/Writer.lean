import Cookery.Path

/-!
# Where files go

A writer takes one file after another. Its state is a value, and a write gives the new state also
when it fails, since a failed write may have made directories. `Store` keeps files in memory, by the
components of their paths and in their order.
-/

namespace Cookery

/-- A destination for files with states in `σ` and errors in `ε`. -/
structure Writer (σ ε : Type) where
  write : σ → Path → String → Except ε Unit × σ

/-! ## Files in memory -/

/-- Files by path, in the order of the components of the paths. -/
structure Store where
  files : List (Path × String) := []

namespace Store

def empty : Store := ⟨[]⟩

/-- Puts a file into its place. A file whose path has the same components keeps the spelling of its
path and gets new contents. -/
def insertInto (path : Path) (contents : String) : List (Path × String) → List (Path × String)
  | [] => [(path, contents)]
  | (p, old) :: rest =>
    if p.components = path.components then (p, contents) :: rest
    else if componentsLt path.components p.components then (path, contents) :: (p, old) :: rest
    else (p, old) :: insertInto path contents rest

def insert (s : Store) (path : Path) (contents : String) : Store :=
  ⟨insertInto path contents s.files⟩

/-- The contents of the file at a path. -/
def get? (s : Store) (path : Path) : Option String :=
  (s.files.find? fun f ↦ f.1.components = path.components).map (·.2)

/-- Writing into a store never fails. -/
def writer : Writer Store Empty where
  write s path contents := (.ok (), s.insert path contents)

end Store

end Cookery
