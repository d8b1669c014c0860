import Cookery.SchemaError

/-!
# Repeated names

Every list of names that must be free of duplicates is checked for the first entry that repeats an
earlier one, and that entry is what the error names. There are two such scans. A declared list is
searched for the entry, and what is wrong with it is then for the caller to say; a generated list is
passed entry by entry, and the pass breaks off with the error.
-/

namespace Cookery

/-! ## Searching for a duplicate -/

/-- The first entry that is in `seen` or repeats an earlier entry. -/
def firstDuplicateAfter (seen : List String) : List String → Option String
  | [] => none
  | x :: xs => if x ∈ seen then some x else firstDuplicateAfter (x :: seen) xs

/-- The first entry that repeats an earlier one. -/
def firstDuplicate? (names : List String) : Option String :=
  firstDuplicateAfter [] names

/-- Refuses a list of names that has a duplicate. -/
def refuseDuplicate (scope : NameScope) (owner : Option String) (names : List String) :
    Except SchemaError Unit :=
  match firstDuplicate? names with
  | some name => .error (.duplicateName scope name owner)
  | none => .ok ()

/-! ## Checking names while passing them -/

/-- Adds a name to those that have been passed, unless it is one of them. -/
def passName (scope : NameScope) (owner : Option String) (seen : List String) (name : String) :
    Except SchemaError (List String) :=
  if name ∈ seen then .error (.duplicateName scope name owner) else .ok (name :: seen)

/-- Passes names one after another and stops at the first that has been passed before. -/
def ensureDistinct (scope : NameScope) (owner : Option String) (names : List String) :
    Except SchemaError Unit :=
  discard (names.foldlM (passName scope owner) [])

end Cookery
