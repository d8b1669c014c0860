/-!
# TOML values and tables

A document is built statement by statement. How a table came to be decides what may still be added
to it: a table with a header of its own is not opened again, a table that only a longer header
mentions may still get its own, one that a dotted key made takes more dotted keys, and an inline
table is complete.

Numbers, truth values and dates are kept as they are written, since no setting takes one.
-/

namespace Cookery

/-- How a table came to be. -/
inductive TableOrigin where
  | header
  | implied
  | dotted
  | inline
deriving DecidableEq

/-- A TOML value. -/
inductive Toml where
  | string (s : String)
  | scalar (text : String)
  | array (items : List Toml)
  | table (origin : TableOrigin) (entries : List (String × Toml))
  /-- Tables with double headers; the last one is open. -/
  | tables (earlier : List Toml) (last : List (String × Toml))
deriving Inhabited

namespace Toml

/-- The entries of a table. -/
abbrev Entries := List (String × Toml)

/-- Puts a value at a key that is there, or adds it. -/
def setEntry (key : String) (v : Toml) : Entries → Entries
  | [] => [(key, v)]
  | (k, old) :: rest => if k = key then (k, v) :: rest else (k, old) :: setEntry key v rest

/-- Changes the table that a path leads to. `byKey` tells whether the path is part of a dotted key,
which opens no table with a header; missing tables are made accordingly. The change is told how the
table it is given came to be. -/
def changeAt (byKey : Bool) (change : TableOrigin → Entries → Option Entries) :
    List String → TableOrigin → Entries → Option Entries
  | [], origin, entries => change origin entries
  | key :: path, _, entries =>
    match entries.lookup key with
    | none => do
      let origin := if byKey then .dotted else .implied
      let inner ← changeAt byKey change path origin []
      return setEntry key (.table origin inner) entries
    | some (.table .inline _) => none
    | some (.table origin inner) =>
      if byKey && origin == .header then none
      else do
        let inner ← changeAt byKey change path origin inner
        return setEntry key (.table origin inner) entries
    | some (.tables earlier last) => do
      let last ← changeAt byKey change path .header last
      return setEntry key (.tables earlier last) entries
    | some _ => none

/-- Adds a key and its value to the table at hand. -/
def addKey (path : List String) (key : String) (v : Toml) (origin : TableOrigin)
    (entries : Entries) : Option Entries :=
  changeAt true (fun origin entries ↦
    if (origin == .dotted) == path.isEmpty || (entries.lookup key).isSome then none
    else some (entries ++ [(key, v)])) path origin entries

/-- Opens the table of a header. -/
def openTable (path : List String) (key : String) (root : Entries) : Option Entries :=
  changeAt false (fun _ entries ↦
    match entries.lookup key with
    | none => some (entries ++ [(key, .table .header [])])
    | some (.table .implied inner) => some (setEntry key (.table .header inner) entries)
    | some _ => none) path .header root

/-- Opens one more table of a double header. -/
def openTables (path : List String) (key : String) (root : Entries) : Option Entries :=
  changeAt false (fun _ entries ↦
    match entries.lookup key with
    | none => some (entries ++ [(key, .tables [] [])])
    | some (.tables earlier last) =>
      some (setEntry key (.tables (earlier ++ [.table .header last]) []) entries)
    | some _ => none) path .header root

end Toml

end Cookery
