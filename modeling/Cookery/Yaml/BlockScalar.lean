import Cookery.Yaml.Basic

/-!
# Block scalars

A block scalar starts with `|`, which keeps line breaks, or with `>`, which folds them. Its header
may fix the indentation by a digit and say what happens to the breaks at the end: `-` drops them,
`+` keeps all, and otherwise one is kept. Without a digit the indentation is that of the first line
that is not empty, and at least one more than that of the block around it.
-/

namespace Cookery.Yaml

/-- What happens to the line breaks at the end of a block scalar. -/
inductive Chomping where
  | strip
  | clip
  | keep
deriving DecidableEq

/-- The mark of a chomping. -/
def chomping? : Option Char → Option Chomping
  | some '+' => some .keep
  | some '-' => some .strip
  | _ => none

/-- The digit of an indentation, at least one. -/
def increment? : Option Char → Option Nat
  | some c => if c.isDigit then some (c.toNat - 48) else none
  | none => none

/-- The header after the first mark: chomping and indentation in either order. -/
def readBlockHeader (c : Cursor) : Except Error ((Chomping × Option Nat) × Cursor) :=
  let (chomping, increment, c) :=
    match chomping? c.peek with
    | some chomping =>
      match increment? (c.peekAt 1) with
      | some n => (chomping, some n, c.skip 2)
      | none => (chomping, none, c.skip)
    | none =>
      match increment? c.peek with
      | some n =>
        match chomping? (c.peekAt 1) with
        | some chomping => (chomping, some n, c.skip 2)
        | none => (.clip, some n, c.skip)
      | none => (.clip, none, c)
  let c := c.skipWhile isBlank
  let c := if c.peek == some '#' then c.skipWhile (fun ch ↦ !isBreak ch) else c
  if increment == some 0 || !endsLine c.peek then .error .badBlockHeader
  else .ok ((chomping, increment), if c.peek.isSome then c.skipLine else c)

/-- The indentation and the empty lines before the next line of text. With no indentation given, all
blanks at the start of a line count, and the widest line read so far is the result. -/
structure Margin where
  breaks : List Char := []
  widest : Nat := 0

/-- Reads empty lines and the indentation of the line after them. -/
def readMargin (indent : Option Nat) (c : Cursor) : Except Error (Margin × Cursor) :=
  c.loop (fun m c ↦
    let blanks := (c.run (· == ' ')).length
    let c := c.skip (match indent with
      | some n => min blanks (n - c.column)
      | none => blanks)
    let m := { m with widest := max m.widest c.column }
    let inside := match indent with
      | some n => decide (c.column < n)
      | none => true
    if inside && c.peek == some '\t' then .error .tabIndentation
    else if c.peek.any isBreak then
      .ok (.inl ({ m with breaks := m.breaks ++ c.lineBreak }, c.skipLine))
    else .ok (.inr (m, c))) {}

/-- The text of a block scalar while it is read. -/
structure BlockText where
  text : List Char := []
  /-- The break that ended the last line. -/
  lineBreak : List Char := []
  /-- The empty lines after it. -/
  breaks : List Char := []
  /-- Whether the last line started with a blank; such lines are not folded. -/
  blank : Bool := false

/-- Adds a line. -/
def BlockText.addLine (folded : Bool) (b : BlockText) (line br breaks : List Char) : BlockText :=
  let blank := line.head?.any isBlank
  let joint :=
    if folded && b.lineBreak == ['\n'] && !b.blank && !blank then
      if b.breaks.isEmpty then [' '] else []
    else b.lineBreak
  { text := b.text ++ joint ++ b.breaks ++ line, lineBreak := br, breaks, blank }

/-- The text of a block scalar whose last line has been read. -/
def BlockText.finish (b : BlockText) : Chomping → List Char
  | .strip => b.text
  | .clip => b.text ++ b.lineBreak
  | .keep => b.text ++ b.lineBreak ++ b.breaks

/-- A block scalar, from its first mark on; `parent` is the indentation of the block around it. -/
def readBlock (folded : Bool) (parent : Int) (c : Cursor) : Except Error (String × Cursor) := do
  let ((chomping, increment), c) ← readBlockHeader c.skip
  let given := increment.map fun n ↦ if 0 ≤ parent then parent.toNat + n else n
  let (margin, c) ← readMargin given c
  let indent := given.getD (max (max margin.widest (parent + 1).toNat) 1)
  c.loop (fun (b : BlockText) c ↦
    if c.column = indent && c.peek.isSome then do
      let line := c.run (fun ch ↦ !isBreak ch)
      let c := c.skip line.length
      let br := c.lineBreak
      let (margin, c) ← readMargin (some indent) c.skipLine
      return .inl (b.addLine folded line br margin.breaks, c)
    else return .inr (String.ofList (b.finish chomping), c)) { breaks := margin.breaks }

end Cookery.Yaml
