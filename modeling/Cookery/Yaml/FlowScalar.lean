import Cookery.Text.Hex
import Cookery.Yaml.Basic

/-!
# Quoted and plain scalars

A scalar that runs over several lines is folded: the blanks around line breaks go, a single break
becomes a blank, and of several breaks all but the first stay.

Single quotes hold text in which only the quote itself is written twice. Double quotes hold escapes,
among them an escaped line break, which joins two lines without a blank. A plain scalar ends at a
comment, at a colon before a blank, at less indentation than its block asks for, and inside flow
collections at their brackets and commas.
-/

namespace Cookery.Yaml

/-! ## Blanks and breaks -/

/-- The blanks and line breaks between two words. -/
structure Gap where
  blanks : List Char := []
  first : List Char := []
  more : List Char := []
  /-- Whether a line has ended. -/
  broken : Bool := false

namespace Gap

/-- What a gap contributes to the text. -/
def text (g : Gap) : List Char :=
  if g.broken then foldBreaks g.first g.more else g.blanks

/-- Adds the blank at the cursor. Blanks at the start of a line do not count. -/
def addBlank (g : Gap) (ch : Char) : Gap :=
  if g.broken then g else { g with blanks := g.blanks ++ [ch] }

/-- Adds the line break at the cursor. -/
def addBreak (g : Gap) (br : List Char) : Gap :=
  if g.broken then { g with more := g.more ++ br }
  else { g with blanks := [], first := br, broken := true }

end Gap

/-- Reads blanks and line breaks. A tab that stands for indentation below `indent` is an error. -/
def readGap (indent : Nat) (g : Gap) (c : Cursor) : Except Error (Gap × Cursor) :=
  c.loop (fun g c ↦
    match c.peek with
    | none => .ok (.inr (g, c))
    | some ch =>
      if isBlank ch then
        if g.broken && c.column < indent && ch == '\t' then .error .tabIndentation
        else .ok (.inl (g.addBlank ch, c.skip))
      else if isBreak ch then .ok (.inl (g.addBreak c.lineBreak, c.skipLine))
      else .ok (.inr (g, c))) g

/-! ## Quoted scalars -/

/-- The character that a backslash and a letter stand for in double quotes. -/
def escape? : Char → Option Char
  | '0' => some '\x00'
  | 'a' => some '\x07'
  | 'b' => some '\x08'
  | 't' => some '\t'
  | '\t' => some '\t'
  | 'n' => some '\n'
  | 'v' => some '\x0b'
  | 'f' => some '\x0c'
  | 'r' => some '\r'
  | 'e' => some '\x1b'
  | ' ' => some ' '
  | '"' => some '"'
  | '/' => some '/'
  | '\\' => some '\\'
  | 'N' => some '\x85'
  | '_' => some '\xa0'
  | 'L' => some '\u2028'
  | 'P' => some '\u2029'
  | _ => none

/-- How many hexadecimal digits follow the letter of an escape by number. -/
def escapeLength? : Char → Option Nat
  | 'x' => some 2
  | 'u' => some 4
  | 'U' => some 8
  | _ => none

/-- The escape at the cursor, which stands on the backslash. -/
def readEscape (c : Cursor) : Except Error (Char × Cursor) :=
  match c.peekAt 1 with
  | none => .error .badEscape
  | some letter =>
    match escape? letter, escapeLength? letter with
    | some ch, _ => .ok (ch, c.skip 2)
    | none, none => .error .badEscape
    | none, some n =>
      let digits := (c.rest.drop 2).take n
      match Text.readDigits? 16 digits with
      | none => .error .badEscape
      | some code =>
        if digits.length = n && code.isValidChar then .ok (Char.ofNat code, c.skip (2 + n))
        else .error .badEscape

/-- The text of a quoted scalar up to a blank, a line break or the closing quote. The flag tells
whether an escaped line break ended it. -/
def readQuotedWord (single : Bool) (c : Cursor) : Except Error ((List Char × Bool) × Cursor) :=
  let quote := if single then '\'' else '"'
  c.loop (fun (acc : List Char) c ↦
    match c.peek with
    | none => .ok (.inr ((acc.reverse, false), c))
    | some ch =>
      if isBlank ch || isBreak ch then .ok (.inr ((acc.reverse, false), c))
      else if single && ch == quote && c.peekAt 1 == some quote then
        .ok (.inl (quote :: acc, c.skip 2))
      else if ch == quote then .ok (.inr ((acc.reverse, false), c))
      else if !single && ch == '\\' then
        if (c.peekAt 1).any isBreak then .ok (.inr ((acc.reverse, true), c.skip.skipLine))
        else do
          let (ch, c) ← readEscape c
          return .inl (ch :: acc, c)
      else .ok (.inl (ch :: acc, c.skip))) []

/-- A quoted scalar, from its opening quote on. -/
def readQuoted (single : Bool) (c : Cursor) : Except Error (String × Cursor) :=
  let quote := if single then '\'' else '"'
  c.skip.loop (fun (acc : List Char) c ↦
    if c.atDocumentMark then .error .documentIndicatorInScalar
    else if c.peek.isNone then .error .unterminatedScalar
    else do
      let ((word, joined), c) ← readQuotedWord single c
      let acc := acc ++ word
      if c.peek == some quote then return .inr (String.ofList acc, c.skip)
      else
        let (gap, c) ← readGap 0 { broken := joined } c
        return .inl (acc ++ gap.text, c)) []

/-! ## Plain scalars -/

/-- Whether a plain scalar inside (`flow`) or outside flow collections ends at the cursor. -/
def endsPlain (flow : Bool) (c : Cursor) : Bool :=
  match c.peek with
  | none => true
  | some ch =>
    isBlank ch || isBreak ch || (ch == ':' && endsWord (c.peekAt 1)) ||
      (flow && isFlowIndicator ch)

/-- A word of a plain scalar. -/
def readPlainWord (flow : Bool) (c : Cursor) : Except Error (List Char × Cursor) :=
  c.loop (fun (acc : List Char) c ↦
    if flow && c.peek == some ':' &&
        (c.peekAt 1).any (fun ch ↦ ch == '?' || isFlowIndicator ch) then
      .error .unexpectedColon
    else if endsPlain flow c then .ok (.inr (acc.reverse, c))
    else match c.peek with
      | none => .ok (.inr (acc.reverse, c))
      | some ch => .ok (.inl (ch :: acc, c.skip))) []

/-- A plain scalar whose lines need at least the given indentation. The flag tells whether the
scalar ended with a line, so that a key may follow. -/
def readPlain (flow : Bool) (indent : Nat) (c : Cursor) :
    Except Error ((String × Bool) × Cursor) :=
  c.loop (fun (s : List Char × Gap) c ↦ do
    let (acc, gap) := s
    let finish (acc : List Char) (gap : Gap) (c : Cursor) :=
      (.inr ((String.ofList acc, gap.broken), c) :
        ((List Char × Gap) × Cursor) ⊕ ((String × Bool) × Cursor))
    if c.atDocumentMark || c.peek == some '#' then return finish acc gap c
    else
      let (word, c) ← readPlainWord flow c
      if word.isEmpty then return finish acc gap c
      else
        let acc := acc ++ gap.text ++ word
        if !c.peek.any (fun ch ↦ isBlank ch || isBreak ch) then return finish acc {} c
        else
          let (gap, c) ← readGap indent {} c
          if !flow && c.column < indent then return finish acc gap c
          else return .inl ((acc, gap), c)) ([], {})

end Cookery.Yaml
