import Cookery.Yaml.BlockScalar
import Cookery.Yaml.FlowScalar
import Cookery.Yaml.Property

/-!
# Tokens

`tokens` cuts a stream into tokens. Some tokens stand for no characters: in a block, indentation
opens and closes collections. Others are found out too late: that a scalar is a key shows only at
the colon after it. So the scanner remembers where a key may have started, and puts the mark of the
key, and of the mapping it opens, before the tokens that it has read since.

A key without its own mark stands on one line and has at most 1024 characters. In a block, a word
at the indentation of a mapping has to be a key.
-/

namespace Cookery.Yaml

/-- A token of a YAML stream. -/
inductive Token where
  | streamEnd
  | directive (d : Directive)
  | documentStart
  | documentEnd
  | blockSequenceStart
  | blockMappingStart
  | blockEnd
  | flowSequenceStart
  | flowSequenceEnd
  | flowMappingStart
  | flowMappingEnd
  | blockEntry
  | flowEntry
  | key
  | value
  | alias (name : String)
  | anchor (name : String)
  | tag (t : TagText)
  | scalar (style : Style) (text : String)
deriving DecidableEq

/-- Where a key may have started. -/
structure KeyStart where
  /-- Whether a key has to be here. -/
  required : Bool
  /-- How many tokens came before it. -/
  tokens : Nat
  line : Nat
  column : Nat
  index : Nat

/-- The state of the scanner, its cursor apart. -/
structure Scanner where
  /-- The tokens so far, the last one first. -/
  tokens : List Token := []
  /-- The column of the current block, or `-1` outside all blocks. -/
  indent : Int := -1
  outerIndents : List Int := []
  /-- Where a key may have started in the current collection. -/
  keyStart : Option KeyStart := none
  /-- The same for the collections around it; there is one entry for each open flow collection. -/
  outerKeys : List (Option KeyStart) := []
  /-- Whether a key may start here. -/
  keyAllowed : Bool := true

namespace Scanner

/-- Whether a flow collection is open. -/
def inFlow (s : Scanner) : Bool :=
  !s.outerKeys.isEmpty

def push (s : Scanner) (t : Token) : Scanner :=
  { s with tokens := t :: s.tokens }

/-- Puts tokens before all but the first `n` tokens. -/
def insertAt (s : Scanner) (n : Nat) (ts : List Token) : Scanner :=
  let later := s.tokens.length - n
  { s with tokens := s.tokens.take later ++ ts.reverse ++ s.tokens.drop later }

/-! ## Indentation -/

/-- Opens a block at a column that is further in than the current one, before all but the first `n`
tokens. -/
def openBlock (s : Scanner) (column n : Nat) (t : Token) : Scanner :=
  if !s.inFlow && s.indent < column then
    { s.insertAt n [t] with indent := column, outerIndents := s.indent :: s.outerIndents }
  else s

/-- Closes the blocks that are further in than a column. -/
def closeBlocksFrom (column : Int) (tokens : List Token) (indent : Int) :
    List Int → List Token × Int × List Int
  | [] => (tokens, indent, [])
  | outer :: outers =>
    if column < indent then closeBlocksFrom column (.blockEnd :: tokens) outer outers
    else (tokens, indent, outer :: outers)

/-- Closes the blocks that are further in than a column. Flow collections ignore indentation. -/
def closeBlocks (s : Scanner) (column : Int) : Scanner :=
  if s.inFlow then s
  else
    let (tokens, indent, outerIndents) := closeBlocksFrom column s.tokens s.indent s.outerIndents
    { s with tokens, indent, outerIndents }

/-! ## Keys -/

/-- Forgets that a key may have started, which is an error if there had to be one. -/
def dropKey (s : Scanner) : Except Error Scanner :=
  if s.keyStart.any (·.required) then .error .missingColon else .ok { s with keyStart := none }

/-- Whether the start of a key is too far back to be one. -/
def isStale (c : Cursor) (k : KeyStart) : Bool :=
  k.line < c.line || k.index + 1024 < c.index

/-- Forgets a start of a key that is too far back. -/
def refreshKey (c : Cursor) (k : Option KeyStart) : Except Error (Option KeyStart) :=
  match k with
  | none => .ok none
  | some k =>
    if isStale c k then if k.required then .error .missingColon else .ok none else .ok (some k)

/-- Forgets all starts of keys that are too far back. -/
def refreshKeys (s : Scanner) (c : Cursor) : Except Error Scanner := do
  let keyStart ← refreshKey c s.keyStart
  let outerKeys ← s.outerKeys.mapM (refreshKey c)
  return { s with keyStart, outerKeys }

/-- Remembers that a key may start here, if one may. -/
def markKey (s : Scanner) (c : Cursor) : Except Error Scanner :=
  if s.keyAllowed then do
    let s ← s.dropKey
    let required := !s.inFlow && s.indent == c.column
    return { s with keyStart := some {
      required, tokens := s.tokens.length, line := c.line, column := c.column, index := c.index } }
  else .ok s

/-! ## One token -/

/-- Blanks, comments and line breaks. A new line in a block may start with a key. Tabs count as
blanks where they cannot be taken for indentation. A byte order mark may come first, and takes a
column of the first line. -/
def skipToToken (s : Scanner) (c : Cursor) : Except Error (Scanner × Cursor) :=
  c.loop (fun (s : Scanner) c ↦
    let c := if c.index == 0 && c.peek == some '\ufeff' then c.skip else c
    let c := c.skipWhile fun ch ↦ ch == ' ' || (ch == '\t' && (s.inFlow || !s.keyAllowed))
    let c := if c.peek == some '#' then c.skipWhile (fun ch ↦ !isBreak ch) else c
    if c.peek.any isBreak then
      .ok (.inl (if s.inFlow then s else { s with keyAllowed := true }, c.skipLine))
    else .ok (.inr (s, c))) s

/-- A mark that stands for itself and may be followed by a key or not. -/
def mark (s : Scanner) (c : Cursor) (t : Token) (length : Nat) (keyAllowed : Bool) :
    Scanner × Cursor :=
  ({ s.push t with keyAllowed }, c.skip length)

/-- The mark of a document's start or end. -/
def documentMark (s : Scanner) (c : Cursor) : Except Error (Scanner × Cursor) := do
  let s ← (s.closeBlocks (-1)).dropKey
  return s.mark c (if c.peek == some '-' then .documentStart else .documentEnd) 3 false

/-- A directive. -/
def directive (s : Scanner) (c : Cursor) : Except Error (Scanner × Cursor) := do
  let s ← (s.closeBlocks (-1)).dropKey
  let (d, c) ← readDirective c
  return ({ s.push (.directive d) with keyAllowed := false }, c)

/-- The opening bracket of a flow collection. -/
def openFlow (s : Scanner) (c : Cursor) (t : Token) : Except Error (Scanner × Cursor) := do
  let s ← s.markKey c
  return { s with keyStart := none, outerKeys := s.keyStart :: s.outerKeys }.mark c t 1 true

/-- The closing bracket of a flow collection. -/
def closeFlow (s : Scanner) (c : Cursor) (t : Token) : Except Error (Scanner × Cursor) := do
  let s ← s.dropKey
  let s := match s.outerKeys with
    | [] => s
    | k :: ks => { s with keyStart := k, outerKeys := ks }
  return s.mark c t 1 false

/-- The comma of a flow collection. -/
def flowEntry (s : Scanner) (c : Cursor) : Except Error (Scanner × Cursor) := do
  return (← s.dropKey).mark c .flowEntry 1 true

/-- The dash of a block sequence. -/
def blockEntry (s : Scanner) (c : Cursor) : Except Error (Scanner × Cursor) := do
  if !s.inFlow && !s.keyAllowed then .error .misplacedEntry
  else
    let s ← (s.openBlock c.column s.tokens.length .blockSequenceStart).dropKey
    return s.mark c .blockEntry 1 true

/-- The question mark before a key. -/
def keyMark (s : Scanner) (c : Cursor) : Except Error (Scanner × Cursor) := do
  if !s.inFlow && !s.keyAllowed then .error .misplacedKey
  else
    let s ← (s.openBlock c.column s.tokens.length .blockMappingStart).dropKey
    return s.mark c .key 1 (!s.inFlow)

/-- The colon before a value. It turns what may have been a key into one. -/
def valueMark (s : Scanner) (c : Cursor) : Except Error (Scanner × Cursor) :=
  match s.keyStart with
  | some k =>
    let s := (s.insertAt k.tokens [.key]).openBlock k.column k.tokens .blockMappingStart
    .ok ({ s with keyStart := none }.mark c .value 1 false)
  | none =>
    if !s.inFlow && !s.keyAllowed then .error .misplacedValue
    else
      let s := s.openBlock c.column s.tokens.length .blockMappingStart
      .ok (s.mark c .value 1 (!s.inFlow))

/-- A token that may be a key or start one. -/
def keyToken (s : Scanner) (c : Cursor) (read : Cursor → Except Error (Token × Cursor)) :
    Except Error (Scanner × Cursor) := do
  let s ← s.markKey c
  let (t, c) ← read c
  return ({ s.push t with keyAllowed := false }, c)

/-- A block scalar. -/
def blockScalar (s : Scanner) (c : Cursor) (folded : Bool) : Except Error (Scanner × Cursor) := do
  let s ← s.dropKey
  let (text, c) ← readBlock folded s.indent c
  return ({ s.push (.scalar (if folded then .folded else .literal) text) with
    keyAllowed := true }, c)

/-- A plain scalar. -/
def plainScalar (s : Scanner) (c : Cursor) : Except Error (Scanner × Cursor) := do
  let s ← s.markKey c
  let ((text, broken), c) ← readPlain s.inFlow (s.indent + 1).toNat c
  return ({ s.push (.scalar .plain text) with keyAllowed := broken }, c)

/-- Whether a plain scalar may start with the character at the cursor. -/
def startsPlain (s : Scanner) (c : Cursor) (ch : Char) : Bool :=
  if ch == '-' then !(c.peekAt 1).any isBlank
  else if ch == '?' || ch == ':' then !s.inFlow && !endsWord (c.peekAt 1)
  else !(isFlowIndicator ch || isBlank ch ||
    ch ∈ ['#', '&', '*', '!', '|', '>', '\'', '"', '%', '@', '\x60'])

/-- The token at the cursor, which stands on the given character. -/
def nextToken (s : Scanner) (c : Cursor) (ch : Char) : Except Error (Scanner × Cursor) :=
  let alone := endsWord (c.peekAt 1)
  if c.column == 0 && ch == '%' then s.directive c
  else if c.atDocumentMark then s.documentMark c
  else if ch == '[' then s.openFlow c .flowSequenceStart
  else if ch == '\x7b' then s.openFlow c .flowMappingStart
  else if ch == ']' then s.closeFlow c .flowSequenceEnd
  else if ch == '\x7d' then s.closeFlow c .flowMappingEnd
  else if ch == ',' then s.flowEntry c
  else if ch == '-' && alone then s.blockEntry c
  else if ch == '?' && (s.inFlow || alone) then s.keyMark c
  else if ch == ':' && (s.inFlow || alone) then s.valueMark c
  else if ch == '*' then s.keyToken c fun c ↦ do
    let (name, c) ← readAnchor c
    return (.alias name, c)
  else if ch == '&' then s.keyToken c fun c ↦ do
    let (name, c) ← readAnchor c
    return (.anchor name, c)
  else if ch == '!' then s.keyToken c fun c ↦ do
    let (t, c) ← readTag s.inFlow c
    return (.tag t, c)
  else if ch == '|' && !s.inFlow then s.blockScalar c false
  else if ch == '>' && !s.inFlow then s.blockScalar c true
  else if ch == '\'' then s.keyToken c fun c ↦ do
    let (text, c) ← readQuoted true c
    return (.scalar .singleQuoted text, c)
  else if ch == '"' then s.keyToken c fun c ↦ do
    let (text, c) ← readQuoted false c
    return (.scalar .doubleQuoted text, c)
  else if s.startsPlain c ch then s.plainScalar c
  else .error .badStart

end Scanner

/-! ## The whole stream -/

/-- The tokens of a stream in order. -/
def tokens (text : String) : Except Error (List Token) :=
  let chars := text.toList
  if !chars.all isAllowed then .error .controlCharacter
  else
    (Cursor.start chars).loop (fun (s : Scanner) c ↦ do
      let (s, c) ← s.skipToToken c
      let s ← s.refreshKeys c
      let s := s.closeBlocks c.column
      match c.peek with
      | none =>
        let s ← (s.closeBlocks (-1)).dropKey
        return .inr (s.push .streamEnd).tokens.reverse
      | some ch =>
        let (s, c) ← s.nextToken c ch
        return .inl (s, c)) {}

end Cookery.Yaml
