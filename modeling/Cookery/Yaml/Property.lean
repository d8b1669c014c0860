import Cookery.Text.Hex
import Cookery.Yaml.Basic

/-!
# Anchors, tags and directives

The marks that may stand before a node, `&name`, `*name` and `!tag`, and the directives that may
stand before a document. A tag is read as a handle and a suffix; which prefix a handle stands for is
settled later, because directives can change it.
-/

namespace Cookery.Yaml

/-! ## Anchors -/

/-- The name of an anchor or alias, from its mark on. -/
def readAnchor (c : Cursor) : Except Error (String × Cursor) :=
  let name := c.skip.run isNameChar
  let c := c.skip.skip name.length
  let ends := endsWord c.peek || c.peek.any fun ch ↦
    ch == '?' || ch == ':' || ch == ',' || ch == ']' || ch == '\x7d' || ch == '%' || ch == '@' ||
      ch == '\x60'
  if name.isEmpty || !ends then .error .badAnchor else .ok (String.ofList name, c)

/-! ## Tags -/

/-- A tag as it is written. -/
structure TagText where
  handle : String
  suffix : String
deriving DecidableEq

/-- The characters of a tag. A verbatim tag also holds some that end other tags. -/
def isTagChar (verbatim : Bool) (c : Char) : Bool :=
  isNameChar c || c ∈ [';', '/', '?', ':', '@', '&', '=', '+', '$', '.', '!', '~', '*', '\'', '(',
    ')'] || (verbatim && (c == ',' || c == '[' || c == ']'))

/-- One byte that is written as a percent sign and two hexadecimal digits. -/
def readByte? (c : Cursor) : Option UInt8 :=
  match c.rest with
  | '%' :: a :: b :: _ => (Text.readDigits? 16 [a, b]).map UInt8.ofNat
  | _ => none

/-- How many bytes the encoding of a character has that starts with the given byte. -/
def encodedLength? (b : UInt8) : Option Nat :=
  if b < 0x80 then some 1
  else if b &&& 0xE0 == 0xC0 then some 2
  else if b &&& 0xF0 == 0xE0 then some 3
  else if b &&& 0xF8 == 0xF0 then some 4
  else none

/-- A character whose bytes are written one by one. -/
def readEncoded (c : Cursor) : Except Error (List Char × Cursor) :=
  match (readByte? c).bind encodedLength? with
  | none => .error .badTag
  | some n =>
    match (List.range n).mapM fun i ↦ readByte? (c.skip (3 * i)) with
    | none => .error .badTag
    | some bytes =>
      match String.fromUTF8? ⟨bytes.toArray⟩ with
      | none => .error .badTag
      | some s => .ok (s.toList, c.skip (3 * n))

/-- The characters of a tag from here on. -/
def readTagChars (verbatim : Bool) (c : Cursor) : Except Error (List Char × Cursor) :=
  c.loop (fun (acc : List Char) c ↦
    match c.peek with
    | some '%' => do
      let (chars, c) ← readEncoded c
      return .inl (acc ++ chars, c)
    | some ch =>
      if isTagChar verbatim ch then .ok (.inl (acc ++ [ch], c.skip)) else .ok (.inr (acc, c))
    | none => .ok (.inr (acc, c))) []

/-- A handle: `!`, `!!` or `!name!`; without the second mark, `!` and the name. -/
def readHandle (c : Cursor) : List Char × Cursor :=
  let name := c.skip.run isNameChar
  let c := c.skip.skip name.length
  if c.peek == some '!' then ('!' :: name ++ ['!'], c.skip) else ('!' :: name, c)

/-- A tag, from its mark on. -/
def readTag (flow : Bool) (c : Cursor) : Except Error (TagText × Cursor) := do
  let (tag, c) ←
    if c.peekAt 1 == some '<' then do
      let (suffix, c) ← readTagChars true (c.skip 2)
      if suffix.isEmpty || c.peek != some '>' then .error .badTag
      else pure ((⟨"", String.ofList suffix⟩ : TagText), c.skip)
    else do
      let (handle, c) := readHandle c
      if 1 < handle.length && handle.getLast? == some '!' then
        let (suffix, c) ← readTagChars false c
        if suffix.isEmpty then .error .badTag
        else pure ((⟨String.ofList handle, String.ofList suffix⟩ : TagText), c)
      else
        let (more, c) ← readTagChars false c
        let suffix := handle.drop 1 ++ more
        if suffix.isEmpty then pure ((⟨"", "!"⟩ : TagText), c)
        else pure ((⟨"!", String.ofList suffix⟩ : TagText), c)
  if endsWord c.peek || (flow && c.peek == some ',') then return (tag, c) else .error .badTag

/-! ## Directives -/

/-- A directive. -/
inductive Directive where
  | version (major minor : Nat)
  | tag (handle tagPrefix : String)
deriving DecidableEq

/-- A part of a version number. -/
def readVersionPart (c : Cursor) : Except Error (Nat × Cursor) :=
  let digits := c.run Char.isDigit
  match Text.readDigits? 10 digits with
  | some n => if digits.length ≤ 9 then .ok (n, c.skip digits.length) else .error .badDirective
  | none => .error .badDirective

/-- The version after the name of a version directive. -/
def readVersion (c : Cursor) : Except Error (Directive × Cursor) := do
  let (major, c) ← readVersionPart (c.skipWhile isBlank)
  if c.peek == some '.' then
    let (minor, c) ← readVersionPart c.skip
    return (.version major minor, c)
  else .error .badDirective

/-- The handle and prefix after the name of a tag directive. -/
def readTagDirective (c : Cursor) : Except Error (Directive × Cursor) := do
  let c := c.skipWhile isBlank
  let (handle, c) := readHandle c
  let closed := handle == ['!'] || (1 < handle.length && handle.getLast? == some '!')
  if !closed || !c.peek.any isBlank then .error .badDirective
  else
    let (tagPrefix, c) ← readTagChars true (c.skipWhile isBlank)
    if tagPrefix.isEmpty || !endsWord c.peek then .error .badDirective
    else return (.tag (String.ofList handle) (String.ofList tagPrefix), c)

/-- A directive with the rest of its line, from its mark on. -/
def readDirective (c : Cursor) : Except Error (Directive × Cursor) := do
  let name := c.skip.run isNameChar
  let c := c.skip.skip name.length
  if !endsWord c.peek then .error .badDirective
  else
    let (directive, c) ←
      if name == "YAML".toList then readVersion c
      else if name == "TAG".toList then
        if (c.skipWhile isBlank).peek == some '!' then readTagDirective c else .error .badDirective
      else .error .badDirective
    let c := c.skipWhile isBlank
    let c := if c.peek == some '#' then c.skipWhile (fun ch ↦ !isBreak ch) else c
    if endsLine c.peek then return (directive, if c.peek.isSome then c.skipLine else c)
    else .error .badDirective

end Cookery.Yaml
