import Cookery.Json.Number

/-!
# Reading JSON

A strict reader: no comments, no trailing commas, no raw controls in strings, no half of a
surrogate pair, and nothing but blanks after the value. Values nest at most 127 deep, and the reader
recurses on how much deeper they may get. A part of the text is read by a function that gives what
it read together with the rest of the text.
-/

namespace Cookery.Json

/-- The blanks of JSON. -/
def isBlank (c : Char) : Bool :=
  c == ' ' || c == '\n' || c == '\t' || c == '\r'

def skipBlanks (cs : List Char) : List Char :=
  cs.dropWhile isBlank

/-! ## Strings -/

/-- The number that four hexadecimal digits write. -/
def readHex4? : List Char → Option (Nat × List Char)
  | a :: b :: c :: d :: cs => (Text.readDigits? 16 [a, b, c, d]).map (·, cs)
  | _ => none

/-- The character after `\u`: one code unit, or a pair of surrogates. -/
def readUnit? (cs : List Char) : Option (Char × List Char) := do
  let (n, cs) ← readHex4? cs
  if 0xD800 ≤ n && n < 0xDC00 then
    match cs with
    | '\\' :: 'u' :: cs =>
      let (m, cs) ← readHex4? cs
      if 0xDC00 ≤ m && m < 0xE000 then
        some (Char.ofNat (0x10000 + (n - 0xD800) * 1024 + (m - 0xDC00)), cs)
      else none
    | _ => none
  else if 0xDC00 ≤ n && n < 0xE000 then none
  else some (Char.ofNat n, cs)

/-- The character that a backslash and a letter stand for. -/
def simpleEscape? : Char → Option Char
  | '"' => some '"'
  | '\\' => some '\\'
  | '/' => some '/'
  | 'b' => some '\x08'
  | 'f' => some '\x0c'
  | 'n' => some '\n'
  | 'r' => some '\r'
  | 't' => some '\t'
  | _ => none

/-- One character of a string. -/
def readChar? : List Char → Option (Char × List Char)
  | '\\' :: 'u' :: cs => readUnit? cs
  | '\\' :: c :: cs => (simpleEscape? c).map (·, cs)
  | c :: cs => if c.toNat < 0x20 then none else some (c, cs)
  | [] => none

theorem length_of_readHex4? {cs rest : List Char} {n : Nat} (h : readHex4? cs = some (n, rest)) :
    rest.length < cs.length := by
  unfold readHex4? at h
  split at h
  · obtain ⟨m, _, hm⟩ := Option.map_eq_some_iff.mp h
    cases hm
    simp only [List.length_cons]
    omega
  · cases h

theorem length_of_readUnit? {cs rest : List Char} {c : Char} (h : readUnit? cs = some (c, rest)) :
    rest.length < cs.length := by
  unfold readUnit? at h
  obtain ⟨⟨n, cs'⟩, hn, h⟩ := Option.bind_eq_some_iff.mp h
  have hlt := length_of_readHex4? hn
  simp only at h
  split at h
  · split at h
    · obtain ⟨⟨m, cs''⟩, hm, h⟩ := Option.bind_eq_some_iff.mp h
      have hlt' := length_of_readHex4? hm
      simp only at h
      split at h
      · simp only [Option.some.injEq, Prod.mk.injEq] at h
        obtain ⟨_, rfl⟩ := h
        simp only [List.length_cons] at hlt
        omega
      · cases h
    · cases h
  · split at h
    · cases h
    · cases h
      exact hlt

theorem length_of_readChar? {cs rest : List Char} {c : Char} (h : readChar? cs = some (c, rest)) :
    rest.length < cs.length := by
  unfold readChar? at h
  split at h
  · have hlt := length_of_readUnit? h
    simp only [List.length_cons]
    omega
  · obtain ⟨_, _, hc⟩ := Option.map_eq_some_iff.mp h
    cases hc
    simp only [List.length_cons]
    omega
  · split at h
    · cases h
    · cases h
      simp
  · cases h

/-- The characters of a string up to the closing quotation mark. -/
def readChars? (cs : List Char) : Option (List Char × List Char) :=
  match cs with
  | '"' :: rest => some ([], rest)
  | cs =>
    match _h : readChar? cs with
    | none => none
    | some (c, rest) => (readChars? rest).map fun (s, rest) ↦ (c :: s, rest)
termination_by cs.length
decreasing_by exact length_of_readChar? _h

/-- A string, from its opening quotation mark on. -/
def readString? : List Char → Option (String × List Char)
  | '"' :: cs => (readChars? cs).map fun (s, rest) ↦ (String.ofList s, rest)
  | _ => none

/-! ## Numbers -/

/-- The digits at the start of a text; at least one. -/
def readDigits1? (cs : List Char) : Option (List Char × List Char) :=
  match cs.takeWhile Char.isDigit with
  | [] => none
  | ds => some (ds, cs.dropWhile Char.isDigit)

/-- The digits before the point: no zero in front of others. -/
def readWhole? (cs : List Char) : Option (List Char × List Char) :=
  (readDigits1? cs).bind fun (ds, rest) ↦
    match ds with
    | '0' :: _ :: _ => none
    | ds => some (ds, rest)

/-- The fraction, if there is a point. -/
def readFraction? : List Char → Option (Option (List Char) × List Char)
  | '.' :: cs => (readDigits1? cs).map fun (ds, rest) ↦ (some ds, rest)
  | cs => some (none, cs)

/-- The exponent, if there is one. -/
def readExponent? (cs : List Char) : Option (Option Int × List Char) :=
  match cs with
  | c :: cs' =>
    if c = 'e' ∨ c = 'E' then
      let (negative, cs') := Binary64.splitSign cs'
      (readDigits1? cs').map fun (ds, rest) ↦
        let n := Binary64.readNat ds
        (some (if negative then -(n : Int) else n), rest)
    else some (none, cs)
  | [] => some (none, [])

/-- A number. -/
def readNumber? (cs : List Char) : Option (Json × List Char) := do
  let (negative, cs) := match cs with
    | '-' :: cs => (true, cs)
    | cs => (false, cs)
  let (whole, cs) ← readWhole? cs
  let (fraction, cs) ← readFraction? cs
  let (exponent, cs) ← readExponent? cs
  let v ← NumberText.value? ⟨negative, whole, fraction, exponent⟩
  return (v, cs)

/-! ## Values -/

/-- Entries between commas up to the closing bracket. -/
def readEntries? {α : Type} (entry : List Char → Option (α × List Char)) (closing : Char)
    (cs : List Char) : Option (List α × List Char) :=
  match entry cs with
  | none => none
  | some (v, rest) =>
    match skipBlanks rest with
    | [] => none
    | c :: rest =>
      if c = closing then some ([v], rest)
      else if c = ',' then
        if (skipBlanks rest).length < cs.length then
          (readEntries? entry closing (skipBlanks rest)).map fun (vs, rest) ↦ (v :: vs, rest)
        else none
      else none
termination_by cs.length

/-- What stands between brackets: nothing, or entries between commas. -/
def readBlock? {α : Type} (entry : List Char → Option (α × List Char)) (closing : Char)
    (cs : List Char) : Option (List α × List Char) :=
  match skipBlanks cs with
  | [] => none
  | c :: rest => if c = closing then some ([], rest) else readEntries? entry closing (c :: rest)

/-- A key, a colon and a value. -/
def readField? (value : List Char → Option (Json × List Char)) (cs : List Char) :
    Option ((String × Json) × List Char) := do
  let (key, cs) ← readString? cs
  match skipBlanks cs with
  | ':' :: cs =>
    let (v, cs) ← value (skipBlanks cs)
    return ((key, v), cs)
  | _ => none

/-- A value that may nest lists and objects less than `depth` deep. -/
def readValue? : Nat → List Char → Option (Json × List Char)
  | 0, _ => none
  | _, 'n' :: 'u' :: 'l' :: 'l' :: cs => some (.null, cs)
  | _, 't' :: 'r' :: 'u' :: 'e' :: cs => some (.bool true, cs)
  | _, 'f' :: 'a' :: 'l' :: 's' :: 'e' :: cs => some (.bool false, cs)
  | _, '"' :: cs => (readString? ('"' :: cs)).map fun (s, rest) ↦ (.str s, rest)
  | depth + 1, '[' :: cs =>
    if depth = 0 then none
    else (readBlock? (readValue? depth) ']' cs).map fun (items, rest) ↦ (.arr items, rest)
  | depth + 1, '\x7b' :: cs =>
    if depth = 0 then none
    else (readBlock? (readField? (readValue? depth)) '\x7d' cs).map fun (fields, rest) ↦
      (.obj fields, rest)
  | _, cs => readNumber? cs

/-- Reads a whole text as one value. -/
def parse? (text : String) : Option Json := do
  let (v, rest) ← readValue? 128 (skipBlanks text.toList)
  if (skipBlanks rest).isEmpty then some v else none

end Cookery.Json
