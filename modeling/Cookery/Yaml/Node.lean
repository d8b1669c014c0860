import Cookery.Yaml.Token

/-!
# Nodes

`Document.parse?` reads the one document of a stream as a tree of nodes. Nodes may be empty: a key
without value, or a dash without entry, stands for an empty plain scalar. Aliases stay in the tree
and point to the nodes that carry the anchors.

An anchor may be used again for another node. An alias is known by the number of different anchors
that came before the one it names, and stands for the last node with that number.
-/

namespace Cookery.Yaml

/-- A node of a document. -/
inductive Node where
  | scalar (tag : Option String) (style : Style) (text : String)
  | sequence (tag : Option String) (items : List Node)
  | mapping (tag : Option String) (entries : List (Node × Node))
  | alias (id : Nat)

/-- A document. -/
structure Document where
  /-- The node, if the stream is not empty. -/
  root : Option Node := none
  /-- The nodes with anchors, by the numbers that aliases have; the last node of a number counts. -/
  anchored : List (Nat × Node) := []
  /-- How many events it takes to write the document: one for a scalar or alias, and two for a
  collection. -/
  events : Nat := 0

/-- The node that has no text. -/
def Node.empty : Node :=
  .scalar none .plain ""

/-- The state of the parser. -/
structure Composer where
  tokens : List Token
  /-- What the handles of tags stand for. -/
  handles : List (String × String) := []
  /-- The numbers of anchors. -/
  anchors : List (String × Nat) := []
  /-- Which node has a number: the number and the place of the node among those with anchors. -/
  owners : List (Nat × Nat) := []
  /-- How many nodes with anchors have been started. -/
  started : Nat := 0
  /-- The nodes with anchors that are complete, by their places. -/
  finished : List (Nat × Node) := []
  events : Nat := 0

namespace Composer

def size (p : Composer) : Nat :=
  p.tokens.length

def peek (p : Composer) : Option Token :=
  p.tokens.head?

def skip (p : Composer) : Composer :=
  { p with tokens := p.tokens.tail }

/-- Counts the events of a node. -/
def count (p : Composer) (n : Nat) : Composer :=
  { p with events := p.events + n }

/-- Runs a loop that consumes tokens. -/
def loop {σ α : Type} (step : σ → Composer → Except Error ((σ × Composer) ⊕ α)) (s : σ)
    (p : Composer) : Except Error α :=
  iterate (fun q ↦ q.2.size) Error.unexpectedToken (fun q ↦ step q.1 q.2) (s, p)

/-! ## Properties -/

/-- The anchor and the tag of a node. -/
structure Properties where
  anchor : Option String := none
  tag : Option TagText := none

/-- Reads an anchor and a tag, in either order. -/
def properties (p : Composer) : Properties × Composer :=
  match p.tokens with
  | .anchor a :: .tag t :: rest => (⟨some a, some t⟩, { p with tokens := rest })
  | .tag t :: .anchor a :: rest => (⟨some a, some t⟩, { p with tokens := rest })
  | .anchor a :: rest => (⟨some a, none⟩, { p with tokens := rest })
  | .tag t :: rest => (⟨none, some t⟩, { p with tokens := rest })
  | _ => ({}, p)

/-- The full name of a tag. -/
def fullTag (p : Composer) (t : TagText) : Except Error String :=
  if t.handle.isEmpty then .ok t.suffix
  else match p.handles.lookup t.handle with
    | some start => .ok (start ++ t.suffix)
    | none => .error .undefinedTagHandle

/-- Starts a node with an anchor: gives it a number and a place. -/
def start (p : Composer) (anchor : Option String) : Composer :=
  match anchor with
  | none => p
  | some a =>
    let id := p.anchors.length
    let others := p.anchors.filter (·.1 != a)
    { p with
      anchors := (a, id) :: others
      owners := (id, p.started) :: p.owners
      started := p.started + 1 }

/-- Completes the node that was started at a place. -/
def finish (p : Composer) (anchor : Option String) (place : Nat) (n : Node) : Composer :=
  if anchor.isSome then { p with finished := (place, n) :: p.finished } else p

/-! ## Collections

Each of these reads the entries of a collection after its opening mark, up to and including its
closing mark, with a function for the nodes inside. -/

/-- A function that reads a node. -/
abbrev NodeReader := Composer → Except Error (Node × Composer)

/-- A node, or the empty node if one of the given tokens comes next. -/
def nodeUnless (stops : List Token) (node : NodeReader) (p : Composer) :
    Except Error (Node × Composer) :=
  if p.peek.any (stops.contains ·) then .ok (.empty, p.count 1) else node p

/-- The entries of a block sequence. -/
def blockSequence (node : NodeReader) (p : Composer) : Except Error (List Node × Composer) :=
  p.loop (fun (acc : List Node) p ↦
    match p.peek with
    | some .blockEntry => do
      let (n, p) ← nodeUnless [.blockEntry, .blockEnd] node p.skip
      return .inl (n :: acc, p)
    | some .blockEnd => .ok (.inr (acc.reverse, p.skip))
    | _ => .error .unexpectedToken) []

/-- The entries of a sequence whose dashes stand at the indentation of the mapping around it. -/
def flatSequence (node : NodeReader) (p : Composer) : Except Error (List Node × Composer) :=
  p.loop (fun (acc : List Node) p ↦
    match p.peek with
    | some .blockEntry => do
      let (n, p) ← nodeUnless [.blockEntry, .key, .value, .blockEnd] node p.skip
      return .inl (n :: acc, p)
    | _ => .ok (.inr (acc.reverse, p))) []

/-- The value after a key, if there is one. -/
def valueAfter (stops : List Token) (node : NodeReader) (p : Composer) :
    Except Error (Node × Composer) :=
  if p.peek == some .value then nodeUnless stops node p.skip else .ok (.empty, p.count 1)

/-- The entries of a block mapping. -/
def blockMapping (node : NodeReader) (p : Composer) :
    Except Error (List (Node × Node) × Composer) :=
  p.loop (fun (acc : List (Node × Node)) p ↦
    match p.peek with
    | some .key => do
      let (k, p) ← nodeUnless [.key, .value, .blockEnd] node p.skip
      let (v, p) ← valueAfter [.key, .value, .blockEnd] node p
      return .inl ((k, v) :: acc, p)
    | some .blockEnd => .ok (.inr (acc.reverse, p.skip))
    | _ => .error .unexpectedToken) []

/-- Steps over the comma before an entry that is not the first. -/
def comma (first : Bool) (p : Composer) : Except Error Composer :=
  if first then .ok p
  else if p.peek == some .flowEntry then .ok p.skip
  else .error .unexpectedToken

/-- The only pair of a mapping that stands in a flow sequence without brackets, after the mark of
its key. -/
def singlePair (node : NodeReader) (p : Composer) : Except Error (Node × Composer) := do
  let stops := [Token.value, .flowEntry, .flowSequenceEnd]
  let (k, p) ←
    if p.peek.any (stops.contains ·) then .ok (Node.empty, p.skip.count 1) else node p
  let (v, p) ← valueAfter [.flowEntry, .flowSequenceEnd] node p
  return (.mapping none [(k, v)], p.count 2)

/-- The entries of a flow sequence. -/
def flowSequence (node : NodeReader) (p : Composer) : Except Error (List Node × Composer) :=
  p.loop (fun (acc : List Node) p ↦ do
    if p.peek == some .flowSequenceEnd then return .inr (acc.reverse, p.skip)
    else
      let p ← comma acc.isEmpty p
      match p.peek with
      | some .key =>
        let (n, p) ← singlePair node p.skip
        return .inl (n :: acc, p)
      | some .flowSequenceEnd => return .inr (acc.reverse, p.skip)
      | _ =>
        let (n, p) ← node p
        return .inl (n :: acc, p)) []

/-- The entries of a flow mapping. -/
def flowMapping (node : NodeReader) (p : Composer) :
    Except Error (List (Node × Node) × Composer) :=
  p.loop (fun (acc : List (Node × Node)) p ↦ do
    if p.peek == some .flowMappingEnd then return .inr (acc.reverse, p.skip)
    else
      let p ← comma acc.isEmpty p
      match p.peek with
      | some .key =>
        let (k, p) ← nodeUnless [.value, .flowEntry, .flowMappingEnd] node p.skip
        let (v, p) ← valueAfter [.flowEntry, .flowMappingEnd] node p
        return .inl ((k, v) :: acc, p)
      | some .flowMappingEnd => return .inr (acc.reverse, p.skip)
      | _ =>
        let (k, p) ← node p
        return .inl ((k, .empty) :: acc, p.count 1)) []

/-! ## Nodes -/

/-- Where a node stands, which decides the collections that may start there. -/
inductive Place where
  | flow
  | block
  /-- After a key of a block mapping, where a sequence needs no indentation. -/
  | entry
deriving DecidableEq

/-- Reads a node that nests collections at most `depth` deep. The tag `!` says nothing about a
scalar that is written out. -/
def node (depth : Nat) (place : Place) (p : Composer) : Except Error (Node × Composer) :=
  match p.peek with
  | some (.alias name) =>
    match p.anchors.lookup name with
    | some id => .ok (.alias id, p.skip.count 1)
    | none => .error .unknownAnchor
  | _ => do
    let (props, p) := p.properties
    let tag ← props.tag.mapM p.fullTag
    let spot := p.started
    let p := p.start props.anchor
    let (n, p) ←
      match depth, p.peek with
      | _, some (.scalar style text) =>
        .ok (Node.scalar (tag.filter (· != "!")) style text, p.skip.count 1)
      | depth + 1, some .blockEntry =>
        if place = .entry then do
          let (items, p) ← flatSequence (node depth .block) p
          pure (Node.sequence tag items, p.count 2)
        else if props.anchor.isSome || tag.isSome then
          .ok (Node.scalar tag .plain "", p.count 1)
        else .error .unexpectedToken
      | depth + 1, some .flowSequenceStart => do
        let (items, p) ← flowSequence (node depth .flow) p.skip
        pure (Node.sequence tag items, p.count 2)
      | depth + 1, some .flowMappingStart => do
        let (entries, p) ← flowMapping (node depth .flow) p.skip
        pure (Node.mapping tag entries, p.count 2)
      | depth + 1, some .blockSequenceStart =>
        if place = .flow then .error .unexpectedToken
        else do
          let (items, p) ← blockSequence (node depth .block) p.skip
          pure (Node.sequence tag items, p.count 2)
      | depth + 1, some .blockMappingStart =>
        if place = .flow then .error .unexpectedToken
        else do
          let (entries, p) ← blockMapping (node depth .entry) p.skip
          pure (Node.mapping tag entries, p.count 2)
      | depth, next =>
        let opens := next.any fun t ↦ t ∈ [Token.blockEntry, .flowSequenceStart,
          .flowMappingStart, .blockSequenceStart, .blockMappingStart]
        if depth = 0 && opens then .error .tooDeep
        else if props.anchor.isSome || tag.isSome then
          .ok (Node.scalar tag .plain "", p.count 1)
        else .error .unexpectedToken
    return (n, p.finish props.anchor spot n)

/-! ## Documents -/

/-- What handles stand for unless a directive says otherwise. -/
def standardHandles : List (String × String) :=
  [("!", "!"), ("!!", "tag:yaml.org,2002:")]

/-- The directives before a document: at most one version, which must be 1.1 or 1.2, and at most one
meaning for each handle. -/
def directives (p : Composer) : Except Error Composer :=
  p.loop (fun (version : Bool) p ↦
    match p.peek with
    | some (.directive (.version major minor)) =>
      if version || major ≠ 1 || (minor ≠ 1 && minor ≠ 2) then .error .badDirective
      else .ok (.inl (true, p.skip))
    | some (.directive (.tag handle tagPrefix)) =>
      if (p.handles.lookup handle).isSome then .error .badDirective
      else .ok (.inl (version, { p.skip with handles := (handle, tagPrefix) :: p.handles }))
    | _ => .ok (.inr { p with handles := p.handles ++ standardHandles })) false

/-- How deep the collections of a document may nest. -/
def maxDepth : Nat := 128

/-- The node of a document, which may be left out after an explicit start. -/
def documentNode (p : Composer) : Except Error (Option Node × Composer) := do
  match p.peek with
  | some .streamEnd => return (none, p)
  | some .documentStart | some (.directive _) =>
    let p ← p.directives
    if p.peek != some .documentStart then .error .missingDocumentStart
    else
      let p := p.skip
      let ends := p.peek.any fun t ↦ match t with
        | .documentStart | .documentEnd | .streamEnd | .directive _ => true
        | _ => false
      if ends then return (some .empty, p.count 1)
      else
        let (n, p) ← node maxDepth .block p
        return (some n, p)
  | _ =>
    let (n, p) ← node maxDepth .block { p with handles := standardHandles }
    return (some n, p)

/-- Whether nothing but ends of documents is left. -/
def isDone (p : Composer) : Bool :=
  p.tokens.dropWhile (· == .documentEnd) == [.streamEnd]

end Composer

/-- Reads a stream that holds at most one document. -/
def Document.parse (text : String) : Except Error Document := do
  let (root, p) ← Composer.documentNode { tokens := ← tokens text }
  if p.isDone then
    let anchored := p.owners.filterMap fun (id, spot) ↦ (p.finished.lookup spot).map (id, ·)
    return { root, anchored, events := p.events }
  else .error .severalDocuments

end Cookery.Yaml
