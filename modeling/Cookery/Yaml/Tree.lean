import Cookery.Yaml.Node

/-!
# Trees

`Document.expand` replaces the aliases of a document by what they stand for. Two bounds keep the
result small, also for an alias inside its own node: collections nest at most 128 deep, and at most
a hundred aliases are followed for each event of the document.
-/

namespace Cookery.Yaml

/-- A node without aliases. -/
inductive Tree where
  | scalar (tag : Option String) (style : Style) (text : String)
  | sequence (tag : Option String) (items : List Tree)
  | mapping (tag : Option String) (entries : List (Tree × Tree))

/-- The tree of a stream without document. -/
def Tree.empty : Tree :=
  .scalar none .plain ""

namespace Document

/-- The node that stands at a place: an alias stands for its node and takes one from the number of
aliases that may still be followed. -/
def follow (d : Document) (n : Node) : StateT Nat (Except Error) Node := do
  match n with
  | .alias id =>
    match ← get with
    | 0 => throw .tooManyAliases
    | budget + 1 =>
      set budget
      match d.anchored.lookup id with
      | some n => return n
      | none => throw .unknownAnchor
  | n => return n

/-- The tree of a node that nests collections at most `depth` deep. -/
def tree (d : Document) : Nat → Node → StateT Nat (Except Error) Tree
  | depth, n => do
    match depth, ← d.follow n with
    | _, .scalar tag style text => return .scalar tag style text
    | depth + 1, .sequence tag items =>
      return .sequence tag (← items.mapM fun n ↦ d.tree depth n)
    | depth + 1, .mapping tag entries =>
      return .mapping tag (← entries.mapM fun (k, v) ↦ do
        return (← d.tree depth k, ← d.tree depth v))
    | 0, .sequence _ _ => throw .tooDeep
    | 0, .mapping _ _ => throw .tooDeep
    | _, .alias _ => throw .unknownAnchor

/-- The document with its aliases replaced. -/
def expand (d : Document) : Except Error Tree :=
  match d.root with
  | none => .ok .empty
  | some n => (d.tree Composer.maxDepth n).run' (100 * d.events)

end Document

/-- Reads a stream that holds at most one document. -/
def Tree.parse (text : String) : Except Error Tree := do
  (← Document.parse text).expand

end Cookery.Yaml
