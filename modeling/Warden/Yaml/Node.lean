/-!
# YAML nodes

A YAML document is a tree of scalars, sequences and mappings. A scalar keeps
its text after quoting is undone, and whether it was written plain: only a
plain scalar with no text stands for an empty collection (`key:` with no
value reads as an empty list or mapping, `key: ''` does not).

An alias stays a reference, by number, to the anchored node it names. A
document keeps its anchored nodes beside its tree, and an alias is followed
only where a value is read from it, so an alias under a key that nothing
reads is never followed.
-/

namespace Warden.Yaml

/-- A node of a YAML document. -/
inductive Node where
  | scalar (text : String) (plain : Bool)
  | seq (items : List Node)
  | map (entries : List (Node × Node))
  | alias (anchor : Nat)
  deriving Repr, Inhabited

namespace Node

/-- The empty value, as `key:` with nothing after it writes it. -/
def empty : Node := .scalar "" true

/-- A plain scalar with no text. -/
def isEmpty : Node → Bool
  | .scalar t p => p && t.isEmpty
  | _ => false

end Node

/-- An anchored node: the number its anchor name was given, the place of
    its start among the anchored nodes of the document, and the node. -/
structure Anchored where
  number : Nat
  start : Nat
  node : Node
  deriving Repr, Inhabited

/-- A document: its root and its anchored nodes. -/
structure Tree where
  root : Node
  anchored : List Anchored
  deriving Repr, Inhabited

namespace Tree

/-- The anchored node an anchor number stands for: of the nodes given that
    number, the one that starts last in the document. -/
def target (t : Tree) (k : Nat) : Option Node :=
  let pick (best : Option Anchored) (a : Anchored) : Option Anchored :=
    if a.number != k then best
    else match best with
      | some b => if b.start < a.start then some a else some b
      | none => some a
  (t.anchored.foldl pick none).map (·.node)

/-- The node a node stands for: an alias is replaced by the node it names. -/
def resolve (t : Tree) : Node → Option Node
  | .alias k => t.target k
  | n => some n

end Tree

end Warden.Yaml
