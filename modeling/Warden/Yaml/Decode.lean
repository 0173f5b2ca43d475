import Warden.Yaml.Node
/-!
# Reading typed values from YAML nodes

The rules by which a node of a document is read as a text, a list, a
mapping or a record. An alias is first replaced by the node it names.

* any scalar is a text, whatever it looks like (`123` and `~` are texts);
* a list is a sequence, or the empty value;
* a mapping is a mapping, or the empty value; a later entry with the same
  key replaces an earlier one where the caller builds a map;
* a record is a mapping whose keys are texts (unknown keys are ignored and a
  known key may appear once), or the empty value.
-/

namespace Warden.Yaml.Tree

/-- The text of a scalar. -/
def text? (t : Tree) (n : Node) : Option String :=
  match t.resolve n with
  | some (.scalar s _) => some s
  | _ => none

/-- The items of a node read as a list. -/
def items? (t : Tree) (n : Node) : Option (List Node) :=
  match t.resolve n with
  | some (.seq xs) => some xs
  | some m => if m.isEmpty then some [] else none
  | none => none

/-- The entries of a node read as a mapping. -/
def entries? (t : Tree) (n : Node) : Option (List (Node × Node)) :=
  match t.resolve n with
  | some (.map es) => some es
  | some m => if m.isEmpty then some [] else none
  | none => none

/-- Sets field `i` of a partial record, refusing a field set twice. -/
def setField (fs : List (Option Node)) (i : Nat) (v : Node) : Except String (List (Option Node)) :=
  match fs[i]? with
  | some (some _) => .error "duplicate field"
  | _ => .ok (fs.set i (some v))

/-- The fields of a record with the given field names, in their order;
    `none` for a field the node does not give. -/
def fields? (t : Tree) (n : Node) (names : List String) : Except String (List (Option Node)) :=
  let none₀ : List (Option Node) := names.map fun _ => none
  match t.resolve n with
  | some (.map es) =>
    es.foldlM (fun fs (k, v) =>
      match t.text? k with
      | none => .error "a field name must be a text"
      | some key =>
        match names.idxOf? key with
        | some i => setField fs i v
        | none => .ok fs) none₀
  | some m => if m.isEmpty then .ok none₀ else .error "expected a record"
  | none => .error "unknown anchor"

end Warden.Yaml.Tree
