/-!
# TOML values and tables

A TOML document is a table of keys to values. Tables remember how they came
to be, because that decides what a later line may add to them:

* `implicit`: made on the way to a deeper header, and may still get its own;
* `header`: opened by `[name]` or by `[[name]]`;
* `dotted`: made by a dotted key such as `a.b = 1`;
* `inline`: written `{ ... }`, and closed for good.

An array made by `[[name]]` headers is an array of tables and grows with
each header; an array written `[ ... ]` is closed like an inline table.
-/

namespace Warden.Toml

/-- How a table came to be. -/
inductive Origin where
  | implicit
  | header
  | dotted
  | inline
  deriving DecidableEq, Repr

/-- A TOML value. Floats and date-times keep their text: nothing here
    computes with them. -/
inductive Value where
  | string (s : String)
  | integer (i : Int)
  | float (text : String)
  | boolean (b : Bool)
  | datetime (text : String)
  | array (items : List Value) (ofTables : Bool)
  | table (origin : Origin) (entries : List (String × Value))
  deriving Repr, Inhabited

/-- The entries of a table. -/
abbrev Entries := List (String × Value)

/-- Replaces the value of a key, or adds the key at the end. -/
def Entries.put (es : Entries) (k : String) (v : Value) : Entries :=
  if es.any (·.1 == k) then es.map fun e => if e.1 == k then (k, v) else e
  else es ++ [(k, v)]

/-- Which tables a walk may pass through: the first `fixed` steps follow
    tables that already exist; later steps create tables of origin
    `creating` and enter only those a line of that kind may extend. -/
structure Walk where
  fixed : Nat
  creating : Origin

/-- A walk may go through a table of this origin at this depth. -/
def Walk.enters (w : Walk) (depth : Nat) (o : Origin) : Bool :=
  if o == .inline then false
  else if depth < w.fixed then true
  else match w.creating with
    | .dotted => o == .implicit || o == .dotted
    | _ => true

/-- A walk may go into the last table of an array of tables at this depth. -/
def Walk.entersArray (w : Walk) (depth : Nat) : Bool :=
  depth < w.fixed || w.creating != .dotted

/-- Walks `path` down from a table's entries and replaces the value at its
    last key by `f` of what was there. -/
def update (w : Walk) (f : Option Value → Except String Value) :
    Nat → Entries → List String → Except String Entries
  | _, _, [] => .error "empty key"
  | _, es, [k] => do
    return es.put k (← f (es.lookup k))
  | depth, es, k :: rest =>
    match es.lookup k with
    | none => do
      let inner ← update w f (depth + 1) [] rest
      return es.put k (.table w.creating inner)
    | some (.table o inner) =>
      if w.enters depth o then do
        return es.put k (.table o (← update w f (depth + 1) inner rest))
      else .error "a table that cannot be extended"
    | some (.array items true) =>
      if w.entersArray depth then
        match items.getLast? with
        | some (.table o inner) => do
          let inner' ← update w f (depth + 1) inner rest
          return es.put k (.array (items.dropLast ++ [.table o inner']) true)
        | _ => .error "an array of tables without a table"
      else .error "a key into an array of tables"
    | some _ => .error "a key into a value that is no table"

end Warden.Toml
