import Std.Data.TreeMap
import Warden.Error
import Warden.Rbac.Document
/-!
# The role graph

Loading a role document indexes its roles by name. Roles are taken in key
order; loading fails on the first role without a name, on the second role
that takes a name already used, and on inheritance that returns to a role
it started from. A parent that names no role is ignored everywhere.

Cycles are found by a depth-first walk over the roles in name order,
following parents in the order they are listed; the error names the cycle
from its first repeated role back to that role.

The permissions of some roles are collected depth-first as well: each role's
own permissions, then its parents', and a role already visited in the same
collection is skipped. Both walks carry fuel of one more than the number of
roles: a walk only goes deeper through a role it has not yet visited on its
way (or at all, for collection), so the fuel is never used up.
-/

namespace Warden.Rbac

/-- Roles indexed by name, and the name each document key stands for. -/
structure Graph where
  roles : Std.TreeMap String Role
  keys : Std.TreeMap String String

namespace Graph

-- ============================================================ cycles

/-- The text of a cycle found on a walk: the path from the repeated role
    on, then that role again. -/
def cycleText (path : List String) (name : String) : String :=
  " -> ".intercalate ((path.drop (path.idxOf name)) ++ [name])

/-- Walks from `name` with the roles on the current path; `done` holds the
    roles whose parents have all been walked. -/
def visit (g : Graph) : Nat → String → List String → List String → Except String (List String)
  | 0, _, _, done => .ok done
  | fuel + 1, name, path, done =>
    if done.contains name then .ok done
    else if path.contains name then .error (cycleText path name)
    else match g.roles.get? name with
      | none => .ok done
      | some role => do
        let done ← role.inherits.foldlM (fun d p => g.visit fuel p (path ++ [name]) d) done
        return done ++ [name]

/-- The first cycle met walking from every role in name order. -/
def findCycle (g : Graph) : Option String :=
  match g.roles.keys.foldlM (fun done name => g.visit (g.roles.size + 1) name [] done) [] with
  | .ok _ => none
  | .error c => some c

-- ============================================================ loading

/-- Indexes one role of a document under its name, and its key: a role with
    no name, or with a name already taken, is refused. -/
def indexRole (g : Graph) (key : String) (role : Role) : Outcome Graph :=
  if role.name.isEmpty then .error (.config ("角色 " ++ key ++ " 缺少 name"))
  else
    let keys := g.keys.insert key role.name
    if g.roles.contains role.name then .error (.config ("角色名重复: " ++ role.name))
    else .ok { roles := g.roles.insert role.name role, keys := keys }

/-- Indexes the roles of a document, in key order. -/
def index (d : Document) : Outcome Graph :=
  d.roles.foldlM indexRole ⟨∅, ∅⟩

/-- The graph of a document: its roles, indexed, with no inheritance cycle. -/
def load (d : Document) : Outcome Graph := do
  let g ← index d
  match g.findCycle with
  | some c => .error (.config ("角色继承存在循环: " ++ c))
  | none => .ok g

/-- The graph of a YAML role document. -/
def ofYaml (text : String) : Outcome Graph := do
  load (← Document.ofYaml text)

-- ============================================================ queries

/-- The role with a name. -/
def role? (g : Graph) (name : String) : Option Role := g.roles.get? name

/-- The role name a document key stands for. -/
def nameForKey? (g : Graph) (key : String) : Option String := g.keys.get? key

/-- All roles, in name order. -/
def list (g : Graph) : List Role := g.roles.values

/-- All role names, in order. -/
def names (g : Graph) : List String := g.roles.keys

/-- Collects the permissions reached from `name`, skipping roles in
    `visited`; answers the roles visited and the permissions, in order. -/
def collect (g : Graph) : Nat → String → List String × List Permission →
    List String × List Permission
  | 0, _, acc => acc
  | fuel + 1, name, (visited, out) =>
    match g.roles.get? name with
    | none => (visited, out)
    | some role =>
      if visited.contains name then (visited, out)
      else role.inherits.foldl (fun acc p => g.collect fuel p acc)
        (visited ++ [name], out ++ role.permissions)

/-- The permissions of some roles and all they inherit, each role once. -/
def permissions (g : Graph) (names : List String) : List Permission :=
  (names.foldl (fun acc n => g.collect (g.roles.size + 1) n acc) ([], [])).2

/-- Some permission reached from the roles allows the request. -/
def can (g : Graph) (names : List String) (path method : String) : Bool :=
  grantsAny (g.permissions names) path method

end Graph

end Warden.Rbac
