import Std.Data.TreeMap
import Warden.Error
import Warden.Rbac.Role
import Warden.Yaml.Parse
import Warden.Yaml.Decode
/-!
# Role documents

A role document maps keys to roles:

```
roles:
  player:
    name: user
    permissions:
      - path: /me
        methods: [GET]
```

A role must give its `name`; `description` (empty), `permissions` and
`inherits` (none) may be left out, and so may a permission's `methods`.
Keys are kept in sorted order, and a key given twice keeps its last role.
-/

namespace Warden.Rbac

open Warden.Yaml

/-- The roles of a document, by key in sorted order. -/
structure Document where
  roles : Std.TreeMap String Role

namespace Document
/-- A text field. -/
def textOf (t : Tree) (n : Node) : Except String String :=
  match t.text? n with
  | some s => .ok s
  | none => .error "expected a text"

/-- A list field, read item by item. -/
def listOf (t : Tree) (f : Node → Except String α) (n : Node) : Except String (List α) :=
  match t.items? n with
  | some xs => xs.mapM f
  | none => .error "expected a list"

/-- An optional field with its default. -/
def withDefault (f : Node → Except String α) (d : α) : Option Node → Except String α
  | some n => f n
  | none => .ok d

def permissionOf (t : Tree) (n : Node) : Except String Permission := do
  match ← t.fields? n ["path", "methods"] with
  | [path, methods] =>
    let some p := path | .error "missing field path"
    return { path := ← textOf t p, methods := ← withDefault (listOf t (textOf t)) [] methods }
  | _ => .error "expected a permission"

def roleOf (t : Tree) (n : Node) : Except String Role := do
  match ← t.fields? n ["name", "description", "permissions", "inherits"] with
  | [name, description, permissions, inherits] =>
    let some nm := name | .error "missing field name"
    return { name := ← textOf t nm,
             description := ← withDefault (textOf t) "" description,
             permissions := ← withDefault (listOf t (permissionOf t)) [] permissions,
             inherits := ← withDefault (listOf t (textOf t)) [] inherits }
  | _ => .error "expected a role"

/-- The document a YAML document describes. -/
def ofTree (t : Tree) : Except String Document := do
  match ← t.fields? t.root ["roles"] with
  | [some rs] =>
    let some es := t.entries? rs | .error "expected a mapping of roles"
    let roles ← es.foldlM (fun (m : Std.TreeMap String Role) (k, v) => do
      let some key := t.text? k | .error "a role key must be a text"
      return m.insert key (← roleOf t v)) ∅
    return ⟨roles⟩
  | _ => return ⟨∅⟩

/-- The document of a YAML text; a text with no document has no roles. Any
    failure to read is reported as the one configuration error of role
    documents. -/
def ofYaml (text : String) : Outcome Document :=
  match (read text).bind fun doc => match doc with
    | none => .ok ⟨∅⟩
    | some t => ofTree t with
  | .ok d => .ok d
  | .error _ => .error (.config "角色定义解析失败")


end Document

end Warden.Rbac
