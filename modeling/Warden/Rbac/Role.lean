import Warden.Rbac.Permission
/-!
# Roles

A role has a unique name, a description, its own permissions and the names
of the roles it inherits from. `Role.can` looks at the role's own
permissions only; what a role reaches through inheritance is the business
of the role graph (`Warden.Rbac.Graph`).
-/

namespace Warden.Rbac

/-- A named bundle of permissions with parent roles. -/
structure Role where
  name : String
  description : String
  permissions : List Permission
  inherits : List String
  deriving DecidableEq, Repr

/-- The role's own permissions allow the request. -/
def Role.can (r : Role) (path method : String) : Bool :=
  grantsAny r.permissions path method

end Warden.Rbac
