import Warden.Service.Ledger
import Warden.User.Info
import Warden.Rbac.Graph
import Warden.Token.Exchange
/-!
# Profiles and permissions

What a client may learn about a user, and what a user may do.

A user id given as text must read as a 32-bit decimal, and name a stored
user: otherwise the user is not found. The claims about a user are those the
scopes allow (`UserInfo.project`); the subject claim is the id as it was
written. A token gives claims only while it is live, and introspecting a
token shows its scopes and client with the claims about the subject asked
for.

A user's permissions are those of the roles stored with them, gathered
through the role graph; an unknown user has none and is refused.
-/

namespace Warden.Service

open Warden.Token

/-- The stored user that a user id written as text names. -/
def loadUser (s : Store) (userId : String) : Outcome User :=
  match userIdOf? userId >>= s.user? with
  | some u => .ok u
  | none => .error (.accessDenied "user not found")

/-- The claims about a user that the scopes allow. -/
def userinfo (s : Store) (userId : String) (scopes : List String) : Outcome UserInfo := do
  return UserInfo.project (← loadUser s userId) userId scopes

/-- A live access token. -/
def liveToken (s : Store) (tokenId : String) (now : Instant) : Outcome AccessToken := do
  let some t := Table.find? s.access tokenId | throw (.accessDenied "token not found")
  if !t.isActiveAt now then throw (.accessDenied "token expired")
  return t

/-- The claims a live access token gives about its subject. -/
def userinfoOfToken (s : Store) (tokenId : String) (now : Instant) : Outcome UserInfo := do
  let t ← liveToken s tokenId now
  userinfo s t.subject t.scopes

/-- What introspecting an access token shows. -/
structure Introspection where
  active : Bool
  scope : List String
  clientId : String
  sub : String
  userinfo : UserInfo
  deriving Repr

/-- Introspects a live access token, with the claims about `subject`. -/
def introspect (s : Store) (tokenId subject : String) (now : Instant) : Outcome Introspection := do
  let t ← liveToken s tokenId now
  let info ← userinfo s subject t.scopes
  return { active := true, scope := t.scopes, clientId := t.clientId, sub := subject, userinfo := info }

/-- The claims an exchange shows about its subject. -/
def userinfoOfExchange (s : Store) (x : ExchangeRequest) : Outcome UserInfo :=
  userinfo s x.subject x.grantedScopes

/-- The roles stored with a user. -/
def rolesOf (s : Store) (userId : Int) : Outcome (List String) :=
  match s.user? userId with
  | some u => .ok u.roles
  | none => .error (.forbidden "user not found")

/-- The permissions a user's roles give. -/
def permissionsOf (g : Rbac.Graph) (s : Store) (userId : Int) : Outcome (List Rbac.Permission) := do
  return g.permissions (← rolesOf s userId)

end Warden.Service
