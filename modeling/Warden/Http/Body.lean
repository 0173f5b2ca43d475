import Warden.Json.Value
import Warden.User.Info
import Warden.Rbac.Role
import Warden.Service.FirstParty
import Warden.Service.Profile
/-!
# Response bodies

The JSON the service sends for its values. A claim about a user that no
scope allows is left out, not written as `null`. A successful response wraps
its data, or a message, in an envelope with `success: true`; a refused one
names the kind of error by its code and a fixed description, so that a
client learns no more than the kind.
-/

namespace Warden

open Warden.Json

/-- The claims that are present, by their standard names. -/
def UserInfo.members (i : UserInfo) : List (String × Value) :=
  let text (k : String) (v : Option String) := (v.map fun x => [(k, Value.string x)]).getD []
  text "sub" i.sub ++ text "email" i.email ++
    (i.emailVerified.map fun b => [("email_verified", Value.bool b)]).getD [] ++
    text "preferred_username" i.preferredUsername ++ text "name" i.name ++
    text "family_name" i.familyName ++ text "given_name" i.givenName ++
    text "nickname" i.nickname ++ text "locale" i.locale ++ text "picture" i.picture

/-- The claims as a JSON object. -/
def UserInfo.toJson (i : UserInfo) : Value := .object i.members

/-- A permission as JSON. -/
def Rbac.Permission.toJson (p : Rbac.Permission) : Value :=
  .object [("path", .string p.path), ("methods", Value.strings p.methods)]

/-- A role as JSON. -/
def Rbac.Role.toJson (r : Rbac.Role) : Value :=
  .object [("name", .string r.name), ("description", .string r.description),
    ("permissions", .array (r.permissions.map Rbac.Permission.toJson)),
    ("inherits", Value.strings r.inherits)]

/-- A token set as JSON. -/
def Service.TokenSet.toJson (t : Service.TokenSet) : Value :=
  .object [("access_token", .string t.accessToken), ("refresh_token", .string t.refreshToken),
    ("token_type", .string t.tokenType), ("expires_in", .int t.expiresIn),
    ("scope", .string t.scope)]

/-- An introspection as JSON: the token's facts, then the claims. The
    subject claim, when present, is the subject already given. -/
def Service.Introspection.toJson (x : Service.Introspection) : Value :=
  .object ([("active", .bool x.active), ("scope", Value.strings x.scope),
    ("client_id", .string x.clientId), ("sub", .string x.sub)] ++
    x.userinfo.members.filter (·.1 != "sub"))

namespace Http

/-- A successful response carrying data. -/
def envelope (data : Value) : Value :=
  .object [("success", .bool true), ("data", data)]

/-- A successful response carrying a message. -/
def notice (message : String) : Value :=
  .object [("success", .bool true), ("message", .string message)]

/-- A refused request: the kind's code and its fixed description. -/
def refusal (e : Error) : Value :=
  .object [("error", .string e.kind.code), ("error_description", .string e.kind.publicDescription)]

end Http

end Warden
