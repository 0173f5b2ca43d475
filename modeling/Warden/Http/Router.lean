import Warden.Http.Body
import Warden.Http.MediaType
import Warden.Http.Cookie
import Warden.Http.Credential
import Warden.Json.Read
/-!
# The HTTP surface

The service answers six endpoints. A request is matched by its path first:
an unknown path is `404`, a known path with another method is `405`, and
neither runs any check. `GET` routes also answer `HEAD`, with the body
left out.

A guarded endpoint checks, in this order, before its handler runs:

1. a credential is presented, as a bearer token or in the session cookie;
2. the gate lets it through;
3. one of the endpoint's scopes is granted, when it names any;
4. the subject is a user id;
5. the user exists;
6. one of the user's permissions grants the route's template and the
   request's method.

Steps 4 to 6 apply only to endpoints that check roles. A refusal by the
library is answered with its kind's status and a JSON body that names the
kind; a body that cannot be read is refused as plain text: `415` when it
is not declared JSON, `400` when it is not JSON, `422` when it is JSON of
the wrong shape.
-/

namespace Warden.Http

open Warden.Service Warden.Token

-- ============================================================ messages

/-- A request as the router sees it. -/
structure Request where
  method : String
  path : String
  headers : Headers := []
  body : String := ""
  deriving Repr

/-- The body of a response. -/
inductive Body where
  | empty
  | text (t : String)
  | json (v : Json.Value)

/-- A response: its status, content type, cookies set and body. -/
structure Response where
  status : Nat
  contentType : Option String
  setCookie : List String := []
  body : Body

/-- A successful JSON response. -/
def Response.ok (v : Json.Value) (cookies : List String) : Response :=
  { status := 200, contentType := some "application/json", setCookie := cookies, body := .json v }

/-- A library refusal: the kind's status and a body naming the kind. -/
def Response.ofError (e : Error) : Response :=
  { status := e.kind.status, contentType := some "application/json", body := .json (refusal e) }

/-- A refusal in plain text, before any handler runs. -/
def Response.plain (status : Nat) (t : String) : Response :=
  { status, contentType := some "text/plain; charset=utf-8", body := .text t }

/-- A response with no body and no content type. -/
def Response.bare (status : Nat) : Response :=
  { status, contentType := none, body := .empty }

/-- A response as sent for a method: a `HEAD` request gets it without its
    body. -/
def Response.forMethod (r : Response) (method : String) : Response :=
  if method == "HEAD" then { r with body := .empty } else r

-- ============================================================ endpoints

/-- What a route needs before its handler runs. -/
inductive Guard where
  /-- nothing -/
  | anyone
  /-- a valid credential with one of the scopes -/
  | signedIn (scopes : List String)
  /-- that, and a user whose roles grant the route -/
  | permitted (scopes : List String)
  deriving DecidableEq, Repr

/-- The endpoints of the service. -/
inductive Endpoint where
  | health
  | me
  | myPermissions
  | roles
  | refresh
  | logout
  deriving DecidableEq, Repr

namespace Endpoint

/-- Every endpoint, in routing order. -/
def all : List Endpoint := [health, me, myPermissions, roles, refresh, logout]

/-- The path an endpoint answers, which is also its template for permissions. -/
def template : Endpoint → String
  | health => "/health"
  | me => "/me"
  | myPermissions => "/me/permissions"
  | roles => "/roles"
  | refresh => "/auth/refresh"
  | logout => "/auth/logout"

/-- The method an endpoint answers. -/
def method : Endpoint → String
  | refresh => "POST"
  | _ => "GET"

/-- What an endpoint checks first. -/
def guard : Endpoint → Guard
  | health | refresh => .anyone
  | me => .permitted [Scope.openid, Scope.profile]
  | myPermissions | roles => .permitted [Scope.profile]
  | logout => .signedIn [Scope.security]

/-- The endpoint answers a method: its own, and `HEAD` for `GET`. -/
def accepts (e : Endpoint) (m : String) : Bool :=
  m == e.method || (e.method == "GET" && m == "HEAD")

end Endpoint

/-- The path of a request target: a fragment is dropped, then the query; an
    absolute target (`http://host/path`) gives the path after its authority,
    and an empty path is `/`. -/
def pathOf (target : String) : String :=
  let noFragment := String.ofList (target.toList.takeWhile (· != '#'))
  let pathAndQuery :=
    if noFragment.startsWith "/" then noFragment
    else match noFragment.splitOn "://" with
      | _ :: rest@(_ :: _) =>
        String.ofList (("://".intercalate rest).toList.dropWhile fun c => c != '/' && c != '?')
      | _ => noFragment
  let path := String.ofList (pathAndQuery.toList.takeWhile (· != '?'))
  if path.isEmpty then "/" else path

-- ============================================================ checks

/-- What the guard of a route found out about the caller. -/
structure Pass where
  claims : Option Claims := none
  permissions : List Rbac.Permission := []

/-- Checks the credential of a request, and the scopes when any are named. -/
def authenticate (ctx : Context) (req : Request) (scopes : List String) (now : Instant) :
    Op Claims := do
  let some presented := credential req.headers ctx.config.auth.cookie.name
    | throw (.unauthorized "missing credential")
  let claims ← ofOutcome (validate ctx.cipher (← current) presented now)
  if !scopes.isEmpty then ofOutcome (Scope.check claims.scopes scopes)
  return claims

/-- Checks that the caller's roles grant a template and method. -/
def authorize (ctx : Context) (claims : Claims) (template method : String) :
    Op (List Rbac.Permission) := do
  let userId ← ofOutcome claims.userId
  let perms ← ofOutcome (permissionsOf ctx.roles (← current) userId)
  if !Rbac.grantsAny perms template method then
    throw (.forbidden "permission denied")
  return perms

/-- Runs the guard of an endpoint: what it found out, or the refusal. -/
def screen (ctx : Context) (req : Request) (e : Endpoint) (now : Instant) : Op Pass :=
  match e.guard with
  | .anyone => return {}
  | .signedIn scopes => return { claims := some (← authenticate ctx req scopes now) }
  | .permitted scopes => do
    let claims ← authenticate ctx req scopes now
    return { claims := some claims,
             permissions := ← authorize ctx claims e.template req.method }

-- ============================================================ handlers

/-- The body of a refresh request is declared JSON. -/
def declaresJson (hs : Headers) : Bool :=
  match hs.get? "content-type" with
  | some v => visible v && ((MediaType.parse? v).map MediaType.isJson).getD false
  | none => false

/-- The refresh token a refresh request carries, or the plain refusal. -/
def refreshTokenOf (req : Request) : Except Response String :=
  if !declaresJson req.headers then
    .error (.plain 415 "Expected request with Content-Type: application/json")
  else
    match Json.readRecord ["refresh_token"] req.body with
    | .ok fields => .ok ((fields.lookup "refresh_token").getD "")
    | .error (.malformed what) =>
      .error (.plain 400 ("Failed to parse the request body as JSON: " ++ what))
    | .error (.wrongShape what) =>
      .error (.plain 422 ("Failed to deserialize the JSON body into the target type: " ++ what))

/-- The claims a guard has passed, for handlers behind one. -/
def claimsOf (p : Pass) : Op Claims :=
  match p.claims with
  | some c => return c
  | none => throw (.unauthorized "missing credential")

/-- Runs an endpoint's handler once its guard has passed; a write that
    waits for the write lock takes it `wait` milliseconds after `now`. -/
def handle (ctx : Context) (req : Request) (now : Instant) (wait : Nat) (p : Pass) :
    Endpoint → Op Response
  | .health => return .ok (envelope (.object [("status", .string "ok")])) []
  | .me => do
    let claims ← claimsOf p
    let info ← ofOutcome (userinfo (← current) claims.subject claims.scopes)
    return .ok (envelope info.toJson) []
  | .myPermissions => return .ok (envelope (.array (p.permissions.map Rbac.Permission.toJson))) []
  | .roles => return .ok (envelope (.array (ctx.roles.list.map Rbac.Role.toJson))) []
  | .refresh =>
    match refreshTokenOf req with
    | .error r => return r
    | .ok token => do
      let set ← refreshSession ctx token now (now + wait)
      let cookie ← ofOutcome (authCookie ctx.config.auth.cookie set.accessToken set.expiresIn)
      return .ok (envelope set.toJson) [cookie]
  | .logout => do
    logout ctx (← claimsOf p)
    let cookie ← ofOutcome (clearCookie ctx.config.auth.cookie)
    return .ok (notice "已退出登录") [cookie]

-- ============================================================ routing

/-- Answers one request that arrives at `now` and whose write, if it makes
    one, waits `wait` milliseconds for the write lock. Refusals become
    responses; the ledger keeps what the handler wrote before a refusal, as
    a store without transactions would. -/
def route (ctx : Context) (req : Request) (now : Instant) (wait : Nat) : Op Response := do
  let path := pathOf req.path
  match Endpoint.all.filter (·.template == path) with
  | [] => return .bare 404
  | candidates =>
    match candidates.find? (·.accepts req.method) with
    | none => return .bare 405
    | some e =>
      let r ← tryCatch (do handle ctx req now wait (← screen ctx req e now) e)
        fun err => return .ofError err
      return r.forMethod req.method

end Warden.Http
