import Warden.Token.Request
/-!
# Token exchange

A client may trade a token it holds for another kind of token. The kinds
are named by URNs. An exchange that asks for no kind asks for a refresh
token, and an identity token cannot be traded for a refresh token. Once an
exchange is accepted, the scopes it asked for are the ones it will get
(`ExchangeRequest.validate`); the pair issued for it carries those scopes,
or the scopes of the request if none were set, and no authentication
methods (`ExchangeRequest.toTokenRequest`).
-/

namespace Warden.Token

/-- The kinds of token an exchange speaks of. -/
inductive TokenType where
  | accessToken
  | refreshToken
  | idToken
  | jwt
  deriving DecidableEq, Repr

namespace TokenType

/-- Every kind of token. -/
def all : List TokenType := [.accessToken, .refreshToken, .idToken, .jwt]

/-- The URN that names a kind of token. -/
def urn : TokenType → String
  | .accessToken => "urn:ietf:params:oauth:token-type:access_token"
  | .refreshToken => "urn:ietf:params:oauth:token-type:refresh_token"
  | .idToken => "urn:ietf:params:oauth:token-type:id_token"
  | .jwt => "urn:ietf:params:oauth:token-type:jwt"

/-- The kind of token a URN names. -/
def ofUrn? (s : String) : Option TokenType :=
  all.find? (·.urn == s)

theorem ofUrn?_urn : ∀ t : TokenType, ofUrn? t.urn = some t
  | .accessToken | .refreshToken | .idToken | .jwt => by decide

end TokenType

/-- A request to trade a token for another. -/
structure ExchangeRequest where
  clientId : String
  subject : String
  audience : List String
  scopes : List String
  authTime : Instant
  subjectTokenType : TokenType
  requestedTokenType : Option TokenType
  currentScopes : List String
  deriving DecidableEq, Repr

namespace ExchangeRequest

/-- Checks an exchange. The request comes back with the kind it asks for made
    explicit, and, when it is accepted, with the scopes it asked for as the
    ones it will get. -/
def validate (r : ExchangeRequest) : ExchangeRequest × Outcome Unit :=
  let requested := r.requestedTokenType.getD .refreshToken
  let r := { r with requestedTokenType := some requested }
  if r.subjectTokenType == .idToken && requested == .refreshToken then
    (r, .error (.invalidRequest "exchanging id_token to refresh_token is not supported"))
  else
    ({ r with currentScopes := r.scopes }, .ok ())

/-- The scopes the issued pair carries. -/
def grantedScopes (r : ExchangeRequest) : List String :=
  if r.currentScopes.isEmpty then r.scopes else r.currentScopes

/-- What the pair issued for an exchange is issued for. -/
def toTokenRequest (r : ExchangeRequest) : TokenRequest :=
  { subject := r.subject
    clientId := r.clientId
    audience := r.audience
    scopes := r.grantedScopes
    authTime := r.authTime
    amr := [] }

/-- The claims an exchange adds to the issued token beyond the standard
    ones: none. -/
def privateClaims (_ : ExchangeRequest) : List (String × String) := []

/-- A validated request always names the kind of token it asks for. -/
theorem validate_requested (r : ExchangeRequest) :
    (validate r).1.requestedTokenType = some (r.requestedTokenType.getD .refreshToken) := by
  simp only [validate]
  split <;> rfl

end ExchangeRequest

end Warden.Token
