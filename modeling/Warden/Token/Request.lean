import Warden.Error
import Warden.Text.Integer
/-!
# Token requests and claims

A `TokenRequest` is what issuing a token pair needs: whose tokens, for which
client, with which audience, scopes, authentication time and methods. A
refresh request is read back from a stored refresh token and may be narrowed
to the scopes a client asks for again (`RefreshRequest.narrow`): narrowing
keeps the granted scopes that are asked for, in their granted order, and
never adds one (`narrow_sublist`).

`Claims` are what the gate learns from a valid reference token. A subject
that is a 32-bit decimal is a user id (`Claims.userId`).

Instants are milliseconds from an origin.
-/

namespace Warden.Token

/-- A point in time, in milliseconds. -/
abbrev Instant := Int

/-- Milliseconds in a number of seconds. -/
def Instant.ofSeconds (s : Int) : Instant := s * 1000

/-- What a new token pair is issued for. -/
structure TokenRequest where
  subject : String
  clientId : String
  audience : List String
  scopes : List String
  authTime : Instant
  amr : List String
  deriving DecidableEq, Repr

/-- A refresh token read back as a request for a new pair. -/
structure RefreshRequest where
  tokenId : String
  subject : String
  userId : String
  clientId : String
  audience : List String
  scopes : List String
  authTime : Instant
  amr : List String
  deriving DecidableEq, Repr

namespace RefreshRequest

/-- Keeps the granted scopes that are asked for, in granted order. -/
def narrow (r : RefreshRequest) (requested : List String) : RefreshRequest :=
  { r with scopes := r.scopes.filter fun granted => requested.contains granted }

/-- The request for the next pair of the same lineage. -/
def toTokenRequest (r : RefreshRequest) : TokenRequest :=
  { subject := r.subject, clientId := r.clientId, audience := r.audience,
    scopes := r.scopes, authTime := r.authTime, amr := r.amr }

theorem narrow_sublist (r : RefreshRequest) (requested : List String) :
    (r.narrow requested).scopes.Sublist r.scopes :=
  List.filter_sublist

end RefreshRequest

-- ============================================================ claims

/-- What a valid reference token tells about its holder. -/
structure Claims where
  tokenId : String
  subject : String
  scopes : List String
  deriving DecidableEq, Repr

/-- The user id of a subject that is a 32-bit decimal. -/
def userIdOf? (subject : String) : Option Int :=
  Text.Integer.int32? subject

/-- The user id of the holder; a subject that is no 32-bit decimal is refused. -/
def Claims.userId (c : Claims) : Outcome Int :=
  match userIdOf? c.subject with
  | some u => .ok u
  | none => .error (.forbidden "subject is not a user id")

end Warden.Token
