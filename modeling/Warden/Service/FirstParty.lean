import Warden.Service.Context
import Warden.Service.Issue
import Warden.Service.Revoke
import Warden.Service.Gate
import Warden.Token.Scope
/-!
# First-party sessions

The service's own front end signs users in without a consent step: a
session is a token pair for the built-in client, with every first-party
scope, the audience `*` and the configured authentication methods, handed
out as a `TokenSet` whose access token is a sealed reference.

Refreshing a session reads the stored refresh token (it must be live),
moves the request to the built-in client, and rotates the lineage; a refresh
token of another client is refused by the rotation. The read and the
rotation look at the clock apart: the rotation waits for the write lock
first, so it sees an instant `now` no earlier than the instant `readAt` of
the read, and a token that expires in between is deleted by the rotation's
expiry check. Logging out revokes the access token at the built-in client.

The lifetime a token set reports is the whole seconds left after the
instant of issue has passed, so a token that lives five minutes reports 299
seconds.
-/

namespace Warden.Service

open Warden.Token

/-- A session's tokens as the client receives them. -/
structure TokenSet where
  accessToken : String
  refreshToken : String
  tokenType : String
  expiresIn : Int
  scope : String
  deriving DecidableEq, Repr

/-- The token type of every token set. -/
def bearer : String := "Bearer"

/-- Whole seconds left until `expiration`, measured just after `now`. -/
def secondsLeft (expiration now : Instant) : Int :=
  (expiration - (now + 1)).tdiv 1000

/-- Continues with the value of an outcome, or fails with its error. -/
def ofOutcome : Outcome α → Op α
  | .ok a => pure a
  | .error e => throw e

/-- Signs a user in at the front end. -/
def issueSession (ctx : Context) (userId : Int) (now : Instant) : Op TokenSet := do
  let subject := toString userId
  let r : TokenRequest :=
    { subject, clientId := ctx.builtinClient, audience := [Scope.anyAudience],
      scopes := Scope.firstParty, authTime := now, amr := ctx.config.auth.amr }
  let issued ← issue ctx.policy r none now
  let reference ← encodeReference ctx.cipher issued.accessTokenId subject
  return { accessToken := reference, refreshToken := issued.refreshToken, tokenType := bearer,
           expiresIn := secondsLeft issued.expiration now,
           scope := " ".intercalate Scope.firstParty }

/-- Refreshes a front-end session with its refresh token: the token is read
    at `readAt`, and rotated at `now`, once the write lock is taken. -/
def refreshSession (ctx : Context) (token : String) (readAt now : Instant) : Op TokenSet := do
  let stored ← ofOutcome (refreshRequest (← current) token readAt)
  let r := { stored.toTokenRequest with clientId := ctx.builtinClient }
  let issued ← issue ctx.policy r (some token) now
  let reference ← encodeReference ctx.cipher issued.accessTokenId r.subject
  return { accessToken := reference, refreshToken := issued.refreshToken, tokenType := bearer,
           expiresIn := secondsLeft issued.expiration now, scope := " ".intercalate r.scopes }

/-- Logs a session out: its access token is revoked at the front end. -/
def logout (ctx : Context) (claims : Claims) : Op Unit :=
  revoke claims.tokenId claims.subject ctx.builtinClient

end Warden.Service
