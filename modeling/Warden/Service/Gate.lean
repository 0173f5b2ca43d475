import Warden.Service.Ledger
import Warden.Token.Reference
/-!
# The gate

A client presents an access token as a reference: the token id and the
subject, sealed with the service's cipher. The gate opens the reference and
lets the request through only if it names a live access token of that
subject (`validate`). Its refusals, in the order it checks:

1. nothing was presented;
2. the reference does not open (`Refusal`);
3. what it holds is not `id:subject`;
4. no access token has the id;
5. the token has expired;
6. the token belongs to another subject.
-/

namespace Warden.Service

open Warden.Token

/-- A reference for an access token, sealed with a new nonce. -/
def encodeReference (c : Cipher) (tokenId subject : String) : Op String := do
  return c.encrypt (← freshNonce) (payload tokenId subject)

/-- What a presented reference lets through, or why not. -/
def validate (c : Cipher) (s : Store) (presented : String) (now : Instant) : Outcome Claims := do
  if presented.isEmpty then throw (.unauthorized "missing credential")
  let opened ← match c.decrypt presented with
    | .ok p => pure p
    | .error r => throw r.toError
  let some (tokenId, subject) := parsePayload? opened
    | throw (.unauthorized "invalid token format")
  let some token := Table.find? s.access tokenId
    | throw (.unauthorized "auth token not found")
  if !token.isActiveAt now then throw (.unauthorized "token expired")
  if token.subject != subject then throw (.unauthorized "subject mismatch")
  return { tokenId := token.id, subject := token.subject, scopes := token.scopes }

end Warden.Service
