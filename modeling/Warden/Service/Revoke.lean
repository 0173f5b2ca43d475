import Warden.Service.Ledger
/-!
# Revoking tokens

A client revokes an access token it was issued; the refresh token it was
paired with goes too, if it is still there. Ending a user's session deletes
every access token whose subject is the user and every refresh token that
stands for the user, for all clients.
-/

namespace Warden.Service

/-- Revokes an access token issued to `client`, and the refresh token it was
    paired with. The subject given is not checked. -/
def revoke (tokenId _subject client : String) : Op Unit := do
  let some token := Table.find? (← current).access tokenId
    | throw (.accessDenied "token not found")
  if token.clientId != client then
    throw (.invalidClient "token was not issued for this client")
  atomically do
    discard (deleteAccess tokenId)
    if let some refreshId := token.refreshTokenId then
      discard (deleteRefresh refreshId)

/-- Ends every session of a user, at every client. -/
def terminate (userId _client : String) : Op Unit :=
  modifyStore fun s =>
    { s with access := (Table.eraseWhere s.access (·.subject == userId)).1
             refresh := (Table.eraseWhere s.refresh (·.userId == userId)).1 }

end Warden.Service
