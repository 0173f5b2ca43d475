import Warden.Service.Ledger
import Warden.Token.Policy
import Warden.Token.Exchange
/-!
# Issuing tokens

A client gets an access token and a refresh token together. A fresh pair
starts a lineage: the refresh token stands for the subject as its user and
keeps the authentication time and methods of the request. Presenting a
refresh token again rotates the lineage (`rotate`): the old refresh token is
checked (it exists, is live, was issued to this client and for this
subject, in that order), then deleted, and a new pair is issued. The new
access token carries what the client asks for now; the new refresh token
keeps the subject, user, client, methods, audience and scopes of the old
one, so that a lineage never widens, and takes the request's authentication
time. A refresh token that has expired is deleted when it is presented.

Access tokens live as long as the policy gives their client, refresh tokens
and authorization codes as long as the policy gives them.

An authorization code is used once: consuming it deletes it, even when it
has expired and so is refused.
-/

namespace Warden.Service

open Warden.Token

/-- A pair of tokens just issued. -/
structure Issued where
  accessTokenId : String
  refreshToken : String
  expiration : Instant
  deriving DecidableEq, Repr

/-- An access token issued alone. -/
structure IssuedAccess where
  tokenId : String
  expiration : Instant
  deriving DecidableEq, Repr

/-- What a client learns about a refresh token it holds. -/
structure RefreshInfo where
  userId : String
  tokenId : String
  deriving DecidableEq, Repr

/-- A new access token for a request, possibly paired with a refresh token. -/
def newAccess (p : Policy) (r : TokenRequest) (refreshId : Option String) (now : Instant) :
    Op AccessToken := do
  return { id := ← freshId, clientId := r.clientId, subject := r.subject,
           refreshTokenId := refreshId, audience := r.audience, scopes := r.scopes,
           expiration := p.accessExpiry r.clientId now }

/-- Issues a pair that starts a new lineage. -/
def issueFresh (p : Policy) (r : TokenRequest) (now : Instant) : Op Issued := atomically do
  let refreshId ← freshId
  let access ← newAccess p r (some refreshId) now
  insertAccess access
  insertRefresh { id := refreshId, subject := r.subject, userId := r.subject,
                  clientId := r.clientId, authTime := r.authTime, amr := r.amr,
                  audience := r.audience, scopes := r.scopes,
                  expiration := p.refreshExpiry now }
  return ⟨access.id, refreshId, access.expiration⟩

/-- Issues the next pair of the lineage of the refresh token `presented`. -/
def rotate (p : Policy) (r : TokenRequest) (presented : String) (now : Instant) : Op Issued := do
  let some prev := Table.find? (← current).refresh presented
    | throw (.invalidRefreshToken "refresh token not found")
  if !prev.isActiveAt now then
    discard (deleteRefresh presented)
    throw (.invalidRefreshToken "refresh token expired")
  if prev.clientId != r.clientId then
    throw (.invalidRefreshToken "refresh token was not issued to this client")
  if prev.subject != r.subject then
    throw (.invalidRefreshToken "refresh token belongs to another subject")
  atomically do
    if (← deleteRefresh presented) == 0 then
      throw (.invalidRefreshToken "refresh token already used")
    let refreshId ← freshId
    let access ← newAccess p r (some refreshId) now
    insertAccess access
    insertRefresh { id := refreshId, subject := prev.subject, userId := prev.userId,
                    clientId := prev.clientId, authTime := r.authTime, amr := prev.amr,
                    audience := prev.audience, scopes := prev.scopes,
                    expiration := p.refreshExpiry now }
    return ⟨access.id, refreshId, access.expiration⟩

/-- Issues a pair: a fresh one, or the next of a lineage when a refresh
    token is presented. -/
def issue (p : Policy) (r : TokenRequest) (presented : Option String) (now : Instant) :
    Op Issued :=
  match presented with
  | none => issueFresh p r now
  | some t => rotate p r t now

/-- Issues an access token with no refresh token. -/
def issueAccessOnly (p : Policy) (r : TokenRequest) (now : Instant) : Op IssuedAccess :=
  atomically do
    let access ← newAccess p r none now
    insertAccess access
    return ⟨access.id, access.expiration⟩

/-- Issues the fresh pair an accepted exchange asks for. -/
def issueForExchange (p : Policy) (x : ExchangeRequest) (now : Instant) : Op Issued :=
  issueFresh p x.toTokenRequest now

/-- The request a live refresh token stands for. -/
def refreshRequest (s : Store) (token : String) (now : Instant) : Outcome RefreshRequest :=
  match Table.find? s.refresh token with
  | some t => if t.isActiveAt now then .ok t.toRequest
    else .error (.invalidRefreshToken "invalid refresh_token")
  | none => .error (.invalidRefreshToken "invalid refresh_token")

/-- Whose a refresh token is, for the client it was issued to; expiry is not
    checked. -/
def refreshInfo (s : Store) (client token : String) : Outcome RefreshInfo :=
  match Table.find? s.refresh token with
  | some t => if t.clientId == client then .ok ⟨t.userId, t.id⟩
    else .error (.invalidRefreshToken "invalid refresh_token")
  | none => .error (.invalidRefreshToken "invalid refresh_token")

/-- Saves an authorization code for the code lifetime. -/
def saveCode (p : Policy) (authRequestId code : String) (now : Instant) : Op Unit :=
  atomically do
    tryCatch (insertCode ⟨code, authRequestId, p.authCodeExpiry now⟩) fun _ =>
      throw (.serverError "failed to save auth code")

/-- Uses an authorization code: it is deleted, and refused if it expired. -/
def consumeCode (code : String) (now : Instant) : Op String := do
  let some stored := Table.find? (← current).codes code
    | throw (.accessDenied "auth code not found")
  discard (deleteCode code)
  if !stored.isValidAt now then throw (.accessDenied "auth code expired")
  return stored.authRequestId

end Warden.Service
