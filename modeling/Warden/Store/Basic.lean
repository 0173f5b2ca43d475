import Warden.User.Basic
import Warden.Token.Request
/-!
# The credential store

The service keeps four tables: users, access tokens, refresh tokens and
authorization codes. Every row has a key, and a table holds each key at
most once: inserting a row whose key is taken fails and leaves the table as
it was (`Table.insert?`). Deleting by key says how many rows went, zero or
one (`Table.erase`).

An access token may name the refresh token it was issued with; a refresh
token remembers whose it is (`subject`), the user it stands for (`userId`),
when that user authenticated and how. A token or code is live while the
present instant is before its expiration.

Users get the ids 1, 2, 3, … in the order they are added; a username is
unique.
-/

namespace Warden

open Warden.Token

-- ============================================================ rows

/-- A stored access token. -/
structure AccessToken where
  id : String
  clientId : String
  subject : String
  refreshTokenId : Option String
  audience : List String
  scopes : List String
  expiration : Instant
  deriving DecidableEq, Repr

/-- A stored refresh token. -/
structure RefreshToken where
  id : String
  subject : String
  userId : String
  clientId : String
  authTime : Instant
  amr : List String
  audience : List String
  scopes : List String
  expiration : Instant
  deriving DecidableEq, Repr

/-- A stored authorization code. -/
structure AuthCode where
  code : String
  authRequestId : String
  expiration : Instant
  deriving DecidableEq, Repr

/-- The token can still be used at `now`. -/
def AccessToken.isActiveAt (t : AccessToken) (now : Instant) : Bool := now < t.expiration

/-- The token can still be used at `now`. -/
def RefreshToken.isActiveAt (t : RefreshToken) (now : Instant) : Bool := now < t.expiration

/-- The code can still be used at `now`. -/
def AuthCode.isValidAt (c : AuthCode) (now : Instant) : Bool := now < c.expiration

/-- What a refresh token lets its holder ask for again. -/
def RefreshToken.toRequest (t : RefreshToken) : RefreshRequest :=
  { tokenId := t.id, subject := t.subject, userId := t.userId, clientId := t.clientId,
    audience := t.audience, scopes := t.scopes, authTime := t.authTime, amr := t.amr }

-- ============================================================ tables

/-- Rows with a key. -/
class Keyed (α : Type) where
  key : α → String

instance : Keyed AccessToken := ⟨AccessToken.id⟩
instance : Keyed RefreshToken := ⟨RefreshToken.id⟩
instance : Keyed AuthCode := ⟨AuthCode.code⟩

/-- The rows of a table, oldest first. -/
abbrev Table (α : Type) := List α

namespace Table

variable {α : Type} [Keyed α]

/-- The row with a key. -/
def find? (t : Table α) (k : String) : Option α :=
  List.find? (fun r => Keyed.key r == k) t

/-- Adds a row; `none` when its key is taken. -/
def insert? (t : Table α) (r : α) : Option (Table α) :=
  if (find? t (Keyed.key r)).isSome then none else some (t ++ [r])

/-- Removes the row with a key, and says how many rows went. -/
def erase (t : Table α) (k : String) : Table α × Nat :=
  let kept := t.filter fun r => Keyed.key r != k
  (kept, t.length - kept.length)

/-- Removes the rows that satisfy `p`, and says how many went. -/
def eraseWhere (t : Table α) (p : α → Bool) : Table α × Nat :=
  let kept := t.filter fun r => !p r
  (kept, t.length - kept.length)

/-- An inserted row is found by its key. -/
theorem find?_insert? {t t' : Table α} {r : α} (h : insert? t r = some t') :
    find? t' (Keyed.key r) = some r := by
  unfold insert? at h
  split at h
  · cases h
  · rename_i hn
    cases h
    have hnone : find? t (Keyed.key r) = none := by simpa using hn
    simp only [find?] at hnone ⊢
    rw [List.find?_append, hnone]
    simp

/-- After erasing a key, no row has it. -/
theorem find?_erase (t : Table α) (k : String) : find? (erase t k).1 k = none := by
  simp [find?, erase, List.find?_filter]

end Table

-- ============================================================ the store

/-- The four tables of the service. -/
structure Store where
  users : List User := []
  access : Table AccessToken := []
  refresh : Table RefreshToken := []
  codes : Table AuthCode := []
  deriving Repr

namespace Store

/-- The user with an id. -/
def user? (s : Store) (id : Int) : Option User := s.users.find? (·.id == id)

/-- Adds a user with the next id; `none` when the username is taken. -/
def addUser? (s : Store) (u : Int → User) : Option (Store × User) :=
  let user := u (s.users.length + 1)
  if s.users.any (·.username == user.username) then none
  else some ({ s with users := s.users ++ [user] }, user)

end Store

end Warden
