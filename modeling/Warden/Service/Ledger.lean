import Warden.Store.Basic
import Warden.Crypto.Bytes
/-!
# The service's state

Everything the service changes lives in a `Ledger`: the credential store,
and how many identifiers the service has drawn so far. An operation on the
ledger (`Op`) may fail with an `Error`; what it changed before failing
stays changed, unless it ran `atomically`, which puts the ledger back as it
was when the operation fails. Operations that must delete something even
when they then refuse, such as an expired refresh token, are written
outside `atomically`.

Token ids and refresh tokens are version-4 UUIDs and reference-token nonces
are twelve bytes. The service only needs each to be new, so both are drawn
from one counter (`freshId`, `freshNonce`).
-/

namespace Warden.Service

/-- The state the service changes. -/
structure Ledger where
  store : Store := {}
  draws : Nat := 0
  deriving Repr

/-- An operation on the ledger that may fail. -/
abbrev Op := ExceptT Error (StateM Ledger)

/-- The store as it is now. -/
def current : Op Store := return (← get).store

/-- Changes the store. -/
def modifyStore (f : Store → Store) : Op Unit :=
  modify fun l => { l with store := f l.store }

/-- Runs an operation as a whole: when it fails, the ledger is as before. -/
def atomically (op : Op α) : Op α := do
  let before ← get
  tryCatch op fun e => do
    set before
    throw e

-- ============================================================ identifiers

/-- Draws the next number. -/
def draw : Op Nat := modifyGet fun l => (l.draws, { l with draws := l.draws + 1 })

/-- `n` as `width` lower-case hex digits. -/
def hexDigits (width n : Nat) : String :=
  let ds := (List.range width).reverse.map fun i =>
    let d := n / Nat.pow 16 i % 16
    if d < 10 then Char.ofNat (48 + d) else Char.ofNat (87 + d)
  String.ofList ds

/-- How many hex digits `n` has. -/
def hexLength (n : Nat) : Nat :=
  if h : n < 16 then 1 else hexLength (n / 16) + 1
termination_by n
decreasing_by omega

/-- The version-4 UUID numbered `n`. Its last group is `n` in twelve hex
    digits, or in as many more as `n` needs, so that no two numbers share an
    identifier. -/
def uuid (n : Nat) : String :=
  "00000000-0000-4000-8000-" ++ hexDigits (max 12 (hexLength n)) n

/-- A new identifier. -/
def freshId : Op String := return uuid (← draw)

/-- A new twelve-byte nonce. -/
def freshNonce : Op (List UInt8) := return Crypto.Bytes.ofNatBE (← draw) 12

-- ============================================================ tables

/-- Adds a user with the next id; a taken username is a storage failure. -/
def addUser (mk : Int → User) : Op User := do
  match (← current).addUser? mk with
  | some (s, u) =>
    modifyStore fun _ => s
    return u
  | none => throw Error.storage

/-- Adds an access token; a taken id is a storage failure. -/
def insertAccess (t : AccessToken) : Op Unit := do
  match Table.insert? (← current).access t with
  | some a => modifyStore fun s => { s with access := a }
  | none => throw Error.storage

/-- Adds a refresh token; a taken id is a storage failure. -/
def insertRefresh (t : RefreshToken) : Op Unit := do
  match Table.insert? (← current).refresh t with
  | some r => modifyStore fun s => { s with refresh := r }
  | none => throw Error.storage

/-- Adds an authorization code; a taken code is a storage failure. -/
def insertCode (c : AuthCode) : Op Unit := do
  match Table.insert? (← current).codes c with
  | some cs => modifyStore fun s => { s with codes := cs }
  | none => throw Error.storage

/-- Deletes an access token, saying how many rows went. -/
def deleteAccess (id : String) : Op Nat := do
  let (a, n) := Table.erase (← current).access id
  modifyStore fun s => { s with access := a }
  return n

/-- Deletes a refresh token, saying how many rows went. -/
def deleteRefresh (id : String) : Op Nat := do
  let (r, n) := Table.erase (← current).refresh id
  modifyStore fun s => { s with refresh := r }
  return n

/-- Deletes an authorization code, saying how many rows went. -/
def deleteCode (code : String) : Op Nat := do
  let (cs, n) := Table.erase (← current).codes code
  modifyStore fun s => { s with codes := cs }
  return n

theorem length_hexDigits (width n : Nat) : (hexDigits width n).length = width := by
  simp [hexDigits]

end Warden.Service
