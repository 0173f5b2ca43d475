import Warden.Config.Basic
import Warden.Token.Request
/-!
# Token lifetimes

How long each kind of token lives once issued. Access tokens live for a
default time unless their client is trusted, in which case the client's own
lifetime applies; refresh tokens and authorization codes have one lifetime
each. Every lifetime is capped at ten years, so that no setting can make a
token live for ever.

When the trusted clients name one client twice, the later entry wins.
`Policy.accessTtl_ofLifetimes_le` states the cap for access tokens.
-/

namespace Warden.Token

open Warden.Config

/-- Token lifetimes in seconds, each at most `maxTtl`. -/
structure Policy where
  access : Nat
  refresh : Nat
  authCode : Nat
  /-- Trusted clients with their lifetimes, the last one configured first. -/
  trusted : List (String × Nat)
  deriving Repr

namespace Policy

/-- The largest count a signed 64-bit integer holds. -/
def int64Max : Nat := Nat.pow 2 63 - 1

/-- A configured lifetime, capped at ten years, then taken as a signed 64-bit
    count of seconds, or `u32::MAX` seconds when it does not fit. -/
def capped (secs : UInt64) : Nat :=
  let c := min secs.toNat maxTtl
  if c ≤ int64Max then c else 4294967295

/-- The lifetimes that a token configuration sets. -/
def ofLifetimes (t : Lifetimes) : Policy :=
  { access := capped t.accessTtl
    refresh := capped t.refreshTtl
    authCode := capped t.authCodeTtl
    trusted := t.trustedClients.reverse.map fun c => (c.clientId, capped c.accessTtl) }

/-- The client's access tokens have a lifetime of their own. -/
def isTrusted (p : Policy) (client : String) : Bool :=
  p.trusted.any (·.1 == client)

/-- How long the client's access tokens live. -/
def accessTtl (p : Policy) (client : String) : Nat :=
  (p.trusted.lookup client).getD p.access

/-- When an access token issued now to the client expires. -/
def accessExpiry (p : Policy) (client : String) (now : Instant) : Instant :=
  now + Instant.ofSeconds (p.accessTtl client)

/-- When a refresh token issued now expires. -/
def refreshExpiry (p : Policy) (now : Instant) : Instant :=
  now + Instant.ofSeconds p.refresh

/-- When an authorization code saved now expires. -/
def authCodeExpiry (p : Policy) (now : Instant) : Instant :=
  now + Instant.ofSeconds p.authCode

-- ============================================================ lifetimes, stated

/-- Ten years fit a signed 64-bit count, so the fallback never applies. -/
theorem capped_eq_min (secs : UInt64) : capped secs = min secs.toNat maxTtl := by
  have hfit : min secs.toNat maxTtl ≤ int64Max :=
    Nat.le_trans (Nat.min_le_right _ _) (by decide)
  simp only [capped, if_pos hfit]

theorem capped_le (secs : UInt64) : capped secs ≤ maxTtl := by
  rw [capped_eq_min]
  exact Nat.min_le_right _ _

/-- A value found in a list whose values are all at most `b` is at most `b`. -/
theorem lookup_le {b : Nat} {k : String} :
    ∀ {l : List (String × Nat)}, (∀ p ∈ l, p.2 ≤ b) → ∀ {n}, l.lookup k = some n → n ≤ b
  | [], _, _, h => by simp at h
  | (k', m) :: l, hl, n, h => by
    simp only [List.lookup_cons] at h
    split at h
    · cases h; exact hl _ (List.mem_cons_self ..)
    · exact lookup_le (fun p hp => hl p (List.mem_cons_of_mem _ hp)) h

/-- No access token lives longer than ten years. -/
theorem accessTtl_ofLifetimes_le (t : Lifetimes) (client : String) :
    (ofLifetimes t).accessTtl client ≤ maxTtl := by
  simp only [accessTtl, ofLifetimes]
  cases h : (t.trustedClients.reverse.map fun c => (c.clientId, capped c.accessTtl)).lookup
      client with
  | none => exact capped_le _
  | some n => exact lookup_le (by simp [capped_le]) h

end Policy

end Warden.Token
