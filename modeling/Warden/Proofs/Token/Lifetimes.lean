import Warden.Token.Policy
/-!
# Expirations are capped, and lie in the future

A token issued at `now` expires at `now` plus its lifetime, and the policy
caps every configured lifetime at ten years (`maxTtl`) before it is used.
An access token's lifetime is that of its client when the client is
trusted, and when the trusted clients name a client twice the later entry
wins (`accessTtl_ofLifetimes`, stated through `Lifetimes.accessTtlOf`, which
reads the entry off the configuration directly).

The cap is what keeps the arithmetic in range: ten years of seconds fit a
signed 64-bit count, so the conversion never falls back to `u32::MAX`
(`Policy.capped_eq_min`), and every expiration lies between `now` and ten
years after it, whatever the configured values.

Validation bounds each lifetime between one second and ten years
(`Lifetimes.inRange_of_checks`). Under a configuration that passes it the
cap changes nothing, and every expiration is strictly after the instant of
issue: every token and code is live when it is created.
-/

namespace Warden.Config

/-- The access-token lifetime that a configuration sets for a client: that of
    the last trusted entry naming the client, or the default when none does. -/
def Lifetimes.accessTtlOf (t : Lifetimes) (client : String) : UInt64 :=
  match (t.trustedClients.filter (·.clientId == client)).getLast? with
  | some c => c.accessTtl
  | none => t.accessTtl

/-- A lifetime that validation accepts: at least one second, at most ten years. -/
def InRange (v : UInt64) : Prop := 0 < v.toNat ∧ v.toNat ≤ maxTtl

/-- A list of checks passes when none of its checks fails. -/
theorem firstViolation_eq_none_iff {cs : List (Bool × Violation)} :
    firstViolation cs = none ↔ ∀ c ∈ cs, c.1 = true := by
  induction cs with
  | nil => simp [firstViolation]
  | cons c cs ih =>
    obtain ⟨ok, v⟩ := c
    cases ok <;> simp [firstViolation, ih]

/-- Lifetimes that pass their checks are each in range, the trusted clients'
    included. -/
theorem Lifetimes.inRange_of_checks {t : Lifetimes} (h : firstViolation t.checks = none) :
    (∀ l, InRange (t.get l)) ∧ ∀ c ∈ t.trustedClients, InRange c.accessTtl := by
  have hall := firstViolation_eq_none_iff.1 h
  refine ⟨fun l => ?_, fun c hc => ?_⟩
  · -- the two checks of a lifetime: positive, then at most ten years
    have hl : l ∈ [Lifetime.access, .refresh, .authCode] := by cases l <;> simp
    have hpos : (t.get l != 0, Violation.lifetimeZero l) ∈ t.checks := by
      simp only [checks, List.mem_append, List.mem_flatMap]
      exact Or.inl ⟨l, hl, by simp⟩
    have hcap : (decide ((t.get l).toNat ≤ maxTtl), Violation.lifetimeTooLong l) ∈ t.checks := by
      simp only [checks, List.mem_append, List.mem_flatMap]
      exact Or.inl ⟨l, hl, by simp⟩
    have h₁ := hall _ hpos
    have h₂ := hall _ hcap
    simp only [bne_iff_ne, ne_eq, decide_eq_true_eq] at h₁ h₂
    exact ⟨UInt64.lt_iff_toNat_lt.1 (UInt64.pos_iff_ne_zero.2 h₁), h₂⟩
  · have hmem : (c.accessTtl != 0 && decide (c.accessTtl.toNat ≤ maxTtl),
        Violation.trustedClientLifetime c.clientId) ∈ t.checks := by
      simp only [checks, List.mem_append, List.mem_flatMap]
      exact Or.inr ⟨c, hc, by simp⟩
    have h₁ := hall _ hmem
    simp only [Bool.and_eq_true, bne_iff_ne, ne_eq, decide_eq_true_eq] at h₁
    exact ⟨UInt64.lt_iff_toNat_lt.1 (UInt64.pos_iff_ne_zero.2 h₁.1), h₁.2⟩

/-- The lifetime a configuration sets for a client is one of its own. -/
theorem Lifetimes.accessTtlOf_mem (t : Lifetimes) (client : String) :
    t.accessTtlOf client = t.accessTtl ∨
      ∃ c ∈ t.trustedClients, t.accessTtlOf client = c.accessTtl := by
  unfold accessTtlOf
  cases hl : (t.trustedClients.filter (·.clientId == client)).getLast? with
  | none => exact .inl rfl
  | some c =>
    have hc : c ∈ t.trustedClients.filter (·.clientId == client) := List.mem_of_getLast? hl
    exact .inr ⟨c, (List.mem_filter.1 hc).1, rfl⟩

theorem Lifetimes.accessTtlOf_inRange {t : Lifetimes} (h : firstViolation t.checks = none)
    (client : String) : InRange (t.accessTtlOf client) := by
  obtain ⟨hl, hc⟩ := inRange_of_checks h
  rcases t.accessTtlOf_mem client with he | ⟨c, hmem, he⟩
  · rw [he]
    exact hl .access
  · rw [he]
    exact hc c hmem

end Warden.Config

namespace Warden.Token.Policy

open Warden.Config

/-- Looking a key up among pairs made from a list finds the first element
    with that key. -/
theorem lookup_map_pair {k : String} {g : TrustedClient → String} {h : TrustedClient → Nat} :
    ∀ l : List TrustedClient,
      (l.map fun c => (g c, h c)).lookup k = (l.find? fun c => g c == k).map h
  | [] => rfl
  | c :: l => by
    simp only [List.map_cons, List.find?_cons]
    rw [List.lookup_cons]
    by_cases hk : k = g c
    · subst hk
      simp
    · have h₁ : (k == g c) = false := by simpa using hk
      have h₂ : (g c == k) = false := by simpa using Ne.symm hk
      simp only [h₁, h₂]
      exact lookup_map_pair l

/-- An access token's lifetime is the one the configuration sets for its
    client, capped at ten years: the trusted clients are kept last entry
    first, so a lookup meets the last entry naming the client. -/
theorem accessTtl_ofLifetimes (t : Lifetimes) (client : String) :
    (ofLifetimes t).accessTtl client = min (t.accessTtlOf client).toNat maxTtl := by
  simp only [accessTtl, ofLifetimes, lookup_map_pair, ← List.getLast?_filter,
    Lifetimes.accessTtlOf]
  cases (t.trustedClients.filter (·.clientId == client)).getLast? with
  | none => exact capped_eq_min _
  | some c => exact capped_eq_min _

theorem refresh_ofLifetimes (t : Lifetimes) :
    (ofLifetimes t).refresh = min t.refreshTtl.toNat maxTtl :=
  capped_eq_min _

theorem authCode_ofLifetimes (t : Lifetimes) :
    (ofLifetimes t).authCode = min t.authCodeTtl.toNat maxTtl :=
  capped_eq_min _

/-- An instant at most ten years on lies between `now` and ten years after. -/
theorem add_ofSeconds_within (now : Instant) {s : Nat} (h : s ≤ maxTtl) :
    now ≤ now + Instant.ofSeconds s ∧ now + Instant.ofSeconds s ≤ now + Instant.ofSeconds maxTtl := by
  -- instants are integers; `omega` reads them once their type says so
  have hint : ∀ n : Int,
      n ≤ n + (s : Int) * 1000 ∧ n + (s : Int) * 1000 ≤ n + (maxTtl : Int) * 1000 := by
    intro n
    omega
  exact hint now

theorem lt_add_ofSeconds (now : Instant) {s : Nat} (h : 0 < s) : now < now + Instant.ofSeconds s := by
  have hint : ∀ n : Int, n < n + (s : Int) * 1000 := by
    intro n
    omega
  exact hint now

/-- Every expiration is `now` plus the configured lifetime capped at ten years,
    for any configured values: an access token's lifetime is the last trusted
    entry's for its client, or the default. So each expiration lies between
    `now` and ten years after it. When the lifetimes pass validation the cap
    changes nothing and every expiration is strictly after `now`. -/
theorem expirations_capped_and_live (t : Lifetimes) (client : String) (now : Instant) :
    (ofLifetimes t).accessExpiry client now =
        now + Instant.ofSeconds ↑(min (t.accessTtlOf client).toNat maxTtl) ∧
      (ofLifetimes t).refreshExpiry now = now + Instant.ofSeconds ↑(min t.refreshTtl.toNat maxTtl) ∧
      (ofLifetimes t).authCodeExpiry now =
        now + Instant.ofSeconds ↑(min t.authCodeTtl.toNat maxTtl) ∧
      (∀ e ∈ [(ofLifetimes t).accessExpiry client now, (ofLifetimes t).refreshExpiry now,
          (ofLifetimes t).authCodeExpiry now], now ≤ e ∧ e ≤ now + Instant.ofSeconds maxTtl) ∧
      (firstViolation t.checks = none →
        (ofLifetimes t).accessExpiry client now =
            now + Instant.ofSeconds (t.accessTtlOf client).toNat ∧
          (ofLifetimes t).refreshExpiry now = now + Instant.ofSeconds t.refreshTtl.toNat ∧
          (ofLifetimes t).authCodeExpiry now = now + Instant.ofSeconds t.authCodeTtl.toNat ∧
          now < (ofLifetimes t).accessExpiry client now ∧ now < (ofLifetimes t).refreshExpiry now ∧
          now < (ofLifetimes t).authCodeExpiry now) := by
  have ha : (ofLifetimes t).accessExpiry client now =
      now + Instant.ofSeconds ↑(min (t.accessTtlOf client).toNat maxTtl) := by
    rw [accessExpiry, accessTtl_ofLifetimes]
  have hr : (ofLifetimes t).refreshExpiry now =
      now + Instant.ofSeconds ↑(min t.refreshTtl.toNat maxTtl) := by
    rw [refreshExpiry, refresh_ofLifetimes]
  have hc : (ofLifetimes t).authCodeExpiry now =
      now + Instant.ofSeconds ↑(min t.authCodeTtl.toNat maxTtl) := by
    rw [authCodeExpiry, authCode_ofLifetimes]
  refine ⟨ha, hr, hc, ?_, fun hv => ?_⟩
  · intro e he
    simp only [List.mem_cons, List.not_mem_nil, or_false] at he
    rcases he with rfl | rfl | rfl
    · rw [ha]
      exact add_ofSeconds_within now (Nat.min_le_right _ _)
    · rw [hr]
      exact add_ofSeconds_within now (Nat.min_le_right _ _)
    · rw [hc]
      exact add_ofSeconds_within now (Nat.min_le_right _ _)
  · -- validated lifetimes are in range, so the cap is the identity
    obtain ⟨hl, -⟩ := Lifetimes.inRange_of_checks hv
    have hA := Lifetimes.accessTtlOf_inRange hv client
    have hR : InRange t.refreshTtl := hl .refresh
    have hC : InRange t.authCodeTtl := hl .authCode
    rw [ha, hr, hc, Nat.min_eq_left hA.2, Nat.min_eq_left hR.2, Nat.min_eq_left hC.2]
    exact ⟨rfl, rfl, rfl, lt_add_ofSeconds now hA.1, lt_add_ofSeconds now hR.1,
      lt_add_ofSeconds now hC.1⟩

/-- Two valid trusted entries for one client: the later one's lifetime
    applies. -/
theorem later_trusted_entry_wins :
    firstViolation ({ trustedClients := [⟨"web", 60⟩, ⟨"web", 120⟩] } : Lifetimes).checks = none ∧
      (ofLifetimes { trustedClients := [⟨"web", 60⟩, ⟨"web", 120⟩] }).accessExpiry "web" 0 =
        Instant.ofSeconds 120 := by
  have hv : firstViolation ({ trustedClients := [⟨"web", 60⟩, ⟨"web", 120⟩] } : Lifetimes).checks =
      none := by decide
  refine ⟨hv, ?_⟩
  rw [((expirations_capped_and_live _ "web" 0).2.2.2.2 hv).1]
  rfl

end Warden.Token.Policy
