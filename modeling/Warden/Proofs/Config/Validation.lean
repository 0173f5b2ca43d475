import Warden.Config.Basic
/-!
# Which configurations validate

`AppConfig.validate` reads a flat list of checks and reports the first that
fails. Said without that list: a configuration validates exactly when it is
`Valid`, every setting in its documented range; otherwise the report is the
message of `AppConfig.firstBroken`, which walks the settings as they are
documented: the server's port, the database, the secrets and names of
`auth`, its timeout and key size, then the three token lifetimes in the
order access, refresh, authorization code (each tested for zero before its
upper bound), the trusted clients in their order (each named before its
lifetime is tested), and last the path of the role document.

Three settings may come from the environment; `AppConfig.override` sets
exactly those whose variable is present and keeps every other setting.
-/

namespace Warden.Config

-- ============================================================ the first failing check

theorem firstViolation_append (a b : List (Bool × Violation)) :
    firstViolation (a ++ b) = (firstViolation a).or (firstViolation b) := by
  induction a with
  | nil => rfl
  | cons p a ih =>
    obtain ⟨ok, v⟩ := p
    cases ok <;> simp [firstViolation, ih]

/-- Checks grouped per item fail at the first item with a failing check. -/
theorem firstViolation_flatMap {α : Type} (xs : List α) (f : α → List (Bool × Violation)) :
    firstViolation (xs.flatMap f) = xs.findSome? fun x => firstViolation (f x) := by
  induction xs with
  | nil => rfl
  | cons x xs ih =>
    rw [List.flatMap_cons, firstViolation_append, ih, List.findSome?_cons]
    cases firstViolation (f x) <;> rfl

-- ============================================================ the documented order

/-- What a token lifetime out of range reports: zero is tested before the
    upper bound. -/
def Lifetimes.brokenLifetime (t : Lifetimes) (l : Lifetime) : Option Violation :=
  if t.get l = 0 then some (.lifetimeZero l)
  else if maxTtl < (t.get l).toNat then some (.lifetimeTooLong l)
  else none

/-- What a broken trusted client reports: its name is tested before its
    lifetime. -/
def TrustedClient.broken (c : TrustedClient) : Option Violation :=
  if c.clientId = "" then some .trustedClientUnnamed
  else if c.accessTtl = 0 ∨ maxTtl < c.accessTtl.toNat then some (.trustedClientLifetime c.clientId)
  else none

/-- The first broken lifetime setting: the three lifetimes in order, then
    the trusted clients in order. -/
def Lifetimes.firstBroken (t : Lifetimes) : Option Violation :=
  ([Lifetime.access, .refresh, .authCode].findSome? t.brokenLifetime).or
    (t.trustedClients.findSome? TrustedClient.broken)

/-- The first broken setting of a configuration, in the documented order. -/
def AppConfig.firstBroken (c : AppConfig) : Option Violation :=
  if c.server.port = 0 then some .portZero
  else if c.database.url = "" then some .databaseUrlEmpty
  else if c.database.maxConnections = 0 then some .noConnections
  else if c.auth.cryptoSecret = "" then some .secretEmpty
  else if c.auth.builtinClientId = "" then some .builtinClientEmpty
  else if c.auth.cookie.name = "" then some .cookieNameEmpty
  else if c.auth.operationTimeout = 0 then some .timeoutZero
  else if c.auth.signingKeyBits.toNat < 2048 then some (.keyTooSmall c.auth.signingKeyBits.toNat)
  else c.auth.token.firstBroken.or (if c.rbacPath = "" then some .rbacPathEmpty else none)

/-- Every setting in its documented range. -/
structure AppConfig.Valid (c : AppConfig) : Prop where
  port : c.server.port ≠ 0
  databaseUrl : c.database.url ≠ ""
  connections : 0 < c.database.maxConnections
  secret : c.auth.cryptoSecret ≠ ""
  builtinClient : c.auth.builtinClientId ≠ ""
  cookieName : c.auth.cookie.name ≠ ""
  timeout : 0 < c.auth.operationTimeout
  keyBits : 2048 ≤ c.auth.signingKeyBits.toNat
  lifetimes : ∀ l, 0 < c.auth.token.get l ∧ (c.auth.token.get l).toNat ≤ maxTtl
  trustedClients : ∀ t ∈ c.auth.token.trustedClients,
    t.clientId ≠ "" ∧ 0 < t.accessTtl ∧ t.accessTtl.toNat ≤ maxTtl
  rbacPath : c.rbacPath ≠ ""

-- ============================================================ the checks follow the order

theorem Lifetimes.firstViolation_lifetime (t : Lifetimes) (l : Lifetime) :
    firstViolation [(t.get l != 0, .lifetimeZero l),
      (decide ((t.get l).toNat ≤ maxTtl), .lifetimeTooLong l)] = t.brokenLifetime l := by
  unfold brokenLifetime
  by_cases h0 : t.get l = 0
  · simp [firstViolation, h0]
  · by_cases h1 : maxTtl < (t.get l).toNat
    · simp [firstViolation, h0, h1]
    · simp only [Nat.not_lt] at h1
      simp [firstViolation, h0, h1]

theorem TrustedClient.firstViolation_checks (c : TrustedClient) :
    firstViolation [(!c.clientId.isEmpty, .trustedClientUnnamed),
      (c.accessTtl != 0 && decide (c.accessTtl.toNat ≤ maxTtl), .trustedClientLifetime c.clientId)] =
      c.broken := by
  unfold broken
  by_cases h0 : c.clientId = ""
  · simp [firstViolation, h0]
  · by_cases h1 : c.accessTtl = 0 ∨ maxTtl < c.accessTtl.toNat
    · simp [firstViolation, h0, h1]
      exact h1.resolve_left
    · simp only [not_or, Nat.not_lt] at h1
      simp [firstViolation, h0, h1]

theorem Lifetimes.firstViolation_checks (t : Lifetimes) :
    firstViolation t.checks = t.firstBroken := by
  simp only [Lifetimes.checks, firstViolation_append, firstViolation_flatMap,
    Lifetimes.firstViolation_lifetime, TrustedClient.firstViolation_checks]
  rfl

/-- The flat list of checks reports what the documented order reports. -/
theorem AppConfig.violation?_eq_firstBroken (c : AppConfig) : c.violation? = c.firstBroken := by
  simp only [AppConfig.violation?, AppConfig.checks, List.cons_append, List.nil_append,
    firstViolation, firstViolation_append, Lifetimes.firstViolation_checks, AppConfig.firstBroken,
    bne_iff_ne, ne_eq, ite_not, Bool.not_eq_eq_eq_not, Bool.not_true,
    String.isEmpty_eq_false_iff, decide_eq_true_eq, ← Nat.not_le]

-- ============================================================ in range

/-- A cascade reports nothing exactly when its first fault is absent and the
    rest of it reports nothing. -/
theorem ite_some_eq_none {α : Type} {p : Prop} [Decidable p] {a : α} {x : Option α} :
    (if p then some a else x) = none ↔ ¬p ∧ x = none := by
  split <;> simp_all

theorem Lifetimes.brokenLifetime_eq_none (t : Lifetimes) (l : Lifetime) :
    t.brokenLifetime l = none ↔ 0 < t.get l ∧ (t.get l).toNat ≤ maxTtl := by
  simp [brokenLifetime, ite_some_eq_none, UInt64.pos_iff_ne_zero]

theorem TrustedClient.broken_eq_none (c : TrustedClient) :
    c.broken = none ↔ c.clientId ≠ "" ∧ 0 < c.accessTtl ∧ c.accessTtl.toNat ≤ maxTtl := by
  simp [broken, ite_some_eq_none, UInt64.pos_iff_ne_zero]

theorem Lifetime.mem_all (l : Lifetime) : l ∈ [Lifetime.access, .refresh, .authCode] := by
  cases l <;> simp

theorem Lifetimes.firstBroken_eq_none (t : Lifetimes) :
    t.firstBroken = none ↔ (∀ l, 0 < t.get l ∧ (t.get l).toNat ≤ maxTtl) ∧
      ∀ c ∈ t.trustedClients, c.clientId ≠ "" ∧ 0 < c.accessTtl ∧ c.accessTtl.toNat ≤ maxTtl := by
  simp only [firstBroken, Option.or_eq_none_iff, List.findSome?_eq_none_iff,
    brokenLifetime_eq_none, TrustedClient.broken_eq_none]
  constructor
  · rintro ⟨hl, hc⟩
    exact ⟨fun l => hl l (Lifetime.mem_all l), hc⟩
  · rintro ⟨hl, hc⟩
    exact ⟨fun l _ => hl l, hc⟩

/-- Nothing is broken exactly when every setting is in range. -/
theorem AppConfig.firstBroken_eq_none (c : AppConfig) : c.firstBroken = none ↔ c.Valid := by
  simp only [firstBroken, ite_some_eq_none, Option.or_eq_none_iff, Lifetimes.firstBroken_eq_none,
    Nat.not_lt, and_true]
  constructor
  · rintro ⟨hp, hu, hm, hs, hb, hn, ht, hk, ⟨hl, hc⟩, hr⟩
    exact ⟨hp, hu, UInt32.pos_iff_ne_zero.2 hm, hs, hb, hn, UInt64.pos_iff_ne_zero.2 ht, hk, hl, hc, hr⟩
  · intro h
    exact ⟨h.port, h.databaseUrl, UInt32.pos_iff_ne_zero.1 h.connections, h.secret, h.builtinClient,
      h.cookieName, UInt64.pos_iff_ne_zero.1 h.timeout, h.keyBits, ⟨h.lifetimes, h.trustedClients⟩,
      h.rbacPath⟩

instance (c : AppConfig) : Decidable c.Valid :=
  decidable_of_iff _ c.firstBroken_eq_none

-- ============================================================ validation

/-- Putting the three settings back as they were undoes an override: it
    changed nothing else. -/
theorem AppConfig.override_restores (c : AppConfig) (o : Overrides) :
    (c.override o).override ⟨some c.auth.cryptoSecret, some c.database.url, some c.rbacPath⟩ = c :=
  rfl

/-- Validation accepts exactly the valid configurations, and otherwise
    reports the first broken setting in the documented order. The
    environment sets exactly the settings whose variables it holds. -/
theorem validation_reports_first_broken (c : AppConfig) (lookup : String → Option String) :
    (c.validate = .ok () ↔ c.Valid) ∧
    (∀ e, c.validate = .error e ↔ ∃ v, c.firstBroken = some v ∧ e = .config v.message) ∧
    (c.override (.ofLookup lookup)).auth.cryptoSecret =
        (lookup "IDENTITY_CRYPTO_SECRET").getD c.auth.cryptoSecret ∧
      (c.override (.ofLookup lookup)).database.url = (lookup "DATABASE_URL").getD c.database.url ∧
      (c.override (.ofLookup lookup)).rbacPath = (lookup "IDENTITY_RBAC_PATH").getD c.rbacPath ∧
      (c.override (.ofLookup lookup)).override
        ⟨some c.auth.cryptoSecret, some c.database.url, some c.rbacPath⟩ = c := by
  refine ⟨?_, ?_, rfl, rfl, rfl, AppConfig.override_restores c _⟩
  · rw [AppConfig.validate, AppConfig.violation?_eq_firstBroken, ← AppConfig.firstBroken_eq_none]
    cases c.firstBroken <;> simp
  · intro e
    rw [AppConfig.validate, AppConfig.violation?_eq_firstBroken]
    cases c.firstBroken <;> simp [eq_comm]

-- The defaults leave the secret empty, and a secret is all they lack.
example : ({} : AppConfig).firstBroken = some .secretEmpty := by decide
example : ({ auth := { cryptoSecret := "s" } } : AppConfig).Valid := by decide

end Warden.Config
