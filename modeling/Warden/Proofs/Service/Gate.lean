import Warden.Proofs.Token.Reference
import Warden.Proofs.Service.Exec
/-!
# The gate lets through exactly the live references

`Admits` says, without the gate, which presented texts should pass and with
what claims: a nonempty text that opens to `a:b`, both parts nonempty and
colon-free, where `a` is the id of an access token of subject `b` that is
still live. In a store whose access token ids are unique, the gate passes
exactly those (`validate_eq_ok_iff`), and every refusal is an
`unauthorized` error (`validate_error_unauthorized`).

Three consequences follow. A reference issued for a live token whose id and
subject have no colon passes, with blanks around it or not
(`validate_encodeReference`). Once the token is revoked, its user's sessions
are ended, or it has expired, no text that opens to its id passes
(`revoke_refuses`, `terminate_refuses`, `expired_refuses`).

The one case analysis of `validate` is `validate_cases`; the rest read it.
-/

namespace Warden.Service

open Warden.Token Warden.Text

/-- What the gate should let through, said without it: the presented text
    is nonempty and opens to `a:b`, with `a` and `b` nonempty and free of
    colons, and the store holds an access token with id `a` and subject `b`
    that is live at `now`; the claims are that token's. -/
def Admits (c : Cipher) (s : Store) (v : String) (now : Instant) (cl : Claims) : Prop :=
  v ≠ "" ∧ ∃ a b, c.decrypt v = .ok (a ++ ":" ++ b) ∧ a ≠ "" ∧ b ≠ "" ∧
    ':' ∉ a.toList ∧ ':' ∉ b.toList ∧
    ∃ A ∈ s.access, A.id = a ∧ now < A.expiration ∧ A.subject = b ∧
      cl = { tokenId := A.id, subject := A.subject, scopes := A.scopes }

/-- Every check of the gate passes with the token `T`. -/
def Opens (c : Cipher) (s : Store) (v : String) (now : Instant) (T : AccessToken) : Prop :=
  v ≠ "" ∧ ∃ p a b, c.decrypt v = .ok p ∧ parsePayload? p = some (a, b) ∧
    Table.find? s.access a = some T ∧ now < T.expiration ∧ T.subject = b

-- ============================================================ the checks

/-- The gate either passes a token whose checks all hold, with its claims,
    or refuses as unauthorized. -/
theorem validate_cases (c : Cipher) (s : Store) (v : String) (now : Instant) :
    (∃ T, Opens c s v now T ∧
        validate c s v now = .ok { tokenId := T.id, subject := T.subject, scopes := T.scopes }) ∨
      ∃ m, validate c s v now = .error (.unauthorized m) := by
  -- one case per check, in the order the gate makes them
  by_cases hv : v.isEmpty
  · exact .inr ⟨"missing credential", by simp [validate, hv]; rfl⟩
  cases hd : c.decrypt v with
  | error r => exact .inr ⟨r.message, by simp [validate, hv, hd]; rfl⟩
  | ok p =>
    cases hp : parsePayload? p with
    | none => exact .inr ⟨"invalid token format", by simp [validate, hv, hd, hp]; rfl⟩
    | some ab =>
      obtain ⟨a, b⟩ := ab
      cases hf : Table.find? s.access a with
      | none => exact .inr ⟨"auth token not found", by simp [validate, hv, hd, hp, hf]; rfl⟩
      | some T =>
        by_cases ha : T.isActiveAt now
        · by_cases hs : T.subject = b
          · have hl : now < T.expiration := by simpa [AccessToken.isActiveAt] using ha
            refine .inl ⟨T, ⟨by simpa using hv, p, a, b, hd, hp, hf, hl, hs⟩, ?_⟩
            simp [validate, hv, hd, hp, hf, ha, hs]
            rfl
          · exact .inr ⟨"subject mismatch", by simp [validate, hv, hd, hp, hf, ha, hs]; rfl⟩
        · exact .inr ⟨"token expired", by simp [validate, hv, hd, hp, hf, ha]; rfl⟩

theorem opens_of_validate_eq_ok {c : Cipher} {s : Store} {v : String} {now : Instant}
    {cl : Claims} (h : validate c s v now = .ok cl) :
    ∃ T, Opens c s v now T ∧ cl = { tokenId := T.id, subject := T.subject, scopes := T.scopes } := by
  rcases validate_cases c s v now with ⟨T, hT, hv⟩ | ⟨m, hv⟩
  · rw [hv, Except.ok.injEq] at h
    exact ⟨T, hT, h.symm⟩
  · rw [hv] at h
    cases h

/-- Every refusal of the gate is an `unauthorized` error. -/
theorem validate_error_unauthorized {c : Cipher} {s : Store} {v : String} {now : Instant}
    {e : Error} (h : validate c s v now = .error e) : ∃ m, e = .unauthorized m := by
  rcases validate_cases c s v now with ⟨T, -, hv⟩ | ⟨m, hv⟩
  · rw [hv] at h
    cases h
  · rw [hv, Except.error.injEq] at h
    exact ⟨m, h.symm⟩

theorem Opens.admits {c : Cipher} {s : Store} {v : String} {now : Instant} {T : AccessToken}
    (h : Opens c s v now T) :
    Admits c s v now { tokenId := T.id, subject := T.subject, scopes := T.scopes } := by
  obtain ⟨hv, p, a, b, hd, hp, hf, hl, hs⟩ := h
  obtain ⟨rfl, ha, hb, hca, hcb⟩ := parsePayload?_eq_some_iff.1 hp
  obtain ⟨hT, hk⟩ := Table.mem_of_find? hf
  exact ⟨hv, a, b, hd, ha, hb, hca, hcb, T, hT, hk, hl, hs, rfl⟩

/-- In a store whose access token ids are unique, the gate passes exactly
    what it should, with the claims it should. -/
theorem validate_eq_ok_iff {c : Cipher} {s : Store} (hu : Table.Unique s.access) {v : String}
    {now : Instant} {cl : Claims} : validate c s v now = .ok cl ↔ Admits c s v now cl := by
  constructor
  · intro h
    obtain ⟨T, hT, rfl⟩ := opens_of_validate_eq_ok h
    exact hT.admits
  · rintro ⟨hv, a, b, hd, ha, hb, hca, hcb, A, hA, rfl, hl, rfl, rfl⟩
    have hp : parsePayload? (A.id ++ ":" ++ A.subject) = some (A.id, A.subject) :=
      parsePayload?_eq_some_iff.2 ⟨rfl, ha, hb, hca, hcb⟩
    have hf : Table.find? s.access A.id = some A := hu.find?_eq_some.2 ⟨hA, rfl⟩
    have hv' : v.isEmpty = false := by simpa using hv
    have ha' : A.isActiveAt now = true := by simpa [AccessToken.isActiveAt] using hl
    simp [validate, hv', hd, hp, hf, ha']
    rfl

-- ============================================================ references

/-- A reference for a live token whose id and subject are nonempty and
    colon-free passes the gate, with any blanks around it. -/
theorem validate_encodeReference {c : Cipher} (hk : c.key.length = 32) {s : Store}
    (hu : Table.Unique s.access) {A : AccessToken} (hA : A ∈ s.access) {now : Instant}
    (hl : now < A.expiration) (hid : A.id ≠ "") (hsub : A.subject ≠ "")
    (hcid : ':' ∉ A.id.toList) (hcsub : ':' ∉ A.subject.toList) {w₁ w₂ : String}
    (h₁ : ∀ ch ∈ w₁.toList, isBlank ch = true) (h₂ : ∀ ch ∈ w₂.toList, isBlank ch = true)
    {l l' : Ledger} {ref : String} (he : exec (encodeReference c A.id A.subject) l = (.ok ref, l')) :
    validate c s (w₁ ++ ref ++ w₂) now =
      .ok { tokenId := A.id, subject := A.subject, scopes := A.scopes } := by
  rw [exec_encodeReference, Prod.mk.injEq, Except.ok.injEq] at he
  obtain ⟨rfl, -⟩ := he
  have hd := Cipher.decrypt_encrypt hk (Crypto.Bytes.length_ofNatBE l.draws 12)
    (payload A.id A.subject) h₁ h₂
  -- an empty text opens to nothing, so the presented text is not empty
  have hv : w₁ ++ c.encrypt (Crypto.Bytes.ofNatBE l.draws 12) (payload A.id A.subject) ++ w₂ ≠ "" := by
    intro h0
    rw [h0] at hd
    cases hd
  exact (validate_eq_ok_iff hu).2
    ⟨hv, A.id, A.subject, hd, hid, hsub, hcid, hcsub, A, hA, rfl, hl, rfl, rfl⟩

-- ============================================================ revocation

/-- A text that opens to `x:…` passes only with the token that `x` finds. -/
theorem Opens.find? {c : Cipher} {s : Store} {v : String} {now : Instant} {T : AccessToken}
    (h : Opens c s v now T) {x rest : String} (hd : c.decrypt v = .ok (x ++ ":" ++ rest)) :
    Table.find? s.access x = some T := by
  obtain ⟨-, p, a, b, hd', hp, hf, -, -⟩ := h
  rw [hd, Except.ok.injEq] at hd'
  obtain ⟨hpe, -, -, hca, hcb⟩ := parsePayload?_eq_some_iff.1 hp
  rw [payload_left_eq (hd'.trans hpe) hca hcb]
  exact hf

/-- Once an access token is revoked, no text that opens to its id passes. -/
theorem revoke_refuses {l l' : Ledger} {tokenId subject client : String} {u : Unit}
    (hr : exec (revoke tokenId subject client) l = (.ok u, l')) {c : Cipher} {v rest : String}
    (hd : c.decrypt v = .ok (tokenId ++ ":" ++ rest)) (now : Instant) (cl : Claims) :
    validate c l'.store v now ≠ .ok cl := by
  intro h
  obtain ⟨T, hT, -⟩ := opens_of_validate_eq_ok h
  rcases exec_revoke tokenId subject client l with ⟨e, he⟩ | ⟨T', -, he⟩
  · rw [he] at hr
    cases hr
  · rw [he, Prod.mk.injEq] at hr
    obtain ⟨-, rfl⟩ := hr
    have hn := Table.find?_erase l.store.access tokenId
    rw [hT.find? hd] at hn
    cases hn

/-- Once a user's sessions are ended, no text that opens to the id of one
    of their access tokens passes. -/
theorem terminate_refuses {l : Ledger} (hu : Table.Unique l.store.access) {A : AccessToken}
    (hA : A ∈ l.store.access) (client : String) {c : Cipher} {v rest : String}
    (hd : c.decrypt v = .ok (A.id ++ ":" ++ rest)) (now : Instant) (cl : Claims) :
    validate c (exec (terminate A.subject client) l).2.store v now ≠ .ok cl := by
  intro h
  obtain ⟨T, hT, -⟩ := opens_of_validate_eq_ok h
  have hf := hT.find? hd
  rw [exec_terminate] at hf
  obtain ⟨hT', hk⟩ := Table.mem_of_find? hf
  rw [Table.mem_eraseWhere] at hT'
  -- the token that the id finds is `A` itself, which went with its subject
  have hTA : T = A := hu.eq_of_key_eq hT'.1 hA hk
  rw [hTA] at hT'
  simp at hT'

/-- An expired token lets no text that opens to its id pass. -/
theorem expired_refuses {s : Store} (hu : Table.Unique s.access) {A : AccessToken}
    (hA : A ∈ s.access) {now : Instant} (hx : A.expiration ≤ now) {c : Cipher} {v rest : String}
    (hd : c.decrypt v = .ok (A.id ++ ":" ++ rest)) (cl : Claims) :
    validate c s v now ≠ .ok cl := by
  intro h
  obtain ⟨T, hT, -⟩ := opens_of_validate_eq_ok h
  obtain ⟨hT', hk⟩ := Table.mem_of_find? (hT.find? hd)
  -- the token that the id finds is `A` itself, no longer live
  have hTA : T = A := hu.eq_of_key_eq hT' hA hk
  obtain ⟨_, _, _, _, _, _, _, hl, _⟩ := hT
  rw [hTA] at hl
  exact absurd hl (Int.not_lt.2 hx)

-- ============================================================ the gate as a whole

/-- The gate under a 32-byte key: it passes exactly what `Admits` says in a
    store with unique access token ids, refuses everything else as
    unauthorized, passes a blank-padded reference for a live token with a
    colon-free id and subject, and passes nothing that opens to the id of a
    token once it is revoked, its user's sessions are ended, or it expired. -/
theorem gate_passes_live_references {c : Cipher} (hk : c.key.length = 32) :
    (∀ (s : Store) (v : String) (now : Instant) (cl : Claims), Table.Unique s.access →
        (validate c s v now = .ok cl ↔ Admits c s v now cl)) ∧
    (∀ (s : Store) (v : String) (now : Instant) (e : Error),
        validate c s v now = .error e → ∃ m, e = .unauthorized m) ∧
    (∀ (s : Store) (A : AccessToken) (now : Instant) (w₁ w₂ : String) (l l' : Ledger)
        (ref : String), Table.Unique s.access → A ∈ s.access → now < A.expiration →
        A.id ≠ "" → A.subject ≠ "" → ':' ∉ A.id.toList → ':' ∉ A.subject.toList →
        (∀ ch ∈ w₁.toList, isBlank ch = true) → (∀ ch ∈ w₂.toList, isBlank ch = true) →
        exec (encodeReference c A.id A.subject) l = (.ok ref, l') →
        validate c s (w₁ ++ ref ++ w₂) now =
          .ok { tokenId := A.id, subject := A.subject, scopes := A.scopes }) ∧
    (∀ (l l' : Ledger) (tokenId subject client v rest : String) (u : Unit) (now : Instant)
        (cl : Claims), exec (revoke tokenId subject client) l = (.ok u, l') →
        c.decrypt v = .ok (tokenId ++ ":" ++ rest) → validate c l'.store v now ≠ .ok cl) ∧
    (∀ (l : Ledger) (A : AccessToken) (client v rest : String) (now : Instant) (cl : Claims),
        Table.Unique l.store.access → A ∈ l.store.access →
        c.decrypt v = .ok (A.id ++ ":" ++ rest) →
        validate c (exec (terminate A.subject client) l).2.store v now ≠ .ok cl) ∧
    (∀ (s : Store) (A : AccessToken) (v rest : String) (now : Instant) (cl : Claims),
        Table.Unique s.access → A ∈ s.access → A.expiration ≤ now →
        c.decrypt v = .ok (A.id ++ ":" ++ rest) → validate c s v now ≠ .ok cl) :=
  ⟨fun _ _ _ _ hu => validate_eq_ok_iff hu,
   fun _ _ _ _ h => validate_error_unauthorized h,
   fun _ _ _ _ _ _ _ _ hu hA hl hid hsub hcid hcsub h₁ h₂ he =>
     validate_encodeReference hk hu hA hl hid hsub hcid hcsub h₁ h₂ he,
   fun _ _ _ _ _ _ _ _ now cl hr hd => revoke_refuses hr hd now cl,
   fun _ _ client _ _ now cl hu hA hd => terminate_refuses hu hA client hd now cl,
   fun _ _ _ _ _ cl hu hA hx hd => expired_refuses hu hA hx hd cl⟩

/-- A reference sealed for a live token passes the gate with a blank on
    either side. -/
theorem padded_reference_passes :
    validate (Cipher.ofSecret "secret")
        { access := [⟨"t1", "app", "alice", none, [], ["read"], 100⟩] }
        (" " ++ (Cipher.ofSecret "secret").encrypt (Crypto.Bytes.ofNatBE 0 12)
          (payload "t1" "alice") ++ "\n") 0 =
      .ok { tokenId := "t1", subject := "alice", scopes := ["read"] } := by
  have hspace : ∀ ch ∈ " ".toList, isBlank ch = true := by
    intro ch hch
    obtain rfl : ch = ' ' := by simpa using hch
    decide
  have hnewline : ∀ ch ∈ "\n".toList, isBlank ch = true := by
    intro ch hch
    obtain rfl : ch = '\n' := by simpa using hch
    decide
  exact (gate_passes_live_references (Cipher.length_key_ofSecret "secret")).2.2.1 _
    ⟨"t1", "app", "alice", none, [], ["read"], 100⟩ 0 " " "\n" {} _ _
    (List.nodup_cons.2 ⟨List.not_mem_nil, List.nodup_nil⟩) (List.mem_singleton_self _)
    (by decide) (by decide) (by decide) (by decide) (by decide) hspace hnewline
    (exec_encodeReference _ _ _ {})

end Warden.Service
