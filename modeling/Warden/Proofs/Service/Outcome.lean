import Warden.Proofs.Service.Partition
/-!
# What each token write leaves behind

The exact outcome of issuing a pair, of revoking an access token and of
ending a user's sessions, on every ledger whose identifiers lie behind the
counter (`Fresh`, the service's assumption that a new UUID was never seen)
and whose tables hold each key once (the store's primary keys).

Issuing without a refresh token always succeeds and adds two rows: an access
token that carries the request, and a refresh token that starts a lineage
for it. Presenting a refresh token has five outcomes (`issue_outcomes`): an
unknown token is refused with nothing changed; an expired one is refused and
deleted, a write that stays although the call fails; a live one of another
client or subject is refused with nothing changed, though the rotation had
begun; otherwise the token gives way to the next pair of its lineage.

Revoking refuses an unknown token and another client's token with nothing
changed, and otherwise deletes the access token and the refresh token it
names, if that is still there (`revocation_outcomes`). The subject the caller
names is never read. Ending a user's sessions deletes the access tokens of
that subject and the refresh tokens of that user, and nothing else.

Each outcome is read off the one lemma of `Exec` for its path; the
hypotheses turn the lookups by key into rows of the tables.
-/

namespace Warden.Service

open Warden.Token

-- ============================================================ unused identifiers

/-- A key that no row has finds nothing. -/
theorem Table.find?_isSome_eq_false {α : Type} [Keyed α] {t : Table α} {k : String}
    (h : ∀ x ∈ t, Keyed.key x ≠ k) : (Table.find? t k).isSome = false := by
  rw [Table.find?_eq_none_iff.2 h]
  rfl

/-- No access token has an identifier the counter has yet to draw. -/
theorem Fresh.access_unused {l : Ledger} (hf : Fresh l) {m : Nat} (hm : l.draws ≤ m) :
    (Table.find? l.store.access (uuid m)).isSome = false :=
  Table.find?_isSome_eq_false fun A hA => by simpa using hf.access A hA m hm

/-- No refresh token kept from the store has an identifier the counter has
    yet to draw. -/
theorem Fresh.refresh_unused {l : Ledger} (hf : Fresh l) {t : Table RefreshToken}
    (ht : ∀ R ∈ t, R ∈ l.store.refresh) {m : Nat} (hm : l.draws ≤ m) :
    (Table.find? t (uuid m)).isSome = false :=
  Table.find?_isSome_eq_false fun R hR => by simpa using hf.refresh R (ht R hR) m hm

/-- Nor does one left after deleting a key. -/
theorem Fresh.erase_unused {l : Ledger} (hf : Fresh l) (k : String) {m : Nat}
    (hm : l.draws ≤ m) : (Table.find? (Table.erase l.store.refresh k).1 (uuid m)).isSome = false :=
  hf.refresh_unused (fun _ h => (Table.mem_erase.1 h).1) hm

theorem RefreshToken.isActiveAt_eq_false {R : RefreshToken} {now : Instant} :
    R.isActiveAt now = false ↔ R.expiration ≤ now := by
  simp [RefreshToken.isActiveAt]

theorem RefreshToken.isActiveAt_eq_true {R : RefreshToken} {now : Instant} :
    R.isActiveAt now = true ↔ now < R.expiration := by
  simp [RefreshToken.isActiveAt]

-- ============================================================ issuing

section Issuing

variable {p : Policy} {q : TokenRequest} {now : Instant} {l : Ledger}

/-- A fresh pair is issued whole: its identifiers are new to the store. -/
theorem exec_issueFresh_of_fresh (hf : Fresh l) :
    exec (issueFresh p q now) l =
      (.ok ⟨uuid (l.draws + 1), uuid l.draws, p.accessExpiry q.clientId now⟩,
        { store := { l.store with
            access := l.store.access ++ [pairedAccess p q now (uuid (l.draws + 1)) (uuid l.draws)],
            refresh := l.store.refresh ++ [firstRefresh p q now (uuid l.draws)] },
          draws := l.draws + 2 }) :=
  exec_issueFresh_unused p q now (hf.access_unused (by omega))
    (hf.refresh_unused (fun _ h => h) (Nat.le_refl _))

/-- A live refresh token of the request's client and subject gives way to the
    next pair of its lineage. -/
theorem exec_rotate_of_fresh (hf : Fresh l) (hu : Table.Unique l.store.refresh) {R : RefreshToken}
    (hR : R ∈ l.store.refresh) (hl : now < R.expiration) (hc : R.clientId = q.clientId)
    (hs : R.subject = q.subject) :
    exec (rotate p q R.id now) l =
      (.ok ⟨uuid (l.draws + 1), uuid l.draws, p.accessExpiry q.clientId now⟩,
        { store := { l.store with
            access := l.store.access ++ [pairedAccess p q now (uuid (l.draws + 1)) (uuid l.draws)],
            refresh := List.erase l.store.refresh R ++ [nextRefresh p q now R (uuid l.draws)] },
          draws := l.draws + 2 }) := by
  have hfind : Table.find? l.store.refresh R.id = some R := hu.find?_eq_some.2 ⟨hR, rfl⟩
  have he : (Table.erase l.store.refresh R.id).1 = List.erase l.store.refresh R := hu.erase_eq hR
  rw [exec_rotate_live hfind (RefreshToken.isActiveAt_eq_true.2 hl) hc hs
    (hf.access_unused (by omega)) (hf.erase_unused R.id (Nat.le_refl _)), he]

/-- Issuing a pair, on a ledger whose identifiers lie behind the counter and
    whose refresh tokens have unique ids. With no refresh token presented,
    the call succeeds and adds exactly an access token carrying the request
    and a refresh token that starts a lineage for it; an exchange does the
    same for its request, with no authentication methods. A presented token
    that no row has is refused with nothing changed. An expired one is
    refused and its row deleted. A live one of another client or subject is
    refused with nothing changed. A live one of the request's client and
    subject gives way to the next pair of its lineage: its row goes, and an
    access token carrying the request and a refresh token carrying the
    presented one's grant come in. -/
theorem issue_outcomes (p : Policy) (q : TokenRequest) (now : Instant) {l : Ledger}
    (hf : Fresh l) (hu : Table.Unique l.store.refresh) :
    exec (issue p q none now) l =
      (.ok ⟨uuid (l.draws + 1), uuid l.draws, p.accessExpiry q.clientId now⟩,
        { store := { l.store with
            access := l.store.access ++ [pairedAccess p q now (uuid (l.draws + 1)) (uuid l.draws)],
            refresh := l.store.refresh ++ [firstRefresh p q now (uuid l.draws)] },
          draws := l.draws + 2 }) ∧
    (∀ x : ExchangeRequest, exec (issueForExchange p x now) l =
      (.ok ⟨uuid (l.draws + 1), uuid l.draws, p.accessExpiry x.toTokenRequest.clientId now⟩,
        { store := { l.store with
            access := l.store.access ++
              [pairedAccess p x.toTokenRequest now (uuid (l.draws + 1)) (uuid l.draws)],
            refresh := l.store.refresh ++ [firstRefresh p x.toTokenRequest now (uuid l.draws)] },
          draws := l.draws + 2 }) ∧
      (firstRefresh p x.toTokenRequest now (uuid l.draws)).amr = []) ∧
    (∀ t, (∀ R ∈ l.store.refresh, R.id ≠ t) →
      exec (issue p q (some t) now) l =
        (.error (.invalidRefreshToken "refresh token not found"), l)) ∧
    (∀ R ∈ l.store.refresh, R.expiration ≤ now →
      exec (issue p q (some R.id) now) l =
        (.error (.invalidRefreshToken "refresh token expired"),
          { l with store := { l.store with refresh := List.erase l.store.refresh R } })) ∧
    (∀ R ∈ l.store.refresh, now < R.expiration → (R.clientId ≠ q.clientId ∨ R.subject ≠ q.subject) →
      ∃ m, exec (issue p q (some R.id) now) l = (.error (.invalidRefreshToken m), l)) ∧
    (∀ R ∈ l.store.refresh, now < R.expiration → R.clientId = q.clientId →
      R.subject = q.subject →
      exec (issue p q (some R.id) now) l =
        (.ok ⟨uuid (l.draws + 1), uuid l.draws, p.accessExpiry q.clientId now⟩,
          { store := { l.store with
              access := l.store.access ++ [pairedAccess p q now (uuid (l.draws + 1)) (uuid l.draws)],
              refresh := List.erase l.store.refresh R ++ [nextRefresh p q now R (uuid l.draws)] },
            draws := l.draws + 2 })) := by
  refine ⟨exec_issueFresh_of_fresh hf, fun x => ⟨exec_issueFresh_of_fresh hf, rfl⟩,
    fun t ht => exec_rotate_missing (Table.find?_eq_none_iff.2 ht), ?_, ?_,
    fun R hR hl hc hs => exec_rotate_of_fresh hf hu hR hl hc hs⟩
  · -- expired: the deletion by key is the deletion of the row
    intro R hR hx
    have hfind : Table.find? l.store.refresh R.id = some R := hu.find?_eq_some.2 ⟨hR, rfl⟩
    have he : (Table.erase l.store.refresh R.id).1 = List.erase l.store.refresh R := hu.erase_eq hR
    show exec (rotate p q R.id now) l = _
    rw [exec_rotate_expired hfind (RefreshToken.isActiveAt_eq_false.2 hx), he]
  · -- live but foreign: the client is checked before the subject
    intro R hR hl hcs
    have hfind : Table.find? l.store.refresh R.id = some R := hu.find?_eq_some.2 ⟨hR, rfl⟩
    have ha := RefreshToken.isActiveAt_eq_true.2 hl
    by_cases hc : R.clientId = q.clientId
    · exact ⟨_, exec_rotate_subject hfind ha hc (hcs.resolve_left fun h => h hc)⟩
    · exact ⟨_, exec_rotate_client hfind ha hc⟩

/-- A ledger holding one pair, issued to `web` for subject `7`, presented
    again at once by the same client for the same subject: the pair gives
    way to the next one. -/
theorem pair_rotated_after_issue :
    Fresh { store :=
            { access := [pairedAccess ⟨3600, 86400, 600, []⟩
                ⟨"7", "web", ["web"], ["openid", "email"], 0, ["pwd"]⟩ 0 (uuid 1) (uuid 0)],
              refresh := [firstRefresh ⟨3600, 86400, 600, []⟩
                ⟨"7", "web", ["web"], ["openid", "email"], 0, ["pwd"]⟩ 0 (uuid 0)] },
            draws := 2 } ∧
    Table.Unique [firstRefresh ⟨3600, 86400, 600, []⟩
      ⟨"7", "web", ["web"], ["openid", "email"], 0, ["pwd"]⟩ 0 (uuid 0)] ∧
    exec (issue ⟨3600, 86400, 600, []⟩ ⟨"7", "web", ["web"], ["openid"], 1, ["pwd"]⟩
        (some (uuid 0)) 1)
      { store :=
          { access := [pairedAccess ⟨3600, 86400, 600, []⟩
              ⟨"7", "web", ["web"], ["openid", "email"], 0, ["pwd"]⟩ 0 (uuid 1) (uuid 0)],
            refresh := [firstRefresh ⟨3600, 86400, 600, []⟩
              ⟨"7", "web", ["web"], ["openid", "email"], 0, ["pwd"]⟩ 0 (uuid 0)] },
        draws := 2 } =
    (.ok ⟨uuid 3, uuid 2, 3600001⟩,
      { store :=
        { access := [pairedAccess ⟨3600, 86400, 600, []⟩
              ⟨"7", "web", ["web"], ["openid", "email"], 0, ["pwd"]⟩ 0 (uuid 1) (uuid 0)] ++
            [pairedAccess ⟨3600, 86400, 600, []⟩ ⟨"7", "web", ["web"], ["openid"], 1, ["pwd"]⟩ 1
              (uuid 3) (uuid 2)],
          refresh := List.erase [firstRefresh ⟨3600, 86400, 600, []⟩
                ⟨"7", "web", ["web"], ["openid", "email"], 0, ["pwd"]⟩ 0 (uuid 0)]
              (firstRefresh ⟨3600, 86400, 600, []⟩
                ⟨"7", "web", ["web"], ["openid", "email"], 0, ["pwd"]⟩ 0 (uuid 0)) ++
            [nextRefresh ⟨3600, 86400, 600, []⟩ ⟨"7", "web", ["web"], ["openid"], 1, ["pwd"]⟩ 1
              (firstRefresh ⟨3600, 86400, 600, []⟩
                ⟨"7", "web", ["web"], ["openid", "email"], 0, ["pwd"]⟩ 0 (uuid 0)) (uuid 2)] },
        draws := 4 }) := by
  -- both identifiers of the pair were drawn before the counter's 2
  have hpast : ∀ n, n < 2 → ∀ m, 2 ≤ m → uuid n ≠ uuid m := fun n hn m hm h => by
    have := uuid_inj h
    omega
  have hf : Fresh ⟨⟨[], [pairedAccess ⟨3600, 86400, 600, []⟩
      ⟨"7", "web", ["web"], ["openid", "email"], 0, ["pwd"]⟩ 0 (uuid 1) (uuid 0)],
      [firstRefresh ⟨3600, 86400, 600, []⟩
        ⟨"7", "web", ["web"], ["openid", "email"], 0, ["pwd"]⟩ 0 (uuid 0)], []⟩, 2⟩ := by
    refine ⟨fun A hA => ?_, fun A hA x hx => ?_, fun R hR => ?_⟩
    · rw [List.mem_singleton] at hA
      subst hA
      exact hpast 1 (by decide)
    · rw [List.mem_singleton] at hA
      subst hA
      cases hx
      exact hpast 0 (by decide)
    · rw [List.mem_singleton] at hR
      subst hR
      exact hpast 0 (by decide)
  have hu : Table.Unique [firstRefresh ⟨3600, 86400, 600, []⟩
      ⟨"7", "web", ["web"], ["openid", "email"], 0, ["pwd"]⟩ 0 (uuid 0)] :=
    List.nodup_singleton _
  exact ⟨hf, hu, (issue_outcomes _ _ _ hf hu).2.2.2.2.2 _ (List.mem_singleton_self _)
    (by decide) rfl rfl⟩

end Issuing

-- ============================================================ revoking

/-- A revocation keeps every refresh token but the one the access token
    names. -/
theorem revoked_refresh_eq_filter (A : AccessToken) (t : Table RefreshToken) :
    A.refreshTokenId.elim t (fun x => (Table.erase t x).1) =
      t.filter fun R => A.refreshTokenId ≠ some R.id := by
  cases A.refreshTokenId with
  | none => exact (List.filter_eq_self.2 fun R _ => by simp).symm
  | some x =>
    simp only [Option.elim_some, Table.erase]
    refine List.filter_congr fun R _ => ?_
    by_cases h : R.id = x
    · simp [h]
    · simp [h, Ne.symm h]

/-- Revoking an access token and ending a user's sessions, on a ledger whose
    access tokens have unique ids. A token that no row has is refused as not
    found, and one issued to another client as such, both with nothing
    changed. Otherwise the access token goes, with the refresh token it names
    if that is still there, and nothing else changes. The subject the caller
    names never matters, and a second revocation of the same token is refused
    as not found. Ending a user's sessions, for whichever client asks,
    deletes exactly the access tokens of that subject and the refresh tokens
    of that user. -/
theorem revocation_outcomes {l : Ledger} (hu : Table.Unique l.store.access)
    (tokenId subject client : String) :
    ((∀ A ∈ l.store.access, A.id ≠ tokenId) →
      exec (revoke tokenId subject client) l = (.error (.accessDenied "token not found"), l)) ∧
    (∀ A ∈ l.store.access, A.id = tokenId → A.clientId ≠ client →
      exec (revoke tokenId subject client) l =
        (.error (.invalidClient "token was not issued for this client"), l)) ∧
    (∀ A ∈ l.store.access, A.id = tokenId → A.clientId = client →
      exec (revoke tokenId subject client) l =
        (.ok (), { l with store := { l.store with
          access := List.erase l.store.access A,
          refresh := l.store.refresh.filter fun R => A.refreshTokenId ≠ some R.id } })) ∧
    (∀ subject', exec (revoke tokenId subject' client) l = exec (revoke tokenId subject client) l) ∧
    (∀ subject' l', exec (revoke tokenId subject client) l = (.ok (), l') →
      exec (revoke tokenId subject' client) l' = (.error (.accessDenied "token not found"), l')) ∧
    (∀ u client', exec (terminate u client') l =
      (.ok (), { l with store := { l.store with
        access := l.store.access.filter fun A => A.subject ≠ u,
        refresh := l.store.refresh.filter fun R => R.userId ≠ u } })) := by
  refine ⟨fun h => exec_revoke_absent (Table.find?_eq_none_iff.2 h), ?_, ?_, fun _ => rfl, ?_, ?_⟩
  · rintro A hA rfl hc
    have hfind : Table.find? l.store.access A.id = some A := hu.find?_eq_some.2 ⟨hA, rfl⟩
    exact exec_revoke_foreign hfind hc
  · rintro A hA rfl hc
    have hfind : Table.find? l.store.access A.id = some A := hu.find?_eq_some.2 ⟨hA, rfl⟩
    have he : (Table.erase l.store.access A.id).1 = List.erase l.store.access A := hu.erase_eq hA
    rw [exec_revoke_owned hfind hc, he, revoked_refresh_eq_filter]
  · -- the first revocation deleted every row under the id
    intro subject' l' h
    rcases exec_revoke tokenId subject client l with ⟨e, he⟩ | ⟨T, -, he⟩
    · rw [he] at h
      cases h
    · rw [he, Prod.mk.injEq] at h
      obtain ⟨-, rfl⟩ := h
      exact exec_revoke_absent (Table.find?_erase _ _)
  · intro u client'
    have ha : (Table.eraseWhere l.store.access (·.subject == u)).1 =
        l.store.access.filter fun A => A.subject ≠ u :=
      List.filter_congr fun A _ => by by_cases h : A.subject = u <;> simp [h]
    have hr : (Table.eraseWhere l.store.refresh (·.userId == u)).1 =
        l.store.refresh.filter fun R => R.userId ≠ u :=
      List.filter_congr fun R _ => by by_cases h : R.userId = u <;> simp [h]
    rw [exec_terminate, ha, hr]

/-- The access token of a pair issued to `web` for subject `7` is revoked by
    `web` whoever the caller says the subject is: it goes, and its refresh
    token with it. -/
theorem revoked_with_any_subject :
    Table.Unique [pairedAccess ⟨3600, 86400, 600, []⟩
      ⟨"7", "web", ["web"], ["openid"], 0, ["pwd"]⟩ 0 (uuid 1) (uuid 0)] ∧
    exec (revoke (uuid 1) "mallory" "web")
        { store :=
            { access := [pairedAccess ⟨3600, 86400, 600, []⟩
                ⟨"7", "web", ["web"], ["openid"], 0, ["pwd"]⟩ 0 (uuid 1) (uuid 0)],
              refresh := [firstRefresh ⟨3600, 86400, 600, []⟩
                ⟨"7", "web", ["web"], ["openid"], 0, ["pwd"]⟩ 0 (uuid 0)] },
          draws := 2 } =
      (.ok (),
        { store :=
            { access := List.erase [pairedAccess ⟨3600, 86400, 600, []⟩
                  ⟨"7", "web", ["web"], ["openid"], 0, ["pwd"]⟩ 0 (uuid 1) (uuid 0)]
                (pairedAccess ⟨3600, 86400, 600, []⟩
                  ⟨"7", "web", ["web"], ["openid"], 0, ["pwd"]⟩ 0 (uuid 1) (uuid 0)),
              refresh := [firstRefresh ⟨3600, 86400, 600, []⟩
                  ⟨"7", "web", ["web"], ["openid"], 0, ["pwd"]⟩ 0 (uuid 0)].filter
                fun R => some (uuid 0) ≠ some R.id },
          draws := 2 }) := by
  have hu : Table.Unique [pairedAccess ⟨3600, 86400, 600, []⟩
      ⟨"7", "web", ["web"], ["openid"], 0, ["pwd"]⟩ 0 (uuid 1) (uuid 0)] :=
    List.nodup_singleton _
  exact ⟨hu, (revocation_outcomes hu (uuid 1) "mallory" "web").2.2.1 _
    (List.mem_singleton_self _) rfl rfl⟩

end Warden.Service
