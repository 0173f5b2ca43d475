import Warden.Proofs.Service.Run
/-!
# Every refresh token travels with its access token

A refresh token is issued together with an access token that names it, and
the two share their subject and their client. The store keeps that pairing
through every run of calls, failed calls included, from any store that has
it (`paired_after`): each refresh token stands for its own subject
(`Paired.user`), and exactly one access token names it, with the same subject
and client (`Paired.partner`). So no refresh token outlives the access token
it was issued with, and no pair spans two subjects or two clients.

The proof goes effect by effect (`Effect.paired`). A new pair names an
identifier just drawn, which no older access token names. A rotation hands
the presented token's subject, user and client on to the new pair. Revoking
an access token takes the refresh token it names with it and no other
access token, since access token ids are unique. Ending a user's sessions
takes refresh tokens by user and access tokens by subject; the two agree
because every refresh token stands for its subject.
-/

namespace Warden.Service

/-- The access tokens of a table that name the refresh token `x`. -/
def naming (t : Table AccessToken) (x : String) : List AccessToken :=
  t.filter (·.refreshTokenId == some x)

/-- `A` is the one access token of `t` that names `R`, and it was issued to
    `R`'s subject and client. -/
structure Partner (t : Table AccessToken) (R : RefreshToken) (A : AccessToken) : Prop where
  only : naming t R.id = [A]
  subject : A.subject = R.subject
  client : A.clientId = R.clientId

/-- The pairing of the token tables. -/
structure Paired (s : Store) : Prop where
  user : ∀ R ∈ s.refresh, R.userId = R.subject
  partner : ∀ R ∈ s.refresh, ∃ A, Partner s.access R A

theorem paired_empty : Paired ({} : Ledger).store where
  user _ h := nomatch h
  partner _ h := nomatch h

-- ============================================================ naming

@[simp] theorem mem_naming {t : Table AccessToken} {x : String} {A : AccessToken} :
    A ∈ naming t x ↔ A ∈ t ∧ A.refreshTokenId = some x := by
  simp [naming]

theorem naming_append (t : Table AccessToken) (B : AccessToken) (x : String) :
    naming (t ++ [B]) x = naming t x ++ naming [B] x :=
  List.filter_append _ _

theorem naming_filter (t : Table AccessToken) (q : AccessToken → Bool) (x : String) :
    naming (t.filter q) x = (naming t x).filter q := by
  simp only [naming, List.filter_filter, Bool.and_comm]

theorem Partner.mem {t : Table AccessToken} {R : RefreshToken} {A : AccessToken}
    (h : Partner t R A) : A ∈ t ∧ A.refreshTokenId = some R.id :=
  mem_naming.1 (h.only ▸ List.mem_singleton_self A)

/-- A row that does not name `R` leaves its partner alone. -/
theorem Partner.append {t : Table AccessToken} {R : RefreshToken} {A B : AccessToken}
    (h : Partner t R A) (hB : B.refreshTokenId ≠ some R.id) : Partner (t ++ [B]) R A := by
  refine ⟨?_, h.subject, h.client⟩
  rw [naming_append, h.only]
  simp [naming, hB]

/-- Removing rows keeps a partner that stays. -/
theorem Partner.filter {t : Table AccessToken} {R : RefreshToken} {A : AccessToken}
    (h : Partner t R A) {q : AccessToken → Bool} (hq : q A = true) :
    Partner (t.filter q) R A := by
  refine ⟨?_, h.subject, h.client⟩
  rw [naming_filter, h.only]
  simp [hq]

/-- An access token added to name `R`, when no row named it before, is its
    partner. -/
theorem partner_new {t : Table AccessToken} {R : RefreshToken} {A : AccessToken}
    (ht : ∀ B ∈ t, B.refreshTokenId ≠ some R.id) (hA : A.refreshTokenId = some R.id)
    (hs : A.subject = R.subject) (hc : A.clientId = R.clientId) :
    Partner (t ++ [A]) R A := by
  refine ⟨?_, hs, hc⟩
  have hnil : naming t R.id = [] := List.filter_eq_nil_iff.2 fun B hB => by simpa using ht B hB
  rw [naming_append, hnil]
  simp [naming, hA]

-- ============================================================ effects

/-- After a new pair, every refresh token of the old table and the new one
    has its partner. -/
theorem NewPair.partner {l l' : Ledger} {A : AccessToken} {R : RefreshToken} (hf : Fresh l)
    (hp : Paired l.store) (hn : NewPair l l' A R) (hs : A.subject = R.subject)
    (hc : A.clientId = R.clientId) :
    ∀ R' ∈ l.store.refresh ++ [R], ∃ A', Partner l'.store.access R' A' := by
  intro R' hR'
  rw [hn.access]
  rcases List.mem_append.1 hR' with hR' | hR'
  · -- an old refresh token is no drawn identifier, so the new row names another
    obtain ⟨A', hA'⟩ := hp.partner R' hR'
    have hne : R.id ≠ R'.id := hn.refresh_drawn.ne (hf.refresh R' hR')
    exact ⟨A', hA'.append (by rw [hn.names]; simpa using hne)⟩
  · rw [List.mem_singleton] at hR'
    subst hR'
    refine ⟨A, partner_new (fun B hB hBR => ?_) hn.names hs hc⟩
    exact hn.refresh_drawn.ne (hf.names B hB _ hBR) rfl

/-- A refresh token that survives the revocation of `T` is not the one `T`
    names. -/
theorem mem_revoked {T : AccessToken} {t : Table RefreshToken} {R : RefreshToken} :
    R ∈ T.refreshTokenId.elim t (fun x => (Table.erase t x).1) ↔
      R ∈ t ∧ T.refreshTokenId ≠ some R.id := by
  cases T.refreshTokenId with
  | none => simp
  | some x => simp [eq_comm]

theorem Effect.paired {l l' : Ledger} {p : Option String} {out : Except Error (Option String)}
    (hf : Fresh l) (hu : Table.Unique l.store.access) (hp : Paired l.store)
    (h : Effect l p out l') : Paired l'.store := by
  cases h with
  | keep _ ha hr =>
    exact ⟨fun R hR => hp.user R (hr ▸ hR), fun R hR => ha ▸ hp.partner R (hr ▸ hR)⟩
  | start A R _ hn hs hc hu' hr =>
    refine ⟨fun R' hR' => ?_, fun R' hR' => hn.partner hf hp hs hc R' (hr ▸ hR')⟩
    rw [hr, List.mem_append, List.mem_singleton] at hR'
    rcases hR' with hR' | rfl
    · exact hp.user R' hR'
    · exact hu'
  | rotate prev A R _ hm hn has hac hrs hru hrc hr =>
    -- the new pair takes over the presented token's subject, user and client
    have hs : A.subject = R.subject := by rw [has, hrs]
    have hc : A.clientId = R.clientId := by rw [hac, hrc]
    have hsub : ∀ R' ∈ l'.store.refresh, R' ∈ l.store.refresh ++ [R] := by
      intro R' hR'
      rw [hr, List.mem_append, Table.mem_erase] at hR'
      exact List.mem_append.2 (hR'.imp_left And.left)
    refine ⟨fun R' hR' => ?_, fun R' hR' => hn.partner hf hp hs hc R' (hsub R' hR')⟩
    rcases List.mem_append.1 (hsub R' hR') with hR' | hR'
    · exact hp.user R' hR'
    · rw [List.mem_singleton] at hR'
      rw [hR', hru, hrs]
      exact hp.user prev hm
  | grant A _ _ hn ha hr =>
    refine ⟨fun R hR => hp.user R (hr ▸ hR), fun R hR => ?_⟩
    obtain ⟨A', hA'⟩ := hp.partner R (hr ▸ hR)
    rw [ha]
    exact ⟨A', hA'.append (by simp [hn])⟩
  | drop x _ ha hr =>
    refine ⟨fun R hR => ?_, fun R hR => ?_⟩
    · rw [hr, Table.mem_erase] at hR
      exact hp.user R hR.1
    · rw [hr, Table.mem_erase] at hR
      exact ha ▸ hp.partner R hR.1
  | revoke T _ hT ha hr =>
    refine ⟨fun R hR => ?_, fun R hR => ?_⟩
    · rw [hr, mem_revoked] at hR
      exact hp.user R hR.1
    rw [hr, mem_revoked] at hR
    obtain ⟨hR, hTR⟩ := hR
    obtain ⟨A, hA⟩ := hp.partner R hR
    -- the partner is not `T`: the one row under `T`'s id is `T`, which names
    -- another refresh token
    have hne : A.id ≠ T.id := by
      intro he
      have hAT : A = T := hu.eq_of_key_eq hA.mem.1 hT he
      exact hTR (hAT ▸ hA.mem.2)
    rw [ha]
    exact ⟨A, hA.filter (by simpa using hne)⟩
  | terminate u _ ha hr =>
    refine ⟨fun R hR => ?_, fun R hR => ?_⟩
    · rw [hr, Table.mem_eraseWhere] at hR
      exact hp.user R hR.1
    rw [hr, Table.mem_eraseWhere] at hR
    obtain ⟨hR, hRu⟩ := hR
    obtain ⟨A, hA⟩ := hp.partner R hR
    -- the partner's subject is the refresh token's user, who stays
    have hAu : (A.subject == u) = false := by rw [hA.subject, ← hp.user R hR]; exact hRu
    rw [ha]
    exact ⟨A, hA.filter (by simp [hAu])⟩

/-- Every run of calls keeps the pairing of the token tables, from any
    ledger that has it, whose access token ids are unique and whose
    identifiers all lie behind the counter. -/
theorem paired_after {l : Ledger} (hf : Fresh l) (hu : Table.Unique l.store.access)
    (hp : Paired l.store) (calls : List Call) : Paired (after l calls).store :=
  (after_invariant (fun l => Fresh l ∧ Table.Unique l.store.access ∧ Paired l.store)
    (fun ⟨hf, hu, hp⟩ he => ⟨he.fresh hf, he.unique hf hu, he.paired hf hu hp⟩)
    ⟨hf, hu, hp⟩ calls).2.2

/-- From the empty ledger, a fresh pair, its rotation and the end of its
    user's sessions leave the tables paired. -/
theorem paired_after_rotation :
    Fresh {} ∧ Table.Unique ({} : Ledger).store.access ∧ Paired ({} : Ledger).store ∧
      Paired (after {}
        [.issue ⟨3600, 86400, 600, []⟩ ⟨"alice", "app", [], ["read"], 0, []⟩ none 0,
         .issue ⟨3600, 86400, 600, []⟩ ⟨"alice", "app", [], ["read"], 0, []⟩ (some (uuid 0)) 1,
         .terminate "alice" "app"]).store :=
  ⟨fresh_empty, List.Pairwise.nil, paired_empty, paired_after fresh_empty List.Pairwise.nil
    paired_empty _⟩

end Warden.Service
