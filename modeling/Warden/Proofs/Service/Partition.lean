import Mathlib.Data.List.Nodup
import Warden.Proofs.Service.Pairing
import Warden.Proofs.Service.Rotation
/-!
# Which rows a write lock covers

Every write of the service first locks a partition. Under one lock per
subject, that is the subject of the request for issuing and refreshing, the
subject of the stored token for a revocation (read before the lock is
taken), and the user for ending a user's sessions (`Call.partition`). Two
writes to one subject's rows are serialized exactly when every row a write
inserts or deletes belongs to the subject it locked.

From every state a run reaches, that holds of every call but one path
(`token_writes_stay_in_partition`). A rotation refuses an expired refresh
token and deletes it before it checks the token's client and subject, so
the token deleted may be another subject's (`expired_token_deleted_outside_partition`).
The other writes stay inside their partition by the store's pairing
(`Paired`): the refresh token a revocation takes with its access token
shares that token's subject, and a refresh token stands for its own subject,
so ending a user's sessions deletes only the user's rows. Access and refresh
token ids are unique, so a deletion by id takes the one row it looked at.
-/

namespace Warden.Service

open Warden.Token

/-- The partition a call locks before it writes: the subject of its request,
    of the stored token it revokes or refreshes, or of the user whose
    sessions it ends. Codes are locked under their own keys; a call refused
    before it locks, or one that writes no token, locks none. -/
def Call.partition (l : Ledger) : Call → Option String
  | .issue _ r _ _ => some r.subject
  | .exchange _ x _ => some x.toTokenRequest.subject
  | .issueAccess _ r _ => some r.subject
  | .saveCode _ authRequestId _ _ => some authRequestId
  | .consumeCode code _ => some code
  | .revoke tokenId _ _ => (Table.find? l.store.access tokenId).map (·.subject)
  | .terminate userId _ => some userId
  | .signIn _ userId _ => some (toString userId)
  | .refreshSession _ token readAt _ =>
    (refreshRequest l.store token readAt).toOption.map (·.subject)
  | .logout _ claims => (Table.find? l.store.access claims.tokenId).map (·.subject)
  | .addUser _ => none

/-- A row that one table has and the other lacks: inserted or deleted on
    the way from the first to the second. -/
def Written {α : Type} (t t' : List α) (x : α) : Prop := x ∈ t ∧ x ∉ t' ∨ x ∈ t' ∧ x ∉ t

section Written

variable {α : Type} {t u : List α} {r x : α}

theorem Written.irrefl (h : Written t t x) : False := by
  rcases h with ⟨h₁, h₂⟩ | ⟨h₁, h₂⟩ <;> exact h₂ h₁

theorem Written.of_subset (h : Written t u x) (hu : ∀ y ∈ u, y ∈ t) : x ∈ t ∧ x ∉ u := by
  rcases h with h | ⟨hx, hn⟩
  · exact h
  · exact absurd (hu x hx) hn

theorem Written.of_subset_append (h : Written t (u ++ [r]) x) (hu : ∀ y ∈ u, y ∈ t) :
    x = r ∨ x ∈ t ∧ x ∉ u := by
  rcases h with ⟨hx, hn⟩ | ⟨hx, hn⟩
  · exact .inr ⟨hx, fun h => hn (List.mem_append_left _ h)⟩
  · rw [List.mem_append, List.mem_singleton] at hx
    rcases hx with hx | rfl
    · exact absurd (hu x hx) hn
    · exact .inl rfl

theorem Written.of_append (h : Written t (t ++ [r]) x) : x = r := by
  rcases h.of_subset_append fun _ h => h with h | ⟨h₁, h₂⟩
  · exact h
  · exact absurd h₁ h₂

theorem Written.of_eraseWhere {p : α → Bool} (h : Written t (Table.eraseWhere t p).1 x) :
    x ∈ t ∧ p x = true := by
  obtain ⟨h₁, h₂⟩ := h.of_subset fun _ h => (Table.mem_eraseWhere.1 h).1
  refine ⟨h₁, ?_⟩
  cases hp : p x with
  | true => rfl
  | false => exact absurd (Table.mem_eraseWhere.2 ⟨h₁, hp⟩) h₂

variable [Keyed α] {k : String}

theorem Written.of_erase (h : Written t (Table.erase t k).1 x) : x ∈ t ∧ Keyed.key x = k := by
  obtain ⟨h₁, h₂⟩ := h.of_subset fun _ h => (Table.mem_erase.1 h).1
  refine ⟨h₁, ?_⟩
  by_cases hk : Keyed.key x = k
  · exact hk
  · exact absurd (Table.mem_erase.2 ⟨h₁, hk⟩) h₂

theorem Written.of_erase_append (h : Written t ((Table.erase t k).1 ++ [r]) x) :
    x = r ∨ x ∈ t ∧ Keyed.key x = k := by
  rcases h.of_subset_append fun _ h => (Table.mem_erase.1 h).1 with h | ⟨h₁, h₂⟩
  · exact .inl h
  · refine .inr ⟨h₁, ?_⟩
    by_cases hk : Keyed.key x = k
    · exact hk
    · exact absurd (Table.mem_erase.2 ⟨h₁, hk⟩) h₂

end Written

-- ============================================================ confined writes

/-- Every token row written on the way from `l` to `l'` belongs to `k`, but
    for refresh tokens that `spare` lets through. -/
structure Confined (l l' : Ledger) (k : String) (spare : RefreshToken → Prop) : Prop where
  access : ∀ A, Written l.store.access l'.store.access A → A.subject = k
  refresh : ∀ R, Written l.store.refresh l'.store.refresh R → R.subject = k ∨ spare R

theorem Confined.of_eq {l l' : Ledger} {k : String} {spare : RefreshToken → Prop}
    (ha : l'.store.access = l.store.access) (hr : l'.store.refresh = l.store.refresh) :
    Confined l l' k spare := by
  refine ⟨fun A hA => ?_, fun R hR => ?_⟩
  · rw [ha] at hA
    exact hA.irrefl.elim
  · rw [hr] at hR
    exact hR.irrefl.elim

/-- Drawing more after a write, with the tables left alone, writes nothing
    more. -/
theorem Confined.advance {l l₁ l₂ : Ledger} {k : String} {spare : RefreshToken → Prop}
    (h : Confined l l₁ k spare) (hs : l₂.store = l₁.store) : Confined l l₂ k spare :=
  ⟨fun A hA => h.access A (hs ▸ hA), fun R hR => h.refresh R (hs ▸ hR)⟩

/-- A fresh pair writes two rows of the request's subject. -/
theorem issueFresh_confined (p : Policy) (r : TokenRequest) (now : Instant) (l : Ledger)
    (spare : RefreshToken → Prop) :
    Confined l (exec (issueFresh p r now) l).2 r.subject spare := by
  rcases exec_issueFresh p r now l with h | ⟨A, R, h, -, -, -, hAs, -, hRs, -⟩
  · rw [h]
    exact .of_eq rfl rfl
  · rw [h]
    refine ⟨fun A' hA' => ?_, fun R' hR' => .inl ?_⟩
    · rw [hA'.of_append]
      exact hAs
    · rw [hR'.of_append]
      exact hRs

/-- A rotation writes rows of the request's subject only, but for the
    presented token, which it deletes when it refuses it as expired. -/
theorem rotate_confined (p : Policy) (r : TokenRequest) (t : String) (now : Instant)
    {l : Ledger} (hu : Table.Unique l.store.refresh) :
    Confined l (exec (rotate p r t now) l).2 r.subject fun R =>
      R ∈ l.store.refresh ∧ R.id = t ∧ R.isActiveAt now = false ∧
        (exec (rotate p r t now) l).1 = .error (.invalidRefreshToken "refresh token expired") := by
  rcases exec_rotate p r t now l with ⟨e, h⟩ | ⟨prev, hf, hact, h⟩ |
      ⟨prev, A, R, hf, h, -, -, -, hAs, -, hRs, -, -, -, -, -, -, hs⟩
  · rw [h]
    exact .of_eq rfl rfl
  · -- the expired token goes, whoever's it is
    obtain ⟨hm, hk⟩ := Table.mem_of_find? hf
    rw [h]
    refine ⟨fun A' hA' => hA'.irrefl.elim, fun R' hR' => .inr ?_⟩
    obtain ⟨h₁, hid⟩ := hR'.of_erase
    obtain rfl : R' = prev := hu.eq_of_key_eq h₁ hm (hid.trans hk.symm)
    exact ⟨h₁, hid, hact, rfl⟩
  · -- the presented token is the one row under its id, and it is the request's subject's
    obtain ⟨hm, hk⟩ := Table.mem_of_find? hf
    rw [h]
    refine ⟨fun A' hA' => ?_, fun R' hR' => .inl ?_⟩
    · rw [hA'.of_append]
      exact hAs.trans hs
    · rcases hR'.of_erase_append with rfl | ⟨h₁, hid⟩
      · exact hRs.trans hs
      · obtain rfl : R' = prev := hu.eq_of_key_eq h₁ hm (hid.trans hk.symm)
        exact hs

/-- A revocation writes rows of the revoked token's subject: the token, and
    the refresh token it names, whose partner it is. -/
theorem revoke_confined (tokenId subject client : String) {l : Ledger} {T : AccessToken}
    (hu : Table.Unique l.store.access) (hp : Paired l.store)
    (hT : Table.find? l.store.access tokenId = some T) (spare : RefreshToken → Prop) :
    Confined l (exec (revoke tokenId subject client) l).2 T.subject spare := by
  obtain ⟨hm, hk⟩ := Table.mem_of_find? hT
  rcases exec_revoke tokenId subject client l with ⟨e, h⟩ | ⟨T', hf, h⟩
  · rw [h]
    exact .of_eq rfl rfl
  · obtain rfl : T' = T := Option.some.inj (hf.symm.trans hT)
    rw [h]
    refine ⟨fun A hA => ?_, fun R hR => .inl ?_⟩
    · obtain ⟨h₁, hid⟩ := hA.of_erase
      rw [hu.eq_of_key_eq h₁ hm (hid.trans hk.symm)]
    · -- a deleted refresh token is the one the revoked token names ...
      have hnames : T'.refreshTokenId = some R.id := by
        cases hx : T'.refreshTokenId with
        | none =>
          rw [hx] at hR
          exact hR.irrefl.elim
        | some x =>
          rw [hx, Option.elim_some] at hR
          rw [← hR.of_erase.2]
          rfl
      have h₁ : R ∈ l.store.refresh := (hR.of_subset fun _ h => (revoked_sublist T' _).subset h).1
      -- ... so the revoked token is its partner, which shares its subject
      obtain ⟨A, hA⟩ := hp.partner R h₁
      have hT' : T' ∈ naming l.store.access R.id := mem_naming.2 ⟨hm, hnames⟩
      rw [hA.only, List.mem_singleton] at hT'
      rw [hT', hA.subject]

/-- Ending a user's sessions writes the user's rows only: a refresh token
    stands for its own subject. -/
theorem terminate_confined (userId client : String) {l : Ledger} (hp : Paired l.store)
    (spare : RefreshToken → Prop) :
    Confined l (exec (terminate userId client) l).2 userId spare := by
  rw [exec_terminate]
  refine ⟨fun A hA => ?_, fun R hR => .inl ?_⟩
  · simpa using hA.of_eraseWhere.2
  · obtain ⟨h₁, hu⟩ := hR.of_eraseWhere
    rw [← hp.user R h₁]
    simpa using hu

-- ============================================================ every call

/-- Every token row a call wrote belongs to the partition it locked, but for
    a presented refresh token it refused as expired. -/
structure Partitioned (c : Call) (l : Ledger) : Prop where
  access : ∀ A, Written l.store.access (c.run l).2.store.access A → c.partition l = some A.subject
  refresh : ∀ R, Written l.store.refresh (c.run l).2.store.refresh R →
    c.partition l = some R.subject ∨
      c.presents = some R.id ∧
        (c.run l).1 = .error (.invalidRefreshToken "refresh token expired")

theorem Confined.partitioned {c : Call} {l : Ledger} {k : String} {spare : RefreshToken → Prop}
    (h : Confined l (c.run l).2 k spare) (hk : c.partition l = some k)
    (hs : ∀ R, spare R → c.presents = some R.id ∧
      (c.run l).1 = .error (.invalidRefreshToken "refresh token expired")) :
    Partitioned c l where
  access A hA := hk.trans (congrArg some (h.access A hA).symm)
  refresh R hR := (h.refresh R hR).imp (fun he => hk.trans (congrArg some he.symm)) (hs R)

theorem Confined.partitioned_strict {c : Call} {l : Ledger} {k : String}
    (h : Confined l (c.run l).2 k fun _ => False) (hk : c.partition l = some k) :
    Partitioned c l :=
  h.partitioned hk fun _ h => h.elim

/-- A call that leaves the token tables alone is partitioned, whatever it
    locks. -/
theorem partitioned_of_eq {c : Call} {l : Ledger}
    (ha : (c.run l).2.store.access = l.store.access)
    (hr : (c.run l).2.store.refresh = l.store.refresh) : Partitioned c l := by
  refine ⟨fun A hA => ?_, fun R hR => ?_⟩
  · rw [ha] at hA
    exact hA.irrefl.elim
  · rw [hr] at hR
    exact hR.irrefl.elim

/-- A revocation, by a client or at logout, is partitioned: refused before
    it locks when the token is not there, and confined to the token's
    subject when it is. -/
theorem revoke_partitioned {c : Call} {l : Ledger} {tokenId subject client : String}
    (hua : Table.Unique l.store.access) (hp : Paired l.store)
    (hc : (c.run l) = ((exec (revoke tokenId subject client) l).1.map fun _ => none,
      (exec (revoke tokenId subject client) l).2))
    (hk : c.partition l = (Table.find? l.store.access tokenId).map (·.subject)) :
    Partitioned c l := by
  cases hT : Table.find? l.store.access tokenId with
  | none =>
    -- a token that is not there is refused before anything is locked
    rcases exec_revoke tokenId subject client l with ⟨e, h⟩ | ⟨T, hf, -⟩
    · rw [h] at hc
      exact partitioned_of_eq (by rw [hc]) (by rw [hc])
    · rw [hT] at hf
      cases hf
  | some T =>
    refine Confined.partitioned_strict ?_ (by rw [hk, hT]; rfl)
    rw [hc]
    exact revoke_confined tokenId subject client hua hp hT _

/-- On a ledger whose token ids are unique and whose tables are paired,
    every call writes inside its partition, but for an expired token it
    was presented. -/
theorem call_partitioned (c : Call) {l : Ledger} (hua : Table.Unique l.store.access)
    (hur : Table.Unique l.store.refresh) (hp : Paired l.store) : Partitioned c l := by
  cases c with
  | issue p r presented now =>
    cases presented with
    | none =>
      have h : Confined l (Call.run (.issue p r none now) l).2 r.subject fun _ => False := by
        rw [Call.run, Call.op, exec_map]
        exact issueFresh_confined p r now l _
      exact h.partitioned_strict rfl
    | some t =>
      have h : Confined l (Call.run (.issue p r (some t) now) l).2 r.subject fun R =>
          R ∈ l.store.refresh ∧ R.id = t ∧ R.isActiveAt now = false ∧
            (exec (rotate p r t now) l).1 =
              .error (.invalidRefreshToken "refresh token expired") := by
        rw [Call.run, Call.op, exec_map]
        exact rotate_confined p r t now hur
      refine h.partitioned rfl ?_
      rintro R ⟨-, rfl, -, he⟩
      refine ⟨rfl, ?_⟩
      rw [Call.run, Call.op, exec_map]
      show (exec (rotate p r R.id now) l).1.map _ = _
      rw [he]
      rfl
  | exchange p x now =>
    have h : Confined l (Call.run (.exchange p x now) l).2 x.toTokenRequest.subject
        fun _ => False := by
      rw [Call.run, Call.op, exec_map]
      exact issueFresh_confined p x.toTokenRequest now l _
    exact h.partitioned_strict rfl
  | issueAccess p r now =>
    rcases exec_issueAccessOnly p r now l with h | ⟨A, h, -, -, hs⟩
    · exact partitioned_of_eq (by rw [Call.run, Call.op, exec_map, h])
        (by rw [Call.run, Call.op, exec_map, h])
    · have hc : Confined l (Call.run (.issueAccess p r now) l).2 r.subject fun _ => False := by
        rw [Call.run, Call.op, exec_map, h]
        refine ⟨fun A' hA' => ?_, fun R hR => hR.irrefl.elim⟩
        rw [hA'.of_append]
        exact hs
      exact hc.partitioned_strict rfl
  | saveCode p a code now =>
    obtain ⟨h1, h2, -⟩ := exec_saveCode_tokens p a code now l
    exact partitioned_of_eq (by rw [Call.run, Call.op, exec_map]; exact h1)
      (by rw [Call.run, Call.op, exec_map]; exact h2)
  | consumeCode code now =>
    obtain ⟨h1, h2, -⟩ := exec_consumeCode_tokens code now l
    exact partitioned_of_eq (by rw [Call.run, Call.op, exec_map]; exact h1)
      (by rw [Call.run, Call.op, exec_map]; exact h2)
  | revoke t s client =>
    exact revoke_partitioned hua hp (by rw [Call.run, Call.op, exec_map]) rfl
  | terminate u client =>
    have h : Confined l (Call.run (.terminate u client) l).2 u fun _ => False := by
      rw [Call.run, Call.op, exec_map]
      exact terminate_confined u client hp _
    exact h.partitioned_strict rfl
  | signIn ctx u now =>
    obtain ⟨r, hs, -, h2, -⟩ := exec_issueSession ctx u now l
    have h : Confined l (Call.run (.signIn ctx u now) l).2 r.subject fun _ => False := by
      rw [Call.run, Call.op, exec_map]
      exact (issueFresh_confined ctx.policy r now l _).advance h2
    exact h.partitioned_strict (by rw [hs]; rfl)
  | refreshSession ctx t readAt now =>
    rcases exec_refreshSession ctx t readAt now l with ⟨e, h⟩ | ⟨st, r, hst, rfl, -, h2, -⟩
    · exact partitioned_of_eq (by rw [Call.run, Call.op, exec_map, h])
        (by rw [Call.run, Call.op, exec_map, h])
    · obtain ⟨R₀, hR₀, rfl⟩ := refreshRequest_eq_ok hst
      have hk : (Call.refreshSession ctx t readAt now).partition l = some R₀.subject := by
        simp only [Call.partition, hst]
        rfl
      have hr := rotate_confined ctx.policy { R₀.toRequest.toTokenRequest with
        clientId := ctx.builtinClient } t now hur
      -- a token that expires between the read and the rotation is deleted by
      -- the rotation; it is the token that was read, of the partition's subject
      have h : Confined l (Call.run (.refreshSession ctx t readAt now) l).2 R₀.subject
          fun _ => False := by
        rw [Call.run, Call.op, exec_map]
        refine ⟨fun A hA => hr.access A (h2 ▸ hA), fun R hR => ?_⟩
        rcases hr.refresh R (h2 ▸ hR) with hs | ⟨hm, hid, -, -⟩
        · exact .inl hs
        · obtain ⟨hm₀, hk₀⟩ := Table.mem_of_find? hR₀
          obtain rfl : R = R₀ := hur.eq_of_key_eq hm hm₀ (hid.trans hk₀.symm)
          exact .inl rfl
      exact h.partitioned_strict hk
  | logout ctx claims =>
    exact revoke_partitioned hua hp (by rw [Call.run, Call.op, exec_map]; rfl) rfl
  | addUser mk =>
    obtain ⟨h1, h2, -⟩ := exec_addUser_tokens mk l
    exact partitioned_of_eq (by rw [Call.run, Call.op, exec_map]; exact h1)
      (by rw [Call.run, Call.op, exec_map]; exact h2)

-- ============================================================ reachable states

/-- A state a run reaches has unique access token ids and paired tables. -/
theorem reachable_paired (pre : List Call) :
    Table.Unique (after {} pre).store.access ∧ Paired (after {} pre).store := by
  have h := after_invariant (fun l => Fresh l ∧ Table.Unique l.store.access ∧ Paired l.store)
    (by
      intro l l' p out hl he
      obtain ⟨hf, hu, hp⟩ := hl
      exact ⟨he.fresh hf, he.unique hf hu, he.paired hf hu hp⟩)
    ⟨fresh_empty, List.Pairwise.nil, paired_empty⟩ pre
  exact h.2

/-- A state a run reaches has unique refresh token ids, since no two of its
    refresh tokens share a lineage. -/
theorem reachable_refresh_unique (pre : List Call) :
    Table.Unique (after {} pre).store.refresh := by
  have h := (lineal_empty.after pre).distinct
  have hm : ((after {} pre).store.refresh.map Keyed.key).map (lineages {} pre id) =
      (after {} pre).store.refresh.map fun R => lineages {} pre id R.id := by
    rw [List.map_map]
    rfl
  exact List.Nodup.of_map _ (hm ▸ h)

/-- From every state a run reaches, every token row a call inserts or
    deletes belongs to the partition the call locked, but for a presented
    refresh token that the call refused as expired. -/
theorem token_writes_stay_in_partition (pre : List Call) (c : Call) :
    (∀ A, Written (after {} pre).store.access (c.run (after {} pre)).2.store.access A →
      c.partition (after {} pre) = some A.subject) ∧
    (∀ R, Written (after {} pre).store.refresh (c.run (after {} pre)).2.store.refresh R →
      c.partition (after {} pre) = some R.subject ∨
        c.presents = some R.id ∧
          (c.run (after {} pre)).1 = .error (.invalidRefreshToken "refresh token expired")) := by
  obtain ⟨hua, hp⟩ := reachable_paired pre
  have h := call_partitioned c hua (reachable_refresh_unique pre) hp
  exact ⟨h.access, h.refresh⟩

/-- A refresh token of subject `7` that has expired, presented with a
    request for subject `999`: the call locks `999` and deletes the token of
    `7`. -/
theorem expired_token_deleted_outside_partition :
    (Call.issue ⟨3600, 3600, 600, []⟩ ⟨"999", "web", [], [], 0, []⟩ (some (uuid 0))
        7200000).partition
      (after {} [.issue ⟨3600, 3600, 600, []⟩ ⟨"7", "web", [], [], 0, []⟩ none 0]) =
        some "999" ∧
    ∃ R ∈ (after {} [.issue ⟨3600, 3600, 600, []⟩ ⟨"7", "web", [], [], 0, []⟩ none 0]).store.refresh,
      R.subject = "7" ∧
      R ∉ (after {} [.issue ⟨3600, 3600, 600, []⟩ ⟨"7", "web", [], [], 0, []⟩ none 0,
        .issue ⟨3600, 3600, 600, []⟩ ⟨"999", "web", [], [], 0, []⟩ (some (uuid 0))
          7200000]).store.refresh := by
  decide +kernel

end Warden.Service
