import Warden.Proofs.Service.Gate
import Warden.Proofs.Service.Outcome
import Warden.Proofs.Text.Integer
/-!
# First-party sessions keep their identity

Signing a user in at the front end issues a fresh pair for the built-in
client, with the user's id in decimal as subject, the first-party scopes,
the configured authentication methods and the instant of sign-in, and hands
out the access token as a sealed reference. Refreshing reads the presented
refresh token back, moves its grant to the built-in client and rotates it.

The reference of a session opens at the gate, while its access token is
live, to the session's subject and scopes (`OpensWhileLive`): token ids are
UUIDs and subjects decimals, so neither holds the colon that separates them,
and a 32-bit user id reads back from its decimal (`Integer.int32?_toString`).

A refresh reads the presented token at one instant and rotates it at a
later one, after waiting for the write lock. It succeeds exactly for a
refresh token of the built-in client live at both (`exec_refreshSession_live`
and the refusals before it). A token expired when read is refused by the
read, and one of another client still live when rotated by the rotation,
both with nothing changed; but a token that expires in between reaches the
rotation's expiry check, which deletes it before it looks at the client
(`exec_refreshSession_lapsed`). On every ledger, a refused refresh has
changed nothing but that deletion (`exec_refreshSession_whole`, `Lapsed`).

Along a chain of refreshes (`SessionChain`), with any calls in between, the
rows of the session keep the subject, scopes, methods and authentication
time of its sign-in (`SessionChain.holds`). A refresh carries them from the
presented row to the new one; and the presented row is the one the previous
step left, since a row under an identifier drawn before is never replaced
(`Frame.refresh_row`).
-/

namespace Warden.Service

open Warden.Token Warden.Text

-- ============================================================ identifiers

theorem colon_not_mem_hexDigits (width n : Nat) : ':' ∉ (hexDigits width n).toList := by
  have hdigit : ∀ d, d < 16 →
      (if d < 10 then Char.ofNat (48 + d) else Char.ofNat (87 + d)) ≠ ':' := by
    decide
  intro h
  simp only [hexDigits, String.toList_ofList, List.mem_map] at h
  obtain ⟨i, -, hi⟩ := h
  exact hdigit _ (Nat.mod_lt _ (by omega)) hi

theorem colon_not_mem_uuid (n : Nat) : ':' ∉ (uuid n).toList := by
  unfold uuid
  rw [String.toList_append, List.mem_append, not_or]
  exact ⟨by simp, colon_not_mem_hexDigits _ n⟩

theorem uuid_ne_empty (n : Nat) : uuid n ≠ "" := by
  intro h
  have hl := congrArg String.toList h
  unfold uuid at hl
  rw [String.toList_append] at hl
  simp at hl

-- ============================================================ the gate

/-- The text `v` passes the gate with the claims of the access token `A`,
    in every store with unique access token ids that holds `A`, at every
    instant before `A` expires. -/
def OpensWhileLive (c : Cipher) (v : String) (A : AccessToken) : Prop :=
  ∀ (s : Store) (now : Instant), Table.Unique s.access → A ∈ s.access → now < A.expiration →
    validate c s v now = .ok { tokenId := A.id, subject := A.subject, scopes := A.scopes }

/-- A reference sealed for an access token drawn by the ledger, of a user's
    subject, opens to it while it is live. -/
theorem opensWhileLive_sealed {c : Cipher} (hk : c.key.length = 32) {A : AccessToken} {n : Nat}
    (hid : A.id = uuid n) {u : Int} (hsub : A.subject = toString u) (d : Nat) :
    OpensWhileLive c (c.encrypt (Crypto.Bytes.ofNatBE d 12) (payload A.id A.subject)) A := by
  intro s now hu hA hl
  have he := exec_encodeReference c A.id A.subject { draws := d }
  -- no blanks around the reference
  have hnone : ∀ ch ∈ ("" : String).toList, isBlank ch = true := by simp
  have hv := validate_encodeReference hk hu hA hl (hid ▸ uuid_ne_empty n)
    (hsub ▸ Integer.toString_ne_empty u) (hid ▸ colon_not_mem_uuid n)
    (hsub ▸ Integer.colon_not_mem_toString u) hnone hnone he
  rwa [String.empty_append, String.append_empty] at hv

-- ============================================================ what a session hands out

/-- The request a sign-in of `u` at `now` issues its pair for. -/
def signInRequest (ctx : Context) (u : Int) (now : Instant) : TokenRequest :=
  { subject := toString u, clientId := ctx.builtinClient, audience := [Scope.anyAudience],
    scopes := Scope.firstParty, authTime := now, amr := ctx.config.auth.amr }

/-- The request a refresh issues the next pair for: the grant of the presented
    refresh token, moved to the built-in client. -/
def refreshedRequest (ctx : Context) (R : RefreshToken) : TokenRequest :=
  { R.toRequest.toTokenRequest with clientId := ctx.builtinClient }

/-- The token set of the pair drawn from `d` on: the access token sealed for
    `subject` with the nonce drawn after the pair, and the scopes joined. -/
def sessionSet (ctx : Context) (d : Nat) (subject : String) (scopes : List String)
    (now : Instant) : TokenSet :=
  { accessToken := ctx.cipher.encrypt (Crypto.Bytes.ofNatBE (d + 2) 12)
      (payload (uuid (d + 1)) subject),
    refreshToken := uuid d, tokenType := bearer,
    expiresIn := secondsLeft (ctx.policy.accessExpiry ctx.builtinClient now) now,
    scope := " ".intercalate scopes }

section Exact

variable {ctx : Context} {now : Instant} {l : Ledger}

/-- Signing in on a ledger whose identifiers lie behind the counter issues a
    fresh pair for the sign-in's request and seals its access token. -/
theorem exec_issueSession_of_fresh (hf : Fresh l) (u : Int) :
    exec (issueSession ctx u now) l =
      (.ok (sessionSet ctx l.draws (toString u) Scope.firstParty now),
        { store := { l.store with
            access := l.store.access ++
              [pairedAccess ctx.policy (signInRequest ctx u now) now (uuid (l.draws + 1))
                (uuid l.draws)],
            refresh := l.store.refresh ++
              [firstRefresh ctx.policy (signInRequest ctx u now) now (uuid l.draws)] },
          draws := l.draws + 3 }) := by
  have h := @exec_issueFresh_of_fresh ctx.policy (signInRequest ctx u now) now l hf
  simp only [signInRequest] at h
  simp only [issueSession, issue, exec_bind, h, exec_encodeReference, exec_pure]
  rfl

variable {t : String} {readAt : Instant}

theorem exec_refreshSession_missing (h : Table.find? l.store.refresh t = none) :
    exec (refreshSession ctx t readAt now) l =
      (.error (.invalidRefreshToken "invalid refresh_token"), l) := by
  simp [refreshSession, exec_bind, refreshRequest, h]

/-- A refresh token that has expired when it is read is refused by the read,
    before the rotation could delete it. -/
theorem exec_refreshSession_expired {R : RefreshToken}
    (h : Table.find? l.store.refresh t = some R) (ha : R.isActiveAt readAt = false) :
    exec (refreshSession ctx t readAt now) l =
      (.error (.invalidRefreshToken "invalid refresh_token"), l) := by
  simp [refreshSession, exec_bind, refreshRequest, h, ha]

/-- Once the read has found a live token, a refusal by the rotation is the
    refresh's refusal, with the ledger the rotation left. -/
theorem exec_refreshSession_rotate_error {R : RefreshToken} {e : Error} {l' : Ledger}
    (h : Table.find? l.store.refresh t = some R) (hr : R.isActiveAt readAt = true)
    (he : exec (rotate ctx.policy (refreshedRequest ctx R) t now) l = (.error e, l')) :
    exec (refreshSession ctx t readAt now) l = (.error e, l') := by
  simp only [refreshedRequest] at he
  simp only [refreshSession, exec_bind, exec_current, exec_ofOutcome, refreshRequest, h, hr,
    if_true, issue, he]

/-- A refresh token that is live when read but has expired by the time the
    rotation runs is deleted by the rotation and refused, whatever its
    client: the rotation checks expiry before the client. -/
theorem exec_refreshSession_lapsed {R : RefreshToken}
    (h : Table.find? l.store.refresh t = some R) (hr : R.isActiveAt readAt = true)
    (ha : R.isActiveAt now = false) :
    exec (refreshSession ctx t readAt now) l =
      (.error (.invalidRefreshToken "refresh token expired"),
        { l with store := { l.store with refresh := (Table.erase l.store.refresh t).1 } }) :=
  exec_refreshSession_rotate_error h hr (exec_rotate_expired h ha)

/-- A refresh token of another client, live at both instants, is refused by
    the rotation, which compares it with the built-in client the request was
    moved to. -/
theorem exec_refreshSession_foreign {R : RefreshToken}
    (h : Table.find? l.store.refresh t = some R) (hr : R.isActiveAt readAt = true)
    (ha : R.isActiveAt now = true) (hc : R.clientId ≠ ctx.builtinClient) :
    exec (refreshSession ctx t readAt now) l =
      (.error (.invalidRefreshToken "refresh token was not issued to this client"), l) :=
  exec_refreshSession_rotate_error h hr (exec_rotate_client h ha hc)

theorem exec_refreshSession_live {R : RefreshToken}
    (h : Table.find? l.store.refresh t = some R) (hr : R.isActiveAt readAt = true)
    (ha : R.isActiveAt now = true) (hc : R.clientId = ctx.builtinClient)
    (hA : (Table.find? l.store.access (uuid (l.draws + 1))).isSome = false)
    (hR : (Table.find? (Table.erase l.store.refresh t).1 (uuid l.draws)).isSome = false) :
    exec (refreshSession ctx t readAt now) l =
      (.ok (sessionSet ctx l.draws R.subject R.scopes now),
        { store := { l.store with
            access := l.store.access ++
              [pairedAccess ctx.policy (refreshedRequest ctx R) now (uuid (l.draws + 1))
                (uuid l.draws)],
            refresh := (Table.erase l.store.refresh t).1 ++
              [nextRefresh ctx.policy (refreshedRequest ctx R) now R (uuid l.draws)] },
          draws := l.draws + 3 }) := by
  -- the subject check of the rotation compares the row with its own subject
  have hx := @exec_rotate_live ctx.policy (refreshedRequest ctx R) t now l R h ha hc rfl hA hR
  simp only [refreshedRequest] at hx
  simp only [refreshSession, exec_bind, exec_current, exec_ofOutcome, refreshRequest, h, hr,
    if_true, issue, hx, exec_encodeReference, exec_pure]
  rfl

/-- A rotation whose new pair would fall under an identifier already taken
    is refused, and its deletion rolled back. -/
theorem exec_refreshSession_taken {R : RefreshToken}
    (h : Table.find? l.store.refresh t = some R) (hr : R.isActiveAt readAt = true)
    (ha : R.isActiveAt now = true) (hc : R.clientId = ctx.builtinClient)
    (htaken : (Table.find? l.store.access (uuid (l.draws + 1))).isSome = true ∨
      (Table.find? (Table.erase l.store.refresh t).1 (uuid l.draws)).isSome = true) :
    exec (refreshSession ctx t readAt now) l = (.error Error.storage, l) :=
  -- the subject check of the rotation compares the row with its own subject
  exec_refreshSession_rotate_error h hr (exec_rotate_taken h ha hc rfl htaken)

/-- The ledger a refresh of `t` leaves when the token it read at `readAt`
    has expired by the rotation at `now`: the ledger without the rows under
    `t`. -/
def Lapsed (l : Ledger) (t : String) (readAt now : Instant) (l' : Ledger) : Prop :=
  ∃ R, Table.find? l.store.refresh t = some R ∧ readAt < R.expiration ∧ R.expiration ≤ now ∧
    l' = { l with store := { l.store with refresh := (Table.erase l.store.refresh t).1 } }

/-- On every ledger a refresh is refused with nothing changed, or refused
    after deleting a token that expired while the rotation waited, or hands
    out the sealed reference of a new access token. -/
theorem exec_refreshSession_whole (ctx : Context) (t : String) (readAt now : Instant)
    (l : Ledger) :
    (∃ e, exec (refreshSession ctx t readAt now) l = (.error e, l)) ∨
      (∃ l', exec (refreshSession ctx t readAt now) l =
          (.error (.invalidRefreshToken "refresh token expired"), l') ∧ Lapsed l t readAt now l') ∨
      ∃ ts l', exec (refreshSession ctx t readAt now) l = (.ok ts, l') ∧
        ∃ nonce p, ts.accessToken = ctx.cipher.encrypt nonce p := by
  cases hf : Table.find? l.store.refresh t with
  | none => exact .inl ⟨_, exec_refreshSession_missing hf⟩
  | some R =>
    cases hr : R.isActiveAt readAt with
    | false => exact .inl ⟨_, exec_refreshSession_expired hf hr⟩
    | true =>
      cases ha : R.isActiveAt now with
      | false =>
        exact .inr (.inl ⟨_, exec_refreshSession_lapsed hf hr ha, R, hf,
          RefreshToken.isActiveAt_eq_true.1 hr, RefreshToken.isActiveAt_eq_false.1 ha, rfl⟩)
      | true =>
        by_cases hc : R.clientId = ctx.builtinClient
        · -- the checks pass: the pair goes in unless an identifier is taken
          by_cases hA : (Table.find? l.store.access (uuid (l.draws + 1))).isSome = true
          · exact .inl ⟨_, exec_refreshSession_taken hf hr ha hc (.inl hA)⟩
          · by_cases hR :
                (Table.find? (Table.erase l.store.refresh t).1 (uuid l.draws)).isSome = true
            · exact .inl ⟨_, exec_refreshSession_taken hf hr ha hc (.inr hR)⟩
            · exact .inr (.inr ⟨_, _, exec_refreshSession_live hf hr ha hc
                (Bool.eq_false_iff.2 hA) (Bool.eq_false_iff.2 hR), _, _, rfl⟩)
        · exact .inl ⟨_, exec_refreshSession_foreign hf hr ha hc⟩

/-- A refresh that succeeds read a refresh token of the built-in client
    under the presented value, live when read and when rotated. -/
theorem refreshSession_ok {ts : TokenSet} {l' : Ledger}
    (h : exec (refreshSession ctx t readAt now) l = (.ok ts, l')) :
    ∃ R, Table.find? l.store.refresh t = some R ∧ R.isActiveAt readAt = true ∧
      R.isActiveAt now = true ∧ R.clientId = ctx.builtinClient := by
  cases hf : Table.find? l.store.refresh t with
  | none =>
    rw [exec_refreshSession_missing hf] at h
    cases h
  | some R =>
    cases hr : R.isActiveAt readAt with
    | false =>
      rw [exec_refreshSession_expired hf hr] at h
      cases h
    | true =>
      cases ha : R.isActiveAt now with
      | false =>
        rw [exec_refreshSession_lapsed hf hr ha] at h
        cases h
      | true =>
        by_cases hc : R.clientId = ctx.builtinClient
        · exact ⟨R, rfl, hr, ha, hc⟩
        · rw [exec_refreshSession_foreign hf hr ha hc] at h
          cases h

/-- A refresh token of the built-in client, live at both instants, on a
    ledger whose identifiers lie behind the counter and whose refresh tokens
    have unique ids, gives way to the next pair of its lineage. -/
theorem exec_refreshSession_of_fresh (hf : Fresh l) (hu : Table.Unique l.store.refresh)
    {R : RefreshToken} (hR : R ∈ l.store.refresh) (hr : readAt < R.expiration)
    (hl : now < R.expiration) (hc : R.clientId = ctx.builtinClient) :
    exec (refreshSession ctx R.id readAt now) l =
      (.ok (sessionSet ctx l.draws R.subject R.scopes now),
        { store := { l.store with
            access := l.store.access ++
              [pairedAccess ctx.policy (refreshedRequest ctx R) now (uuid (l.draws + 1))
                (uuid l.draws)],
            refresh := List.erase l.store.refresh R ++
              [nextRefresh ctx.policy (refreshedRequest ctx R) now R (uuid l.draws)] },
          draws := l.draws + 3 }) := by
  have hfind : Table.find? l.store.refresh R.id = some R := hu.find?_eq_some.2 ⟨hR, rfl⟩
  have he : (Table.erase l.store.refresh R.id).1 = List.erase l.store.refresh R := hu.erase_eq hR
  rw [exec_refreshSession_live hfind (RefreshToken.isActiveAt_eq_true.2 hr)
    (RefreshToken.isActiveAt_eq_true.2 hl) hc (hf.access_unused (by omega))
    (hf.erase_unused R.id (Nat.le_refl _)), he]

end Exact

-- ============================================================ sessions held

/-- The refresh token `R` carries the grant of a sign-in of `u` at
    `signedIn`. -/
structure SignedInGrant (ctx : Context) (u : Int) (signedIn : Instant) (R : RefreshToken) :
    Prop where
  subject : R.subject = toString u
  scopes : R.scopes = Scope.firstParty
  amr : R.amr = ctx.config.auth.amr
  authTime : R.authTime = signedIn

theorem SignedInGrant.next {ctx : Context} {u : Int} {signedIn : Instant} {R : RefreshToken}
    (h : SignedInGrant ctx u signedIn R) (p : Policy) (now : Instant) (id : String) :
    SignedInGrant ctx u signedIn (nextRefresh p (refreshedRequest ctx R) now R id) :=
  ⟨h.subject, h.scopes, h.amr, h.authTime⟩

/-- The ledger `l` holds the session `ts` of a sign-in of `u` at `signedIn`:
    its refresh token is a row with that sign-in's grant, its scope is that
    row's scopes joined by spaces, and its access token opens while live to
    an access token of `u` with the first-party scopes. -/
def SessionHeld (ctx : Context) (u : Int) (signedIn : Instant) (l : Ledger) (ts : TokenSet) :
    Prop :=
  ∃ R ∈ l.store.refresh, R.id = ts.refreshToken ∧ SignedInGrant ctx u signedIn R ∧
    ts.scope = " ".intercalate R.scopes ∧
    ∃ A ∈ l.store.access, A.subject = toString u ∧ A.scopes = Scope.firstParty ∧
      OpensWhileLive ctx.cipher ts.accessToken A

/-- A row under an identifier drawn before a frame is the row that was there:
    rows come in only under identifiers drawn within it. -/
theorem Frame.refresh_row {l l' : Ledger} (hf : Fresh l) (hu : Table.Unique l.store.refresh)
    (h : Frame l l') {R₀ R : RefreshToken} (h₀ : R₀ ∈ l.store.refresh)
    (hR : R ∈ l'.store.refresh) (hid : R.id = R₀.id) : R = R₀ := by
  rcases h.refresh R hR with hR | hd
  · exact hu.eq_of_key_eq hR h₀ hid
  · exact absurd hid (hd.ne (hf.refresh R₀ h₀))

section Held

variable {ctx : Context} (hk : ctx.cipher.key.length = 32) {u : Int} {signedIn : Instant}
include hk

theorem sessionHeld_signIn {l : Ledger} (hf : Fresh l) :
    SessionHeld ctx u signedIn (exec (issueSession ctx u signedIn) l).2
      (sessionSet ctx l.draws (toString u) Scope.firstParty signedIn) := by
  rw [exec_issueSession_of_fresh hf]
  -- the reference is stated for the new row first: left to unification
  -- inside the tuple, the sealed text would be opened through the cipher
  have ho := opensWhileLive_sealed hk
    (A := pairedAccess ctx.policy (signInRequest ctx u signedIn) signedIn (uuid (l.draws + 1))
      (uuid l.draws)) rfl rfl (l.draws + 2)
  refine ⟨_, List.mem_append_right _ (List.mem_singleton_self _), rfl, ⟨rfl, rfl, rfl, rfl⟩, rfl,
    _, List.mem_append_right _ (List.mem_singleton_self _), rfl, rfl, ?_⟩
  exact ho

/-- A refresh of a held session, after any calls that kept its identifiers
    behind the counter, holds the next session of the lineage. -/
theorem SessionHeld.refresh {l₀ l l' : Ledger} {ts ts' : TokenSet} {readAt now : Instant}
    (hs : SessionHeld ctx u signedIn l₀ ts) (hf₀ : Fresh l₀)
    (hu₀ : Table.Unique l₀.store.refresh) (hfr : Frame l₀ l) (hu : Table.Unique l.store.refresh)
    (h : exec (refreshSession ctx ts.refreshToken readAt now) l = (.ok ts', l')) :
    SessionHeld ctx u signedIn l' ts' := by
  obtain ⟨R₀, hR₀, hid, hg, -, -⟩ := hs
  -- the refresh read a row of the built-in client under the session's
  -- refresh token, live at both instants, and that row is the one the
  -- session held
  obtain ⟨R, hfind, hr, ha, hc⟩ := refreshSession_ok h
  obtain ⟨hR, hRid⟩ := Table.mem_of_find? hfind
  have hRR₀ : R = R₀ := hfr.refresh_row hf₀ hu₀ hR₀ hR (hRid.trans hid.symm)
  subst hRR₀
  rw [← hid, exec_refreshSession_of_fresh (hfr.fresh hf₀) hu hR
    (RefreshToken.isActiveAt_eq_true.1 hr) (RefreshToken.isActiveAt_eq_true.1 ha) hc,
    Prod.mk.injEq, Except.ok.injEq] at h
  obtain ⟨rfl, rfl⟩ := h
  have ho := opensWhileLive_sealed hk
    (A := pairedAccess ctx.policy (refreshedRequest ctx R) now (uuid (l.draws + 1))
      (uuid l.draws)) rfl hg.subject (l.draws + 2)
  refine ⟨_, List.mem_append_right _ (List.mem_singleton_self _), rfl, hg.next _ _ _, rfl,
    _, List.mem_append_right _ (List.mem_singleton_self _), hg.subject, hg.scopes, ?_⟩
  exact ho

end Held

-- ============================================================ chains of refreshes

/-- The runs from the empty ledger that end by handing out a token set of one
    session of `u`, signed in at `signedIn`: the sign-in, after any calls, and
    then each refresh of the last token set's refresh token, after any
    further calls. -/
inductive SessionChain (ctx : Context) (u : Int) (signedIn : Instant) :
    List Call → TokenSet → Prop
  | signIn {pre : List Call} {ts : TokenSet} {l' : Ledger}
      (h : exec (issueSession ctx u signedIn) (after {} pre) = (.ok ts, l')) :
      SessionChain ctx u signedIn (pre ++ [.signIn ctx u signedIn]) ts
  | refresh {run mid : List Call} {ts ts' : TokenSet} {readAt now : Instant} {l' : Ledger}
      (prev : SessionChain ctx u signedIn run ts)
      (h : exec (refreshSession ctx ts.refreshToken readAt now) (after {} (run ++ mid)) =
        (.ok ts', l')) :
      SessionChain ctx u signedIn
        (run ++ mid ++ [.refreshSession ctx ts.refreshToken readAt now]) ts'

theorem SessionChain.holds {ctx : Context} (hk : ctx.cipher.key.length = 32) {u : Int}
    {signedIn : Instant} {run : List Call} {ts : TokenSet}
    (h : SessionChain ctx u signedIn run ts) : SessionHeld ctx u signedIn (after {} run) ts := by
  -- induction on the chain: the sign-in holds its session, and each refresh
  -- carries the session of the step before over the calls in between
  induction h with
  | @signIn pre ts l' h =>
    have hf := fresh_reachable pre
    have hl : after {} (pre ++ [.signIn ctx u signedIn]) =
        (exec (issueSession ctx u signedIn) (after {} pre)).2 := by
      rw [after_snoc, Call.run, Call.op, exec_map]
    rw [hl]
    rw [exec_issueSession_of_fresh hf, Prod.mk.injEq, Except.ok.injEq] at h
    rw [← h.1]
    exact sessionHeld_signIn hk hf
  | @refresh run mid ts ts' readAt now l' prev h ih =>
    have hl : after {} (run ++ mid ++ [.refreshSession ctx ts.refreshToken readAt now]) = l' := by
      rw [after_snoc, Call.run, Call.op, exec_map, h]
    -- the calls in between keep every identifier drawn before them
    have hfr : Frame (after {} run) (after {} (run ++ mid)) := by
      rw [after_append]
      exact frame_after _ mid
    rw [hl]
    exact ih.refresh hk (fresh_reachable run) (reachable_refresh_unique run) hfr
      (reachable_refresh_unique _) h

-- ============================================================ sessions keep their identity

/-- First-party sessions, on every ledger a run reaches, with a key of the
    length the cipher takes, and a refresh that reads its token at `readAt`
    and rotates it at `now`. A sign-in of a 32-bit user id succeeds and holds
    its session, and the claims of its access token read the user id back. A
    refresh succeeds exactly for a refresh token of the built-in client that
    is live at both instants. One that has expired when read is refused with
    nothing changed, and so is one of another client that is still live when
    rotated; but one that expires in between, of any client, is deleted by
    the rotation. Every token set along a chain of refreshes is held with the
    subject, scopes, methods and time of its sign-in. -/
theorem first_party_sessions_keep_identity (ctx : Context) (hk : ctx.cipher.key.length = 32)
    (pre : List Call) :
    (∀ (u : Int) (now : Instant), -2147483648 ≤ u → u ≤ 2147483647 →
      ∃ ts l', exec (issueSession ctx u now) (after {} pre) = (.ok ts, l') ∧
        SessionHeld ctx u now l' ts ∧
        ∀ A ∈ l'.store.access, A.subject = toString u →
          Claims.userId { tokenId := A.id, subject := A.subject, scopes := A.scopes } = .ok u) ∧
    (∀ t readAt now,
      (∃ ts l', exec (refreshSession ctx t readAt now) (after {} pre) = (.ok ts, l')) ↔
        ∃ R ∈ (after {} pre).store.refresh, R.id = t ∧ readAt < R.expiration ∧
          now < R.expiration ∧ R.clientId = ctx.builtinClient) ∧
    (∀ R ∈ (after {} pre).store.refresh, ∀ readAt now, R.expiration ≤ readAt →
      exec (refreshSession ctx R.id readAt now) (after {} pre) =
        (.error (.invalidRefreshToken "invalid refresh_token"), after {} pre)) ∧
    (∀ R ∈ (after {} pre).store.refresh, ∀ readAt now, readAt < R.expiration →
      now < R.expiration → R.clientId ≠ ctx.builtinClient →
      exec (refreshSession ctx R.id readAt now) (after {} pre) =
        (.error (.invalidRefreshToken "refresh token was not issued to this client"),
          after {} pre)) ∧
    (∀ R ∈ (after {} pre).store.refresh, ∀ readAt now, readAt < R.expiration →
      R.expiration ≤ now →
      exec (refreshSession ctx R.id readAt now) (after {} pre) =
        (.error (.invalidRefreshToken "refresh token expired"),
          { after {} pre with store := { (after {} pre).store with
              refresh := List.erase (after {} pre).store.refresh R } })) ∧
    (∀ u signedIn run ts, SessionChain ctx u signedIn run ts →
      SessionHeld ctx u signedIn (after {} run) ts) := by
  have hf := fresh_reachable pre
  have hu := reachable_refresh_unique pre
  -- a row of the store is the one `find?` reads under its id
  have hfind : ∀ R ∈ (after {} pre).store.refresh,
      Table.find? (after {} pre).store.refresh R.id = some R :=
    fun R hR => hu.find?_eq_some.2 ⟨hR, rfl⟩
  refine ⟨fun u now h₁ h₂ => ?_, fun t readAt now => ⟨?_, ?_⟩,
    fun R hR readAt now hx => ?_, fun R hR readAt now hr hl hc => ?_,
    fun R hR readAt now hr hx => ?_, fun u signedIn run ts h => h.holds hk⟩
  · -- the subject is the user id in decimal, which reads back
    have hs := @sessionHeld_signIn ctx hk u now _ hf
    rw [exec_issueSession_of_fresh hf] at hs
    refine ⟨_, _, exec_issueSession_of_fresh hf u, hs, fun A _ hA => ?_⟩
    simp only [Claims.userId, userIdOf?, hA, Integer.int32?_toString h₁ h₂]
  · rintro ⟨ts, l', h⟩
    obtain ⟨R, hfind, hr, ha, hc⟩ := refreshSession_ok h
    obtain ⟨hR, hid⟩ := Table.mem_of_find? hfind
    exact ⟨R, hR, hid, RefreshToken.isActiveAt_eq_true.1 hr,
      RefreshToken.isActiveAt_eq_true.1 ha, hc⟩
  · rintro ⟨R, hR, rfl, hr, hl, hc⟩
    exact ⟨_, _, exec_refreshSession_of_fresh hf hu hR hr hl hc⟩
  · exact exec_refreshSession_expired (hfind R hR) (RefreshToken.isActiveAt_eq_false.2 hx)
  · exact exec_refreshSession_foreign (hfind R hR) (RefreshToken.isActiveAt_eq_true.2 hr)
      (RefreshToken.isActiveAt_eq_true.2 hl) hc
  · have he : (Table.erase (after {} pre).store.refresh R.id).1 =
        List.erase (after {} pre).store.refresh R := hu.erase_eq hR
    rw [exec_refreshSession_lapsed (hfind R hR) (RefreshToken.isActiveAt_eq_true.2 hr)
      (RefreshToken.isActiveAt_eq_false.2 hx), he]

/-- The least 32-bit user id signs in, with the default configuration, into
    a session whose claims read it back. -/
theorem session_of_least_user_id :
    (Context.ofConfig {} ⟨∅, ∅⟩).cipher.key.length = 32 ∧
    ∃ ts l', exec (issueSession (Context.ofConfig {} ⟨∅, ∅⟩) (-2147483648) 0) (after {} []) =
        (.ok ts, l') ∧
      SessionHeld (Context.ofConfig {} ⟨∅, ∅⟩) (-2147483648) 0 l' ts ∧
      ∀ A ∈ l'.store.access, A.subject = toString (-2147483648 : Int) →
        Claims.userId { tokenId := A.id, subject := A.subject, scopes := A.scopes } =
          .ok (-2147483648) := by
  have hk : (Context.ofConfig {} ⟨∅, ∅⟩).cipher.key.length = 32 := Cipher.length_key_ofSecret _
  exact ⟨hk, (first_party_sessions_keep_identity _ hk []).1 _ 0 (by decide) (by decide)⟩

/-- A refresh token of a partner application, issued at `0` to live an hour,
    read by a session refresh a millisecond before it expires and rotated as
    it expires: the refresh deletes it, though the token is not the built-in
    client's. -/
theorem partner_token_lapsing_in_wait_is_deleted :
    ∃ R ∈ (after {} [.issue ⟨3600, 3600, 600, []⟩
        ⟨"42", "partner-app", [], ["offline_access"], 0, []⟩ none 0]).store.refresh,
      R.clientId ≠ (Context.ofConfig {} ⟨∅, ∅⟩).builtinClient ∧ R.expiration = 3600000 ∧
      ∃ l', exec (refreshSession (Context.ofConfig {} ⟨∅, ∅⟩) R.id 3599999 3600000)
          (after {} [.issue ⟨3600, 3600, 600, []⟩
            ⟨"42", "partner-app", [], ["offline_access"], 0, []⟩ none 0]) =
          (.error (.invalidRefreshToken "refresh token expired"), l') ∧
        Table.find? l'.store.refresh R.id = none := by
  have hfind : Table.find? (after {} [.issue ⟨3600, 3600, 600, []⟩
      ⟨"42", "partner-app", [], ["offline_access"], 0, []⟩ none 0]).store.refresh (uuid 0) =
      some (firstRefresh ⟨3600, 3600, 600, []⟩
        ⟨"42", "partner-app", [], ["offline_access"], 0, []⟩ 0 (uuid 0)) := by
    decide +kernel
  refine ⟨_, (Table.mem_of_find? hfind).1, by decide, rfl, _,
    exec_refreshSession_lapsed hfind (by decide) (by decide), ?_⟩
  decide +kernel

end Warden.Service
