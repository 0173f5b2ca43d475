import Warden.Proofs.Service.Exec
/-!
# Runs of calls

The service's writes, as calls a client can make with any arguments
(`Call`), and runs of them one after another (`after`). A call runs as a
whole: two calls never interleave inside the ledger, which is what the
service's write lock and its store transactions give it. A caller that reads
before it writes, as refreshing a session does, is a read followed by a
call whose arguments come from a ledger that may since have moved on; since
calls are taken with any arguments, such stale reads are runs too.

`Effect` says once what a single call can do to the token tables: leave
them alone, start a lineage with a fresh pair, rotate a lineage, add an
access token alone, drop a refresh token, revoke an access token with its
pair, or end a subject's sessions. Each kind comes with what the call
answered: only a fresh pair and a rotation hand out a refresh token, and a
call that presents a refresh token succeeds only by rotating it.
`call_effect` proves that every call has one of these effects; invariants of
the store are then proved once for each kind of effect.

Identifiers come from the ledger's counter. `Fresh` says that every
identifier in the store lies behind the counter, so a new draw never meets
one in use: this is the service's assumption that a new UUID has never been
seen, and every call keeps it (`Effect.fresh`).
-/

namespace Warden.Service

open Warden.Token

/-- A write a client can ask of the service, with its arguments. -/
inductive Call where
  /-- A token pair: a fresh one, or the next of a presented refresh token's
      lineage. -/
  | issue (p : Policy) (r : TokenRequest) (presented : Option String) (now : Instant)
  | exchange (p : Policy) (x : ExchangeRequest) (now : Instant)
  | issueAccess (p : Policy) (r : TokenRequest) (now : Instant)
  | saveCode (p : Policy) (authRequestId code : String) (now : Instant)
  | consumeCode (code : String) (now : Instant)
  | revoke (tokenId subject client : String)
  | terminate (userId client : String)
  | signIn (ctx : Context) (userId : Int) (now : Instant)
  | refreshSession (ctx : Context) (token : String) (readAt now : Instant)
  | logout (ctx : Context) (claims : Claims)
  | addUser (mk : Int → User)

namespace Call

/-- The refresh token a call presents to be rotated. -/
def presents : Call → Option String
  | issue _ _ presented _ => presented
  | refreshSession _ token _ _ => some token
  | _ => none

/-- The call as an operation, answering the refresh token it handed out. -/
def op : Call → Op (Option String)
  | issue p r presented now => (fun i => some i.refreshToken) <$> Service.issue p r presented now
  | exchange p x now => (fun i => some i.refreshToken) <$> issueForExchange p x now
  | issueAccess p r now => (fun _ => none) <$> issueAccessOnly p r now
  | saveCode p a c now => (fun _ => none) <$> Service.saveCode p a c now
  | consumeCode c now => (fun _ => none) <$> Service.consumeCode c now
  | revoke t s c => (fun _ => none) <$> Service.revoke t s c
  | terminate u c => (fun _ => none) <$> Service.terminate u c
  | signIn ctx u now => (fun s => some s.refreshToken) <$> issueSession ctx u now
  | refreshSession ctx t readAt now =>
    (fun s => some s.refreshToken) <$> Service.refreshSession ctx t readAt now
  | logout ctx claims => (fun _ => none) <$> Service.logout ctx claims
  | addUser mk => (fun _ => none) <$> Service.addUser mk

/-- Runs a call: what it answered, and the ledger it left. -/
def run (c : Call) (l : Ledger) : Except Error (Option String) × Ledger := exec c.op l

end Call

/-- The ledger after calls made one after another. -/
def after (l : Ledger) (calls : List Call) : Ledger :=
  calls.foldl (fun l c => (c.run l).2) l

@[simp] theorem after_nil (l : Ledger) : after l [] = l := rfl

@[simp] theorem after_cons (l : Ledger) (c : Call) (cs : List Call) :
    after l (c :: cs) = after (c.run l).2 cs := rfl

theorem after_append (l : Ledger) (cs ds : List Call) :
    after l (cs ++ ds) = after (after l cs) ds := by
  simp [after, List.foldl_append]

theorem after_snoc (l : Ledger) (cs : List Call) (c : Call) :
    after l (cs ++ [c]) = (c.run (after l cs)).2 := by
  rw [after_append, after_cons, after_nil]

-- ============================================================ the counter

/-- `x` was drawn on the way from `l` to `l'`. -/
def Drawn (l l' : Ledger) (x : String) : Prop := ∃ m, l.draws ≤ m ∧ m < l'.draws ∧ x = uuid m

/-- No draw from `l` on gives `x`. -/
def Past (l : Ledger) (x : String) : Prop := ∀ m, l.draws ≤ m → x ≠ uuid m

theorem Past.mono {l l' : Ledger} {x : String} (h : Past l x) (hd : l.draws ≤ l'.draws) :
    Past l' x :=
  fun m hm => h m (Nat.le_trans hd hm)

theorem Drawn.mono {l l₁ l₂ : Ledger} {x : String} (h : Drawn l l₁ x) (hd : l₁.draws ≤ l₂.draws) :
    Drawn l l₂ x := by
  obtain ⟨m, h₁, h₂, rfl⟩ := h
  exact ⟨m, h₁, Nat.lt_of_lt_of_le h₂ hd, rfl⟩

/-- What was drawn lies behind the counter afterwards. -/
theorem Drawn.past {l l' : Ledger} {x : String} (h : Drawn l l' x) : Past l' x := by
  obtain ⟨m, -, hm, rfl⟩ := h
  intro n hn heq
  have := uuid_inj heq
  omega

/-- A drawn identifier is none of those that lay behind the counter. -/
theorem Drawn.ne {l l' : Ledger} {x y : String} (h : Drawn l l' x) (hy : Past l y) : x ≠ y := by
  obtain ⟨m, hm, -, rfl⟩ := h
  exact fun heq => hy m hm heq.symm

/-- Every identifier of the store lies behind the counter: access token ids,
    the refresh token ids they name, and refresh token ids. -/
structure Fresh (l : Ledger) : Prop where
  access : ∀ A ∈ l.store.access, Past l A.id
  names : ∀ A ∈ l.store.access, ∀ x, A.refreshTokenId = some x → Past l x
  refresh : ∀ R ∈ l.store.refresh, Past l R.id

theorem fresh_empty : Fresh {} where
  access _ h := nomatch h
  names _ h := nomatch h
  refresh _ h := nomatch h

-- ============================================================ effects

/-- A call hands out no refresh token, and if it presented one it failed. -/
def Quiet (presented : Option String) (out : Except Error (Option String)) : Prop :=
  ∀ t, out = .ok t → presented = none ∧ t = none

/-- A pair issued on the way from `l` to `l'`: both identifiers drawn, the
    access token naming the refresh token and added to its table. -/
structure NewPair (l l' : Ledger) (A : AccessToken) (R : RefreshToken) : Prop where
  access_drawn : Drawn l l' A.id
  refresh_drawn : Drawn l l' R.id
  names : A.refreshTokenId = some R.id
  access : l'.store.access = l.store.access ++ [A]
  draws : l.draws ≤ l'.draws

/-- The pair a call draws two identifiers for, the refresh token's first. -/
theorem NewPair.of_draws {l : Ledger} {s : Store} {A : AccessToken} {R : RefreshToken}
    (hA : A.id = uuid (l.draws + 1)) (hR : R.id = uuid l.draws)
    (hAR : A.refreshTokenId = some R.id) (hs : s.access = l.store.access ++ [A]) :
    NewPair l { store := s, draws := l.draws + 2 } A R :=
  ⟨⟨l.draws + 1, by omega, by simp, hA⟩, ⟨l.draws, by omega, by simp, hR⟩, hAR, hs, by simp⟩

theorem NewPair.advance {l l₁ l₂ : Ledger} {A : AccessToken} {R : RefreshToken}
    (h : NewPair l l₁ A R) (hs : l₂.store = l₁.store) (hd : l₁.draws ≤ l₂.draws) :
    NewPair l l₂ A R :=
  ⟨h.access_drawn.mono hd, h.refresh_drawn.mono hd, h.names, hs ▸ h.access,
    Nat.le_trans h.draws hd⟩

/-- Every access token after a new pair was there before, or is the pair's,
    under identifiers drawn. -/
theorem NewPair.access_frame {l l' : Ledger} {A : AccessToken} {R : RefreshToken}
    (h : NewPair l l' A R) : ∀ A' ∈ l'.store.access, A' ∈ l.store.access ∨
      Drawn l l' A'.id ∧ ∀ x, A'.refreshTokenId = some x → Drawn l l' x := by
  intro A' hA'
  rw [h.access, List.mem_append, List.mem_singleton] at hA'
  rcases hA' with hA' | rfl
  · exact .inl hA'
  · refine .inr ⟨h.access_drawn, fun x hx => ?_⟩
    rw [h.names, Option.some.injEq] at hx
    exact hx ▸ h.refresh_drawn

/-- What one call that presents `presented` can do to the token tables, with
    what it answered. -/
inductive Effect (l : Ledger) (presented : Option String) :
    Except Error (Option String) → Ledger → Prop where
  /-- The token tables stay as they were. -/
  | keep {out : Except Error (Option String)} {l' : Ledger} :
      Quiet presented out → l'.store.access = l.store.access →
      l'.store.refresh = l.store.refresh → l.draws ≤ l'.draws → Effect l presented out l'
  /-- A fresh pair starts a lineage; the refresh token stands for its subject,
      and both tokens carry the scopes and audience granted. -/
  | start {l' : Ledger} (A : AccessToken) (R : RefreshToken) :
      presented = none → NewPair l l' A R → A.subject = R.subject → A.clientId = R.clientId →
      R.userId = R.subject → l'.store.refresh = l.store.refresh ++ [R] →
      A.scopes = R.scopes → A.audience = R.audience →
      Effect l presented (.ok (some R.id)) l'
  /-- The presented refresh token gives way to a new pair of its lineage;
      the new refresh token keeps the presented one's scopes and audience. -/
  | rotate {l' : Ledger} (prev : RefreshToken) (A : AccessToken) (R : RefreshToken) :
      presented = some prev.id → prev ∈ l.store.refresh → NewPair l l' A R →
      A.subject = prev.subject → A.clientId = prev.clientId → R.subject = prev.subject →
      R.userId = prev.userId → R.clientId = prev.clientId →
      l'.store.refresh = (Table.erase l.store.refresh prev.id).1 ++ [R] →
      R.scopes = prev.scopes → R.audience = prev.audience →
      Effect l presented (.ok (some R.id)) l'
  /-- An access token with no refresh token. -/
  | grant {out : Except Error (Option String)} {l' : Ledger} (A : AccessToken) :
      Quiet presented out → Drawn l l' A.id → A.refreshTokenId = none →
      l'.store.access = l.store.access ++ [A] → l'.store.refresh = l.store.refresh →
      l.draws ≤ l'.draws → Effect l presented out l'
  /-- A refresh token is dropped. -/
  | drop {out : Except Error (Option String)} {l' : Ledger} (x : String) :
      Quiet presented out → l'.store.access = l.store.access →
      l'.store.refresh = (Table.erase l.store.refresh x).1 → l.draws ≤ l'.draws →
      Effect l presented out l'
  /-- An access token is revoked with the refresh token it names. -/
  | revoke {out : Except Error (Option String)} {l' : Ledger} (T : AccessToken) :
      Quiet presented out → T ∈ l.store.access →
      l'.store.access = (Table.erase l.store.access T.id).1 →
      l'.store.refresh =
        T.refreshTokenId.elim l.store.refresh (fun x => (Table.erase l.store.refresh x).1) →
      l.draws ≤ l'.draws → Effect l presented out l'
  /-- Every token of a user goes. -/
  | terminate {out : Except Error (Option String)} {l' : Ledger} (u : String) :
      Quiet presented out →
      l'.store.access = (Table.eraseWhere l.store.access (·.subject == u)).1 →
      l'.store.refresh = (Table.eraseWhere l.store.refresh (·.userId == u)).1 →
      l.draws ≤ l'.draws → Effect l presented out l'

/-- Drawing more after a call, with the tables left alone, keeps its effect. -/
theorem Effect.advance {l l₁ l₂ : Ledger} {p : Option String} {out : Except Error (Option String)}
    (h : Effect l p out l₁) (hs : l₂.store = l₁.store) (hd : l₁.draws ≤ l₂.draws) :
    Effect l p out l₂ := by
  cases h with
  | keep hq ha hr hl => exact .keep hq (hs ▸ ha) (hs ▸ hr) (Nat.le_trans hl hd)
  | start A R hp hn hs' hc hu hr hsc hau =>
    exact .start A R hp (hn.advance hs hd) hs' hc hu (hs ▸ hr) hsc hau
  | rotate prev A R hp hm hn has hac hrs hru hrc hr hsc hau =>
    exact .rotate prev A R hp hm (hn.advance hs hd) has hac hrs hru hrc (hs ▸ hr) hsc hau
  | grant A hq hdr hn ha hr hl =>
    exact .grant A hq (hdr.mono hd) hn (hs ▸ ha) (hs ▸ hr) (Nat.le_trans hl hd)
  | drop x hq ha hr hl => exact .drop x hq (hs ▸ ha) (hs ▸ hr) (Nat.le_trans hl hd)
  | revoke T hq hm ha hr hl => exact .revoke T hq hm (hs ▸ ha) (hs ▸ hr) (Nat.le_trans hl hd)
  | terminate u hq ha hr hl => exact .terminate u hq (hs ▸ ha) (hs ▸ hr) (Nat.le_trans hl hd)

/-- A call that fails and leaves the ledger alone. -/
theorem Effect.refused {l : Ledger} {p : Option String} (e : Error) :
    Effect l p (.error e) l :=
  .keep (fun _ h => nomatch h) rfl rfl (Nat.le_refl _)

/-- A call that answers nothing of note is quiet when it presents nothing. -/
theorem quiet_map_none (x : Except Error α) : Quiet none (x.map fun _ => none) := by
  intro t h
  cases x with
  | error e => cases h
  | ok a => exact ⟨rfl, (Except.ok.inj h).symm⟩

theorem issueFresh_effect (p : Policy) (r : TokenRequest) (now : Instant) (l : Ledger) :
    Effect l none ((exec (issueFresh p r now) l).1.map fun i => some i.refreshToken)
      (exec (issueFresh p r now) l).2 := by
  rcases exec_issueFresh p r now l with h |
      ⟨A, R, h, hA, hR, hAR, hAs, hAc, hRs, hRu, hRc, hAsc, hAau, hRsc, hRau⟩
  · rw [h]
    exact .refused _
  · rw [h]
    refine .start A R rfl (NewPair.of_draws hA hR hAR rfl) ?_ ?_ ?_ rfl ?_ ?_
    · rw [hAs, hRs]
    · rw [hAc, hRc]
    · rw [hRu, hRs]
    · rw [hAsc, hRsc]
    · rw [hAau, hRau]

theorem rotate_effect (p : Policy) (r : TokenRequest) (t : String) (now : Instant) (l : Ledger) :
    Effect l (some t) ((exec (rotate p r t now) l).1.map fun i => some i.refreshToken)
      (exec (rotate p r t now) l).2 := by
  rcases exec_rotate p r t now l with ⟨e, h⟩ | ⟨-, -, -, h⟩ |
      ⟨prev, A, R, hf, h, hA, hR, hAR, hAs, hAc, hRs, hRu, hRc, -, -, hRsc, hRau, -⟩
  · rw [h]
    exact .refused e
  · rw [h]
    exact .drop t (fun _ h => nomatch h) rfl rfl (Nat.le_refl _)
  · obtain ⟨hm, hk⟩ := Table.mem_of_find? hf
    simp only [RefreshToken.key_eq] at hk
    subst hk
    rw [h]
    exact .rotate prev A R rfl hm (NewPair.of_draws hA hR hAR rfl) hAs hAc hRs hRu hRc rfl
      hRsc hRau

theorem revoke_effect (tokenId subject client : String) (l : Ledger) :
    Effect l none ((exec (revoke tokenId subject client) l).1.map fun _ => none)
      (exec (revoke tokenId subject client) l).2 := by
  rcases exec_revoke tokenId subject client l with ⟨e, h⟩ | ⟨T, hf, h⟩
  · rw [h]
    exact .refused e
  · obtain ⟨hm, hk⟩ := Table.mem_of_find? hf
    simp only [AccessToken.key_eq] at hk
    subst hk
    rw [h]
    exact .revoke T (quiet_map_none _) hm rfl rfl (Nat.le_refl _)

/-- Every call has one of the effects. -/
theorem call_effect (c : Call) (l : Ledger) : Effect l c.presents (c.run l).1 (c.run l).2 := by
  cases c with
  | issue p r presented now =>
    rw [Call.run, Call.op, exec_map]
    cases presented with
    | none => exact issueFresh_effect p r now l
    | some t => exact rotate_effect p r t now l
  | exchange p x now =>
    rw [Call.run, Call.op, exec_map]
    exact issueFresh_effect p x.toTokenRequest now l
  | issueAccess p r now =>
    rw [Call.run, Call.op, exec_map]
    rcases exec_issueAccessOnly p r now l with h | ⟨A, h, hA, hn, -⟩
    · rw [h]
      exact .refused _
    · rw [h]
      dsimp only
      exact .grant A (quiet_map_none _) ⟨l.draws, by omega, by simp, hA⟩ hn rfl rfl (by simp)
  | saveCode p a code now =>
    obtain ⟨h1, h2, h3⟩ := exec_saveCode_tokens p a code now l
    rw [Call.run, Call.op, exec_map]
    exact .keep (quiet_map_none _) h1 h2 (Nat.le_of_eq h3.symm)
  | consumeCode code now =>
    obtain ⟨h1, h2, h3⟩ := exec_consumeCode_tokens code now l
    rw [Call.run, Call.op, exec_map]
    exact .keep (quiet_map_none _) h1 h2 (Nat.le_of_eq h3.symm)
  | revoke t s client =>
    rw [Call.run, Call.op, exec_map]
    exact revoke_effect t s client l
  | terminate u client =>
    rw [Call.run, Call.op, exec_map, exec_terminate]
    dsimp only
    exact .terminate u (quiet_map_none _) rfl rfl (Nat.le_refl _)
  | signIn ctx u now =>
    obtain ⟨r, -, h1, h2, h3⟩ := exec_issueSession ctx u now l
    rw [Call.run, Call.op, exec_map, h1]
    exact (issueFresh_effect ctx.policy r now l).advance h2 h3
  | refreshSession ctx t readAt now =>
    rw [Call.run, Call.op, exec_map]
    rcases exec_refreshSession ctx t readAt now l with ⟨e, h⟩ | ⟨-, r, -, -, h1, h2, h3⟩
    · rw [h]
      exact .refused e
    · rw [h1]
      exact (rotate_effect ctx.policy r t now l).advance h2 h3
  | logout ctx claims =>
    rw [Call.run, Call.op, exec_map]
    exact revoke_effect claims.tokenId claims.subject ctx.builtinClient l
  | addUser mk =>
    obtain ⟨h1, h2, h3⟩ := exec_addUser_tokens mk l
    rw [Call.run, Call.op, exec_map]
    exact .keep (quiet_map_none _) h1 h2 (Nat.le_of_eq h3.symm)

-- ============================================================ frames

/-- Every row after a call was there before, or is new under identifiers the
    call drew. -/
structure Frame (l l' : Ledger) : Prop where
  draws : l.draws ≤ l'.draws
  access : ∀ A ∈ l'.store.access, A ∈ l.store.access ∨
    Drawn l l' A.id ∧ ∀ x, A.refreshTokenId = some x → Drawn l l' x
  refresh : ∀ R ∈ l'.store.refresh, R ∈ l.store.refresh ∨ Drawn l l' R.id

theorem Effect.frame {l l' : Ledger} {p : Option String} {out : Except Error (Option String)}
    (h : Effect l p out l') : Frame l l' := by
  cases h with
  | keep _ ha hr hd => exact ⟨hd, fun A hA => .inl (ha ▸ hA), fun R hR => .inl (hr ▸ hR)⟩
  | start A R _ hn _ _ _ hr =>
    refine ⟨hn.draws, hn.access_frame, fun R' hR' => ?_⟩
    rw [hr, List.mem_append, List.mem_singleton] at hR'
    rcases hR' with hR' | rfl
    · exact .inl hR'
    · exact .inr hn.refresh_drawn
  | rotate prev A R _ _ hn _ _ _ _ _ hr =>
    refine ⟨hn.draws, hn.access_frame, fun R' hR' => ?_⟩
    rw [hr, List.mem_append, List.mem_singleton, Table.mem_erase] at hR'
    rcases hR' with hR' | rfl
    · exact .inl hR'.1
    · exact .inr hn.refresh_drawn
  | grant A _ hd hn ha hr hl =>
    refine ⟨hl, fun A' hA' => ?_, fun R hR => .inl (hr ▸ hR)⟩
    rw [ha, List.mem_append, List.mem_singleton] at hA'
    rcases hA' with hA' | rfl
    · exact .inl hA'
    · exact .inr ⟨hd, fun x hx => by rw [hn] at hx; cases hx⟩
  | drop x _ ha hr hd =>
    refine ⟨hd, fun A hA => .inl (ha ▸ hA), fun R hR => ?_⟩
    rw [hr, Table.mem_erase] at hR
    exact .inl hR.1
  | revoke T _ _ ha hr hd =>
    refine ⟨hd, fun A hA => ?_, fun R hR => ?_⟩
    · rw [ha, Table.mem_erase] at hA
      exact .inl hA.1
    · rw [hr] at hR
      cases hT : T.refreshTokenId with
      | none => rw [hT] at hR; exact .inl hR
      | some x =>
        rw [hT, Option.elim_some, Table.mem_erase] at hR
        exact .inl hR.1
  | terminate u _ ha hr hd =>
    refine ⟨hd, fun A hA => ?_, fun R hR => ?_⟩
    · rw [ha, Table.mem_eraseWhere] at hA
      exact .inl hA.1
    · rw [hr, Table.mem_eraseWhere] at hR
      exact .inl hR.1

/-- A call keeps every identifier of the store behind the counter. -/
theorem Frame.fresh {l l' : Ledger} (hf : Fresh l) (h : Frame l l') : Fresh l' := by
  refine ⟨fun A hA => ?_, fun A hA x hx => ?_, fun R hR => ?_⟩
  · rcases h.access A hA with hA | ⟨hd, -⟩
    · exact (hf.access A hA).mono h.draws
    · exact hd.past
  · rcases h.access A hA with hA | ⟨-, hd⟩
    · exact (hf.names A hA x hx).mono h.draws
    · exact (hd x hx).past
  · rcases h.refresh R hR with hR | hd
    · exact (hf.refresh R hR).mono h.draws
    · exact hd.past

theorem Effect.fresh {l l' : Ledger} {p : Option String} {out : Except Error (Option String)}
    (hf : Fresh l) (h : Effect l p out l') : Fresh l' :=
  h.frame.fresh hf

theorem Drawn.widen {l₁ l₂ l₃ : Ledger} {x : String} (h : Drawn l₂ l₃ x)
    (hd : l₁.draws ≤ l₂.draws) : Drawn l₁ l₃ x := by
  obtain ⟨m, h₁, h₂, rfl⟩ := h
  exact ⟨m, Nat.le_trans hd h₁, h₂, rfl⟩

theorem Frame.refl (l : Ledger) : Frame l l :=
  ⟨Nat.le_refl _, fun _ h => .inl h, fun _ h => .inl h⟩

theorem Frame.trans {l₁ l₂ l₃ : Ledger} (h₁ : Frame l₁ l₂) (h₂ : Frame l₂ l₃) : Frame l₁ l₃ := by
  refine ⟨Nat.le_trans h₁.draws h₂.draws, fun A hA => ?_, fun R hR => ?_⟩
  · -- a row of the last ledger is older than the middle one, or drawn after it
    rcases h₂.access A hA with hA | ⟨hd, hn⟩
    · rcases h₁.access A hA with hA | ⟨hd, hn⟩
      · exact .inl hA
      · exact .inr ⟨hd.mono h₂.draws, fun x hx => (hn x hx).mono h₂.draws⟩
    · exact .inr ⟨hd.widen h₁.draws, fun x hx => (hn x hx).widen h₁.draws⟩
  · rcases h₂.refresh R hR with hR | hd
    · rcases h₁.refresh R hR with hR | hd
      · exact .inl hR
      · exact .inr (hd.mono h₂.draws)
    · exact .inr (hd.widen h₁.draws)

/-- A run adds rows only under identifiers it draws. -/
theorem frame_after (l : Ledger) (calls : List Call) : Frame l (after l calls) := by
  induction calls generalizing l with
  | nil => exact Frame.refl l
  | cons c cs ih => exact (call_effect c l).frame.trans (ih _)

/-- An access token under a drawn identifier shares its key with no row. -/
theorem Fresh.unique_append {l l' : Ledger} {A : AccessToken} (hf : Fresh l)
    (hu : Table.Unique l.store.access) (hA : Drawn l l' A.id) :
    Table.Unique (l.store.access ++ [A]) :=
  hu.append fun B hB => (hA.ne (hf.access B hB)).symm

/-- Every call keeps access token ids unique. -/
theorem Effect.unique {l l' : Ledger} {p : Option String} {out : Except Error (Option String)}
    (hf : Fresh l) (hu : Table.Unique l.store.access) (h : Effect l p out l') :
    Table.Unique l'.store.access := by
  cases h with
  | keep _ ha => rw [ha]; exact hu
  | start A R _ hn => rw [hn.access]; exact hf.unique_append hu hn.access_drawn
  | rotate prev A R _ _ hn => rw [hn.access]; exact hf.unique_append hu hn.access_drawn
  | grant A _ hd _ ha => rw [ha]; exact hf.unique_append hu hd
  | drop _ _ ha => rw [ha]; exact hu
  | revoke T _ _ ha => rw [ha]; exact hu.filter _
  | terminate u _ ha => rw [ha]; exact hu.filter _

-- ============================================================ runs

/-- What every effect keeps holds after every run. -/
theorem after_invariant (P : Ledger → Prop)
    (step : ∀ {l l' : Ledger} {p : Option String} {out : Except Error (Option String)},
      P l → Effect l p out l' → P l')
    {l : Ledger} (h : P l) (calls : List Call) : P (after l calls) := by
  -- induction on the calls, each one handing its effect to `step`
  induction calls generalizing l with
  | nil => exact h
  | cons c cs ih => exact ih (step h (call_effect c l))

/-- Every ledger a run from the empty one reaches has its identifiers behind
    the counter. -/
theorem fresh_reachable (pre : List Call) : Fresh (after {} pre) :=
  after_invariant Fresh (fun hf he => he.fresh hf) fresh_empty pre

end Warden.Service
