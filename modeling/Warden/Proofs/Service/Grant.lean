import Warden.Proofs.Service.Rotation
/-!
# A lineage never widens its grant

A fresh pair grants its lineage some scopes and an audience, and every
refresh token of the lineage carries that grant on: a rotation copies the
presented token's scopes and audience to the new refresh token. The access
token of a rotation is another matter. It takes its scopes and audience from
the request of the call, whatever the presented token holds
(`rotation_of_ok`), so a caller that asks for more gets more
(`wider_request_widens_lineage`).

What keeps lineages narrow is how the service builds its requests. A
request read back from a live refresh token and narrowed to the scopes asked
for keeps the token's audience and those of its scopes that are asked for,
in their granted order (`narrowed_rotation_access`); a first-party session
refresh reads its request back and keeps all of them. Over any run from the
empty ledger in which every token request that presents a refresh token is
built that way (`NarrowedRun`), every access token of a lineage carries
some of the lineage's granted scopes, in order, and its granted audience
(`Granted.after`).

The grant of each lineage is a ghost of the run, beside its lineage map
(`lineages`): `grants` records, under the refresh token of each fresh pair,
the scopes and audience the store holds for it right after the call. The
invariant `Granted` then goes effect by effect, as `Lineal` does.
-/

namespace Warden

/-- The scopes and audience a lineage was granted. -/
structure Grant where
  scopes : List String
  audience : List String
  deriving DecidableEq, Repr

/-- The grant a refresh token carries. -/
def RefreshToken.grant (R : RefreshToken) : Grant := ⟨R.scopes, R.audience⟩

/-- An access token stays within a grant: its scopes are some of the
    granted ones, in granted order, and its audience is the granted one. -/
def AccessToken.Within (A : AccessToken) (g : Grant) : Prop :=
  A.scopes.Sublist g.scopes ∧ A.audience = g.audience

namespace Table

variable {α : Type} [Keyed α]

theorem find?_append_new {t : Table α} {r : α} (h : ∀ a ∈ t, Keyed.key a ≠ Keyed.key r) :
    find? (t ++ [r]) (Keyed.key r) = some r := by
  have hn : List.find? (fun a => Keyed.key a == Keyed.key r) t = none :=
    List.find?_eq_none.2 fun a ha => by simpa using h a ha
  simp [find?, List.find?_append, hn]

end Table

end Warden

namespace Warden.Service

open Warden.Token

-- ============================================================ one rotation

theorem ok_of_isOk_map {x : Except ε α} {f : α → β} (h : (x.map f).isOk = true) :
    ∃ a, x = .ok a := by
  cases x with
  | error e => cases h
  | ok a => exact ⟨a, rfl⟩

/-- A successful rotation adds an access token with the request's scopes and
    audience, and a refresh token with those of the row it presented. -/
theorem rotation_of_ok {p : Policy} {q : TokenRequest} {t : String} {now : Instant} {l : Ledger}
    {i : Issued} (h : (exec (rotate p q t now) l).1 = .ok i) :
    ∃ prev A R, Table.find? l.store.refresh t = some prev ∧
      (exec (rotate p q t now) l).2.store.access = l.store.access ++ [A] ∧
      (exec (rotate p q t now) l).2.store.refresh = (Table.erase l.store.refresh t).1 ++ [R] ∧
      A.scopes = q.scopes ∧ A.audience = q.audience ∧
      R.scopes = prev.scopes ∧ R.audience = prev.audience := by
  rcases exec_rotate p q t now l with ⟨e, he⟩ | ⟨-, -, -, he⟩ |
      ⟨prev, A, R, hf, he, -, -, -, -, -, -, -, -, hAs, hAa, hRs, hRa, -⟩
  · rw [he] at h
    cases h
  · rw [he] at h
    cases h
  · rw [he]
    exact ⟨prev, A, R, hf, rfl, rfl, hAs, hAa, hRs, hRa⟩

/-- A rotation asked for with the request a live refresh token reads back
    as, narrowed to `requested`: its access token carries the token's
    audience and those of its scopes that are asked for, in their order. -/
theorem narrowed_rotation_access {p : Policy} {st : RefreshRequest} {requested : List String}
    {t : String} {moment now : Instant} {l : Ledger} {i : Issued}
    (hst : refreshRequest l.store t moment = .ok st)
    (h : (exec (rotate p (st.narrow requested).toTokenRequest t now) l).1 = .ok i) :
    ∃ prev A, Table.find? l.store.refresh t = some prev ∧
      (exec (rotate p (st.narrow requested).toTokenRequest t now) l).2.store.access =
        l.store.access ++ [A] ∧
      A.scopes = prev.scopes.filter (fun s => requested.contains s) ∧
      A.audience = prev.audience := by
  obtain ⟨R, hR, rfl⟩ := refreshRequest_eq_ok hst
  obtain ⟨prev, A, -, hf, ha, -, hAs, hAa, -, -⟩ := rotation_of_ok h
  -- the rotation finds the very row the request was read from
  obtain rfl : prev = R := Option.some.inj (hf.symm.trans hR)
  exact ⟨prev, A, hf, ha, hAs, hAa⟩

-- ============================================================ narrowed calls

/-- A call's request is built the way the service builds one: a token
    request that presents a refresh token is the request that token reads
    back as on the ledger, narrowed to some scopes. -/
def Call.Narrowed (l : Ledger) : Call → Prop
  | .issue _ q (some t) _ =>
    ∃ st requested moment, refreshRequest l.store t moment = .ok st ∧
      q = (st.narrow requested).toTokenRequest
  | _ => True

/-- Every call of a run from `l` is narrowed on the ledger it runs on. -/
def NarrowedRun : Ledger → List Call → Prop
  | _, [] => True
  | l, c :: cs => c.Narrowed l ∧ NarrowedRun (c.run l).2 cs

/-- A call that presents `t` and succeeds adds one access token, within the
    grant of the row that `t` finds. -/
def Narrows (l : Ledger) (presented : Option String) (out : Except Error (Option String))
    (l' : Ledger) : Prop :=
  ∀ t, presented = some t → out.isOk = true →
    ∃ prev A, Table.find? l.store.refresh t = some prev ∧
      l'.store.access = l.store.access ++ [A] ∧ A.Within prev.grant

/-- A narrowed call narrows: a token request by what it reads back, a
    session refresh by reading its request back itself. -/
theorem Call.Narrowed.narrows {c : Call} {l : Ledger} (hc : c.Narrowed l) :
    Narrows l c.presents (c.run l).1 (c.run l).2 := by
  cases c with
  | issue p q presented now =>
    intro t hp hok
    obtain rfl : presented = some t := hp
    obtain ⟨st, requested, moment, hst, rfl⟩ := hc
    rw [Call.run, Call.op, exec_map] at hok ⊢
    obtain ⟨i, hi⟩ := ok_of_isOk_map hok
    obtain ⟨prev, A, hf, ha, hAs, hAa⟩ := narrowed_rotation_access hst hi
    exact ⟨prev, A, hf, ha, hAs ▸ List.filter_sublist, hAa⟩
  | refreshSession ctx token readAt now =>
    intro t hp hok
    obtain rfl : t = token := (Option.some.inj hp).symm
    rw [Call.run, Call.op, exec_map] at hok ⊢
    rcases exec_refreshSession ctx t readAt now l with ⟨e, he⟩ | ⟨st, r, hst, rfl, h1, h2, -⟩
    · rw [he] at hok
      cases hok
    · rw [h1] at hok
      obtain ⟨i, hi⟩ := ok_of_isOk_map hok
      obtain ⟨R, hR, rfl⟩ := refreshRequest_eq_ok hst
      obtain ⟨prev, A, -, hf, ha, -, hAs, hAa, -, -⟩ := rotation_of_ok hi
      obtain rfl : prev = R := Option.some.inj (hf.symm.trans hR)
      refine ⟨prev, A, hf, h2 ▸ ha, ?_, hAa⟩
      rw [hAs]
      exact List.Sublist.refl _
  | exchange | issueAccess | saveCode | consumeCode | revoke | terminate | signIn | logout
  | addUser =>
    intro t hp
    cases hp

-- ============================================================ grants

/-- Records, under the refresh token a fresh pair hands out, the grant the
    store holds for it after the call; other calls leave the grants alone. -/
def regrant (presented : Option String) (out : Except Error (Option String)) (s : Store)
    (grant : String → Option Grant) : String → Option Grant :=
  match presented, out with
  | none, .ok (some t) =>
    fun x => if x = t then (Table.find? s.refresh t).map RefreshToken.grant else grant x
  | _, _ => grant

/-- The grants after a run from `l`, starting from `grant`. -/
def grants (l : Ledger) : List Call → (String → Option Grant) → String → Option Grant
  | [], grant => grant
  | c :: cs, grant =>
    grants (c.run l).2 cs (regrant c.presents (c.run l).1 (c.run l).2.store grant)

theorem regrant_quiet {p : Option String} {out : Except Error (Option String)}
    (hq : Quiet p out) (s : Store) (grant : String → Option Grant) :
    regrant p out s grant = grant := by
  cases out with
  | error e => cases p <;> rfl
  | ok t =>
    obtain ⟨rfl, rfl⟩ := hq t rfl
    rfl

/-- Every token of the store stays within the grant of its lineage, and
    every lineage of the store started behind the counter. -/
structure Granted (l : Ledger) (root : String → String) (grant : String → Option Grant) :
    Prop where
  fresh : Fresh l
  refresh : ∀ R ∈ l.store.refresh, Past l (root R.id) ∧ grant (root R.id) = some R.grant
  access : ∀ A ∈ l.store.access, ∀ x, A.refreshTokenId = some x →
    Past l (root x) ∧ ∃ g, grant (root x) = some g ∧ A.Within g

theorem granted_empty : Granted {} id fun _ => none where
  fresh := fresh_empty
  refresh _ h := nomatch h
  access _ h := nomatch h

/-- Dropping tokens, and adding access tokens of no lineage, keeps every
    token within its grant. -/
theorem Granted.shrink {l l' : Ledger} {root : String → String} {grant : String → Option Grant}
    (hg : Granted l root grant) (hf : Fresh l') (hd : l.draws ≤ l'.draws)
    (ha : ∀ A ∈ l'.store.access, A.refreshTokenId = none ∨ A ∈ l.store.access)
    (hr : ∀ R ∈ l'.store.refresh, R ∈ l.store.refresh) : Granted l' root grant := by
  refine ⟨hf, fun R hR => ?_, fun A hA x hx => ?_⟩
  · obtain ⟨hp, hgr⟩ := hg.refresh R (hr R hR)
    exact ⟨hp.mono hd, hgr⟩
  · rcases ha A hA with hn | hA
    · rw [hn] at hx
      cases hx
    · obtain ⟨hp, hgr⟩ := hg.access A hA x hx
      exact ⟨hp.mono hd, hgr⟩

/-- A new pair under drawn identifiers, its refresh token put in a lineage
    `v` granted what the token carries and its access token within that,
    keeps every token within its grant, as long as the grants of the
    lineages behind the counter stay. -/
theorem Granted.extend {l l' : Ledger} {root : String → String}
    {grant grant' : String → Option Grant} {A : AccessToken} {R : RefreshToken}
    {t : Table RefreshToken} {v : String} (hg : Granted l root grant) (hf : Fresh l')
    (hn : NewPair l l' A R) (ht : ∀ R' ∈ t, R' ∈ l.store.refresh)
    (hr : l'.store.refresh = t ++ [R]) (hkeep : ∀ y, Past l y → grant' y = grant y)
    (hv : Past l' v) (hgv : grant' v = some R.grant) (hA : A.Within R.grant) :
    Granted l' (fun x => if x = R.id then v else root x) grant' := by
  refine ⟨hf, fun R' hR' => ?_, fun A' hA' x hx => ?_⟩
  · rw [hr, List.mem_append, List.mem_singleton] at hR'
    rcases hR' with hR' | rfl
    · -- a kept token is behind the counter, so it is not the new one
      have hold := ht R' hR'
      have hne : R'.id ≠ R.id := (hn.refresh_drawn.ne (hg.fresh.refresh R' hold)).symm
      obtain ⟨hp, hgr⟩ := hg.refresh R' hold
      rw [if_neg hne]
      exact ⟨hp.mono hn.draws, (hkeep _ hp).trans hgr⟩
    · rw [if_pos rfl]
      exact ⟨hv, hgv⟩
  · rw [hn.access, List.mem_append, List.mem_singleton] at hA'
    rcases hA' with hA' | rfl
    · have hne : x ≠ R.id := (hn.refresh_drawn.ne (hg.fresh.names A' hA' x hx)).symm
      obtain ⟨hp, g, hgr, hw⟩ := hg.access A' hA' x hx
      rw [if_neg hne]
      exact ⟨hp.mono hn.draws, g, (hkeep _ hp).trans hgr, hw⟩
    · rw [hn.names, Option.some.injEq] at hx
      subst hx
      rw [if_pos rfl]
      exact ⟨hv, R.grant, hgv, hA⟩

/-- Every call that narrows keeps every token within the grant of its
    lineage, with the lineage and the grant of the token it handed out
    recorded. -/
theorem Effect.granted {l l' : Ledger} {p : Option String} {out : Except Error (Option String)}
    {root : String → String} {grant : String → Option Grant} (hg : Granted l root grant)
    (h : Effect l p out l') (hnw : Narrows l p out l') :
    Granted l' (relink p out root) (regrant p out l'.store grant) := by
  have hf := h.fresh hg.fresh
  cases h with
  | keep hq ha hr hd =>
    rw [relink_quiet hq, regrant_quiet hq]
    exact hg.shrink hf hd (fun A hA => .inr (ha ▸ hA)) (fun R hR => hr ▸ hR)
  | start A R hp hn _ _ _ hr hsc hau =>
    subst hp
    -- the new lineage is the new token's own, granted what the store now holds for it
    have hnew : ∀ R' ∈ l.store.refresh, R'.id ≠ R.id := fun R' hR' =>
      (hn.refresh_drawn.ne (hg.fresh.refresh R' hR')).symm
    refine hg.extend hf hn (fun R' h => h) hr (fun y hy => if_neg (hn.refresh_drawn.ne hy).symm)
      hn.refresh_drawn.past ?_ ⟨hsc ▸ List.Sublist.refl _, hau⟩
    show (if R.id = R.id then _ else _) = _
    rw [if_pos rfl, hr, ← RefreshToken.key_eq R, Table.find?_append_new hnew]
    rfl
  | rotate prev A R hp hm hn _ _ _ _ _ hr hsc hau =>
    subst hp
    obtain ⟨prev', A', hf', ha', hw⟩ := hnw prev.id rfl rfl
    -- the access token the call narrowed is the one it added ...
    obtain rfl : A' = A := List.singleton_inj.1 (List.append_cancel_left (ha'.symm.trans hn.access))
    -- ... and the row it found carries the presented token's grant
    obtain ⟨hm', hk⟩ := Table.mem_of_find? hf'
    have hR : R.grant = prev.grant := by simp only [RefreshToken.grant, hsc, hau]
    have hgrant : prev'.grant = R.grant := by
      have h₁ := (hg.refresh prev' hm').2
      have hk' : prev'.id = prev.id := hk
      rw [hk', (hg.refresh prev hm).2, Option.some.injEq] at h₁
      rw [← h₁, hR]
    refine hg.extend hf hn (fun R' h => (Table.mem_erase.1 h).1) hr (fun _ _ => rfl)
      ((hg.refresh prev hm).1.mono hn.draws) ?_ (hgrant ▸ hw)
    show grant (root prev.id) = some R.grant
    rw [(hg.refresh prev hm).2, hR]
  | grant A hq _ hn ha hr hl =>
    rw [relink_quiet hq, regrant_quiet hq]
    refine hg.shrink hf hl (fun A' hA' => ?_) (fun R hR => hr ▸ hR)
    rw [ha, List.mem_append, List.mem_singleton] at hA'
    rcases hA' with hA' | rfl
    · exact .inr hA'
    · exact .inl hn
  | drop x hq ha hr hd =>
    rw [relink_quiet hq, regrant_quiet hq]
    refine hg.shrink hf hd (fun A hA => .inr (ha ▸ hA)) (fun R hR => ?_)
    rw [hr, Table.mem_erase] at hR
    exact hR.1
  | revoke T hq _ ha hr hd =>
    rw [relink_quiet hq, regrant_quiet hq]
    refine hg.shrink hf hd (fun A hA => ?_) (fun R hR => ?_)
    · rw [ha, Table.mem_erase] at hA
      exact .inr hA.1
    · rw [hr] at hR
      exact (revoked_sublist T _).subset hR
  | terminate u hq ha hr hd =>
    rw [relink_quiet hq, regrant_quiet hq]
    refine hg.shrink hf hd (fun A hA => ?_) (fun R hR => ?_)
    · rw [ha, Table.mem_eraseWhere] at hA
      exact .inr hA.1
    · rw [hr, Table.mem_eraseWhere] at hR
      exact hR.1

/-- Over a narrowed run, every token stays within the grant of its lineage. -/
theorem Granted.after {l : Ledger} {root : String → String} {grant : String → Option Grant}
    (hg : Granted l root grant) {calls : List Call} (hn : NarrowedRun l calls) :
    Granted (after l calls) (lineages l calls root) (grants l calls grant) := by
  -- induction on the calls; each narrows, so its effect keeps the invariant
  induction calls generalizing l root grant with
  | nil => exact hg
  | cons c cs ih => exact ih ((call_effect c l).granted hg hn.1.narrows) hn.2

-- ============================================================ the grant of a lineage

/-- A rotation's access token takes the scopes and audience of its request,
    and its refresh token those of the presented row. A request read back
    from the presented token and narrowed gives exactly the granted scopes
    asked for, in granted order, with the granted audience. Over every run
    from the empty ledger whose requests are built that way, every access
    token of a lineage carries some of the scopes its lineage was granted, in
    order, and the audience it was granted. -/
theorem narrowed_rotations_keep_grant :
    (∀ (p : Policy) (q : TokenRequest) (t : String) (now : Instant) (l : Ledger) (i : Issued),
      (exec (issue p q (some t) now) l).1 = .ok i →
      ∃ prev A R, Table.find? l.store.refresh t = some prev ∧
        (exec (issue p q (some t) now) l).2.store.access = l.store.access ++ [A] ∧
        (exec (issue p q (some t) now) l).2.store.refresh =
          (Table.erase l.store.refresh t).1 ++ [R] ∧
        A.scopes = q.scopes ∧ A.audience = q.audience ∧
        R.scopes = prev.scopes ∧ R.audience = prev.audience) ∧
    (∀ (p : Policy) (st : RefreshRequest) (requested : List String) (t : String)
        (moment now : Instant) (l : Ledger) (i : Issued),
      refreshRequest l.store t moment = .ok st →
      (exec (issue p (st.narrow requested).toTokenRequest (some t) now) l).1 = .ok i →
      ∃ prev A, Table.find? l.store.refresh t = some prev ∧
        (exec (issue p (st.narrow requested).toTokenRequest (some t) now) l).2.store.access =
          l.store.access ++ [A] ∧
        A.scopes = prev.scopes.filter (fun s => requested.contains s) ∧
        A.audience = prev.audience) ∧
    (∀ calls, NarrowedRun {} calls →
      ∀ A ∈ (after {} calls).store.access, ∀ x, A.refreshTokenId = some x →
        ∃ g, grants {} calls (fun _ => none) (lineage calls x) = some g ∧
          A.scopes.Sublist g.scopes ∧ A.audience = g.audience) := by
  refine ⟨fun p q t now l i h => rotation_of_ok h,
    fun p st requested t moment now l i hst h => narrowed_rotation_access hst h,
    fun calls hn A hA x hx => ?_⟩
  obtain ⟨-, g, hg, hw⟩ := (granted_empty.after hn).access A hA x hx
  exact ⟨g, hg, hw⟩

/-- A lineage granted `openid` and `email`, rotated with `openid` alone
    asked for again, is a narrowed run, and its access tokens stay within the
    grant. -/
theorem narrowed_rotation_stays_within :
    NarrowedRun {}
        [.issue ⟨3600, 86400, 600, []⟩ ⟨"7", "web", ["web"], ["openid", "email"], 0, []⟩ none 0,
         .issue ⟨3600, 86400, 600, []⟩ ⟨"7", "web", ["web"], ["openid"], 0, []⟩ (some (uuid 0))
          1] ∧
      ∀ A ∈ (after {}
        [.issue ⟨3600, 86400, 600, []⟩ ⟨"7", "web", ["web"], ["openid", "email"], 0, []⟩ none 0,
         .issue ⟨3600, 86400, 600, []⟩ ⟨"7", "web", ["web"], ["openid"], 0, []⟩ (some (uuid 0))
          1]).store.access, ∀ x, A.refreshTokenId = some x →
        ∃ g, grants {}
          [.issue ⟨3600, 86400, 600, []⟩ ⟨"7", "web", ["web"], ["openid", "email"], 0, []⟩ none 0,
           .issue ⟨3600, 86400, 600, []⟩ ⟨"7", "web", ["web"], ["openid"], 0, []⟩
            (some (uuid 0)) 1] (fun _ => none)
          (lineage
            [.issue ⟨3600, 86400, 600, []⟩ ⟨"7", "web", ["web"], ["openid", "email"], 0, []⟩
              none 0,
             .issue ⟨3600, 86400, 600, []⟩ ⟨"7", "web", ["web"], ["openid"], 0, []⟩
              (some (uuid 0)) 1] x) = some g ∧
          A.scopes.Sublist g.scopes ∧ A.audience = g.audience := by
  -- the second request is the first lineage's token read back and narrowed to `openid`
  have hn : NarrowedRun {}
      [.issue ⟨3600, 86400, 600, []⟩ ⟨"7", "web", ["web"], ["openid", "email"], 0, []⟩ none 0,
       .issue ⟨3600, 86400, 600, []⟩ ⟨"7", "web", ["web"], ["openid"], 0, []⟩ (some (uuid 0))
        1] :=
    ⟨trivial, ⟨⟨uuid 0, "7", "7", "web", ["web"], ["openid", "email"], 0, []⟩, ["openid"], 1,
      by with_unfolding_all rfl, by decide +kernel⟩, trivial⟩
  exact ⟨hn, narrowed_rotations_keep_grant.2.2 _ hn⟩

/-- A lineage granted `openid` for `web`, rotated with `admin` and the
    audience `other` asked for as well: the new access token carries both,
    though its lineage was granted neither. -/
theorem wider_request_widens_lineage :
    ∃ A ∈ (after {}
        [.issue ⟨3600, 86400, 600, []⟩ ⟨"7", "web", ["web"], ["openid"], 0, []⟩ none 0,
         .issue ⟨3600, 86400, 600, []⟩ ⟨"7", "web", ["web", "other"], ["openid", "admin"], 0, []⟩
          (some (uuid 0)) 1]).store.access,
      A.refreshTokenId = some (uuid 2) ∧ A.scopes = ["openid", "admin"] ∧
        A.audience = ["web", "other"] ∧
        grants {}
          [.issue ⟨3600, 86400, 600, []⟩ ⟨"7", "web", ["web"], ["openid"], 0, []⟩ none 0,
           .issue ⟨3600, 86400, 600, []⟩ ⟨"7", "web", ["web", "other"], ["openid", "admin"], 0,
            []⟩ (some (uuid 0)) 1] (fun _ => none)
          (lineage
            [.issue ⟨3600, 86400, 600, []⟩ ⟨"7", "web", ["web"], ["openid"], 0, []⟩ none 0,
             .issue ⟨3600, 86400, 600, []⟩ ⟨"7", "web", ["web", "other"], ["openid", "admin"], 0,
              []⟩ (some (uuid 0)) 1] (uuid 2)) = some ⟨["openid"], ["web"]⟩ := by
  decide +kernel

end Warden.Service
