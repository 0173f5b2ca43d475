import Warden.Proofs.Service.Run
/-!
# A refresh token rotates once

Presenting a refresh token rotates it: the token's row goes and a new pair
takes its place. Over any run from a ledger whose identifiers lie behind the
counter, at most one call that presents a given refresh token succeeds
(`rotations_le_one`), whichever way it comes in: as a token request, or as a
first-party session refresh whose read of the token may be stale by the time
it writes. A successful rotation spends the token (`Spent`): its row is gone
and, being behind the counter, its identifier is never drawn again; a spent
token is refused (`Spent.refuses`).

A lineage is a fresh pair followed by the successive rotations of its
refresh tokens. `lineages` follows a run and maps each refresh token it hands
out to the fresh one its lineage started with; the store then never holds two
refresh tokens of one lineage (`Lineal`), since a rotation removes the
presented token as it adds the next.
-/

namespace Warden.Service

-- ============================================================ one success

/-- How many calls of a run from `l` present the refresh token `r` and
    succeed. -/
def rotations (r : String) (l : Ledger) : List Call → Nat
  | [] => 0
  | c :: cs =>
    (if c.presents = some r ∧ (c.run l).1.isOk then 1 else 0) + rotations r (c.run l).2 cs

/-- The refresh token `r` is gone for good: no row has it, and no draw from
    the counter on can give it back. -/
structure Spent (l : Ledger) (r : String) : Prop where
  past : Past l r
  gone : ∀ R ∈ l.store.refresh, R.id ≠ r

theorem Frame.spent {l l' : Ledger} {r : String} (h : Frame l l') (hs : Spent l r) :
    Spent l' r :=
  ⟨hs.past.mono h.draws, fun R hR => (h.refresh R hR).elim (hs.gone R) (fun hd => hd.ne hs.past)⟩

/-- A quiet call that presents a token fails. -/
theorem Quiet.not_ok {r : String} {out : Except Error (Option String)} (hq : Quiet (some r) out) :
    out.isOk = false := by
  cases out with
  | error e => rfl
  | ok t => exact nomatch (hq t rfl).1

/-- A call that presents `r` and succeeds is a rotation of a row under `r`. -/
theorem Effect.rotates {l l' : Ledger} {r : String} {out : Except Error (Option String)}
    (h : Effect l (some r) out l') (hok : out.isOk = true) :
    ∃ prev A R, prev.id = r ∧ prev ∈ l.store.refresh ∧ NewPair l l' A R ∧
      l'.store.refresh = (Table.erase l.store.refresh prev.id).1 ++ [R] := by
  cases h with
  | rotate prev A R hp hm hn _ _ _ _ _ hr => exact ⟨prev, A, R, (Option.some.inj hp).symm, hm, hn, hr⟩
  | start _ _ hp => cases hp
  | keep hq | grant _ hq | drop _ hq | revoke _ hq | terminate _ hq =>
    exact absurd hok (by rw [hq.not_ok]; decide)

/-- A call that presents `r` and succeeds spends `r`. -/
theorem Effect.spends {l l' : Ledger} {r : String} {out : Except Error (Option String)}
    (hf : Fresh l) (h : Effect l (some r) out l') (hok : out.isOk = true) : Spent l' r := by
  obtain ⟨prev, A, R, rfl, hm, hn, hr⟩ := h.rotates hok
  refine ⟨(hf.refresh prev hm).mono hn.draws, fun R' hR' => ?_⟩
  rw [hr, List.mem_append, Table.mem_erase, List.mem_singleton] at hR'
  rcases hR' with hR' | rfl
  · exact hR'.2
  · exact hn.refresh_drawn.ne (hf.refresh prev hm)

/-- A spent token is refused. -/
theorem Spent.refuses {l l' : Ledger} {r : String} {out : Except Error (Option String)}
    (hs : Spent l r) (h : Effect l (some r) out l') : out.isOk = false := by
  cases hok : out.isOk with
  | false => rfl
  | true =>
    obtain ⟨prev, -, -, hp, hm, -⟩ := h.rotates hok
    exact absurd hp (hs.gone prev hm)

/-- Once spent, a token is never rotated again. -/
theorem rotations_spent {l : Ledger} {r : String} (hf : Fresh l) (hs : Spent l r)
    (calls : List Call) : rotations r l calls = 0 := by
  induction calls generalizing l with
  | nil => rfl
  | cons c cs ih =>
    have he := call_effect c l
    have hc : ¬(c.presents = some r ∧ (c.run l).1.isOk) := by
      rintro ⟨hp, hok⟩
      rw [hp] at he
      exact absurd hok (by rw [hs.refuses he]; decide)
    rw [rotations, if_neg hc, ih (he.fresh hf) (he.frame.spent hs)]

/-- Over any run from a ledger whose identifiers lie behind the counter, at
    most one call that presents `r` succeeds. -/
theorem rotations_le_one {l : Ledger} (hf : Fresh l) (r : String) (calls : List Call) :
    rotations r l calls ≤ 1 := by
  induction calls generalizing l with
  | nil => exact Nat.zero_le 1
  | cons c cs ih =>
    have he := call_effect c l
    rw [rotations]
    by_cases hc : c.presents = some r ∧ (c.run l).1.isOk
    · -- the first success spends `r`, and the rest of the run never rotates it
      obtain ⟨hp, hok⟩ := hc
      rw [hp] at he
      have hrest := rotations_spent (he.fresh hf) (he.spends hf hok) cs
      rw [if_pos ⟨hp, hok⟩]
      omega
    · rw [if_neg hc, Nat.zero_add]
      exact ih (he.fresh hf)

-- ============================================================ lineages

/-- Records the refresh token a call handed out in the lineage map `root`:
    a fresh one starts its own lineage, a rotation's joins the presented
    token's. -/
def relink (presented : Option String) (out : Except Error (Option String))
    (root : String → String) : String → String :=
  match out with
  | .ok (some t) => fun x => if x = t then presented.elim t root else root x
  | _ => root

/-- The lineage map after a run from `l`, starting from `root`. -/
def lineages (l : Ledger) : List Call → (String → String) → String → String
  | [], root => root
  | c :: cs, root => lineages (c.run l).2 cs (relink c.presents (c.run l).1 root)

/-- The lineage of every refresh token a run from the empty ledger handed
    out: the refresh token of the fresh pair it descends from. -/
def lineage (calls : List Call) : String → String := lineages {} calls id

theorem relink_quiet {p : Option String} {out : Except Error (Option String)}
    (hq : Quiet p out) (root : String → String) : relink p out root = root := by
  cases out with
  | error e => rfl
  | ok t =>
    obtain ⟨-, rfl⟩ := hq t rfl
    rfl

/-- No two refresh tokens of the store share a lineage, and every lineage
    started behind the counter. -/
structure Lineal (l : Ledger) (root : String → String) : Prop where
  fresh : Fresh l
  distinct : (l.store.refresh.map fun R => root R.id).Nodup
  past : ∀ R ∈ l.store.refresh, Past l (root R.id)

theorem lineal_empty : Lineal {} id where
  fresh := fresh_empty
  distinct := List.nodup_nil
  past _ h := nomatch h

/-- Removing refresh tokens keeps lineages apart. -/
theorem Lineal.shrink {l l' : Ledger} {root : String → String} (hl : Lineal l root)
    (hf : Fresh l') (hs : l'.store.refresh.Sublist l.store.refresh) (hd : l.draws ≤ l'.draws) :
    Lineal l' root :=
  ⟨hf, hl.distinct.sublist (hs.map _), fun R hR => (hl.past R (hs.subset hR)).mono hd⟩

/-- Adding a refresh token under a drawn identifier, in a lineage `v` that
    none of the kept tokens has, keeps lineages apart. -/
theorem Lineal.append {l l' : Ledger} {root : String → String} {t : Table RefreshToken}
    {R : RefreshToken} {v : String} (hl : Lineal l root) (hf : Fresh l')
    (hd : l.draws ≤ l'.draws) (ht : t.Sublist l.store.refresh) (hR : Drawn l l' R.id)
    (hv : ∀ R' ∈ t, root R'.id ≠ v) (hvp : Past l' v) (hr : l'.store.refresh = t ++ [R]) :
    Lineal l' (fun x => if x = R.id then v else root x) := by
  -- the kept tokens are behind the counter, so none is the new one
  have hold : ∀ R' ∈ t, R'.id ≠ R.id := fun R' hR' =>
    (hR.ne (hl.fresh.refresh R' (ht.subset hR'))).symm
  have hmap : t.map (fun R' => if R'.id = R.id then v else root R'.id) =
      t.map fun R' => root R'.id :=
    List.map_congr_left fun R' hR' => if_neg (hold R' hR')
  refine ⟨hf, ?_, fun R' hR' => ?_⟩
  · rw [hr]
    refine nodup_map_append ?_ fun R' hR' => ?_
    · rw [hmap]
      exact hl.distinct.sublist (ht.map _)
    · simp only [if_neg (hold R' hR')]
      exact hv R' hR'
  · rw [hr, List.mem_append, List.mem_singleton] at hR'
    rcases hR' with hR' | rfl
    · rw [if_neg (hold R' hR')]
      exact (hl.past R' (ht.subset hR')).mono hd
    · rw [if_pos rfl]
      exact hvp

theorem revoked_sublist (T : AccessToken) (t : Table RefreshToken) :
    (T.refreshTokenId.elim t fun x => (Table.erase t x).1).Sublist t := by
  cases T.refreshTokenId with
  | none => exact List.Sublist.refl t
  | some x => exact Table.erase_sublist t x

/-- Every call keeps lineages apart, with the token it handed out recorded. -/
theorem Effect.lineal {l l' : Ledger} {p : Option String} {out : Except Error (Option String)}
    {root : String → String} (hl : Lineal l root) (h : Effect l p out l') :
    Lineal l' (relink p out root) := by
  have hf := h.fresh hl.fresh
  cases h with
  | keep hq _ hr hd =>
    rw [relink_quiet hq]
    exact hl.shrink hf (hr ▸ List.Sublist.refl _) hd
  | start A R hp hn _ _ _ hr =>
    subst hp
    refine hl.append hf hn.draws (List.Sublist.refl _) hn.refresh_drawn (fun R' hR' => ?_)
      hn.refresh_drawn.past hr
    exact (hn.refresh_drawn.ne (hl.past R' hR')).symm
  | rotate prev A R hp hm hn _ _ _ _ _ hr =>
    subst hp
    -- the kept tokens are in other lineages than the presented one, which
    -- the new token joins
    refine hl.append hf hn.draws (Table.erase_sublist _ _) hn.refresh_drawn (fun R' hR' he => ?_)
      ((hl.past prev hm).mono hn.draws) hr
    rw [Table.mem_erase] at hR'
    exact hR'.2 (congrArg RefreshToken.id (eq_of_nodup_map hl.distinct hR'.1 hm he))
  | grant _ hq _ _ _ hr hd =>
    rw [relink_quiet hq]
    exact hl.shrink hf (hr ▸ List.Sublist.refl _) hd
  | drop _ hq _ hr hd =>
    rw [relink_quiet hq]
    exact hl.shrink hf (hr ▸ Table.erase_sublist _ _) hd
  | revoke T hq _ _ hr hd =>
    rw [relink_quiet hq]
    exact hl.shrink hf (hr ▸ revoked_sublist T _) hd
  | terminate _ hq _ hr hd =>
    rw [relink_quiet hq]
    exact hl.shrink hf (hr ▸ List.filter_sublist) hd

theorem Lineal.after {l : Ledger} {root : String → String} (hl : Lineal l root)
    (calls : List Call) : Lineal (after l calls) (lineages l calls root) := by
  induction calls generalizing l root with
  | nil => exact hl
  | cons c cs ih => exact ih ((call_effect c l).lineal hl)

/-- From any state a run reaches, at most one later call that presents a
    given refresh token succeeds, and the store holds at most one refresh
    token of each lineage. -/
theorem rotates_once (pre calls : List Call) (r : String) :
    rotations r (after {} pre) calls ≤ 1 ∧
      ∀ x, ((after {} pre).store.refresh.map fun R => lineage pre R.id).count x ≤ 1 := by
  have hl : Lineal (after {} pre) (lineage pre) := lineal_empty.after pre
  refine ⟨rotations_le_one hl.fresh r calls, fun x => ?_⟩
  rw [List.Nodup.count hl.distinct]
  split <;> omega

end Warden.Service
