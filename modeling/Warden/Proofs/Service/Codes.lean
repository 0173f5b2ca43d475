import Mathlib.Data.List.Induction
import Warden.Proofs.Service.Outcome
/-!
# An authorization code is redeemed once

A client that completed an authorization request gets a code; saving the
code stores it with the request's id and an expiry, and consuming it deletes
it and answers the request's id while the code is live. Saving a code that is
stored already fails and changes nothing; consuming one that is not stored is
refused and changes nothing.

Only these two calls touch the codes (`CodeStep`, one case per kind of call:
keep, save, redeem; `call_codeStep`). From a ledger where a code is not
stored, a run stores it only through a successful save, and keeps it only
while no later call consumes it (`stored_code_saved`). So a consumption that
succeeds answers the request of a save that succeeded earlier in the run,
with no consumption of the code since, and comes before that save's expiry
(`redeemed_only_if_saved`); and since every consumption of a code deletes it,
live or not, between two consumptions of a code the second of which succeeds
there is a successful save (`codes_redeem_once`).

The save and the consumption of one code lock different partitions, the
request's id and the code: the guarantee rests on each call running as a
whole, as every call of a run does.
-/

namespace Warden.Service

open Warden.Token

/-- The authorization code a call redeems, if it is one that does. -/
def Call.redeems : Call → Option String
  | .consumeCode code _ => some code
  | _ => none

-- ============================================================ calls that leave the codes

section Keeps

variable (l : Ledger)

theorem issueFresh_keeps_codes (p : Policy) (r : TokenRequest) (now : Instant) :
    (exec (issueFresh p r now) l).2.store.codes = l.store.codes := by
  rcases exec_issueFresh p r now l with h | ⟨A, R, h, -⟩ <;> rw [h]

theorem rotate_keeps_codes (p : Policy) (r : TokenRequest) (t : String) (now : Instant) :
    (exec (rotate p r t now) l).2.store.codes = l.store.codes := by
  rcases exec_rotate p r t now l with ⟨e, h⟩ | ⟨prev, -, -, h⟩ | ⟨prev, A, R, -, h, -⟩ <;> rw [h]

theorem revoke_keeps_codes (tokenId subject client : String) :
    (exec (revoke tokenId subject client) l).2.store.codes = l.store.codes := by
  rcases exec_revoke tokenId subject client l with ⟨e, h⟩ | ⟨T, -, h⟩ <;> rw [h]

theorem addUser_keeps_codes (mk : Int → User) :
    (exec (addUser mk) l).2.store.codes = l.store.codes := by
  rw [addUser, exec_bind, exec_current]
  by_cases h : l.store.users.any (·.username == (mk (l.store.users.length + 1)).username)
  · simp only [Store.addUser?, h, if_true]
    rfl
  · simp only [Store.addUser?, h]
    rfl

end Keeps

-- ============================================================ one call

/-- What one call can do to the authorization codes: leave them, add a code
    that was not stored by a save that succeeds, or delete every row of the
    code it consumes. -/
inductive CodeStep (l : Ledger) (c : Call) (l' : Ledger) : Prop where
  | keep : c.redeems = none → l'.store.codes = l.store.codes → CodeStep l c l'
  | save (p : Policy) (a code : String) (t : Instant) : c = .saveCode p a code t →
      (exec (saveCode p a code t) l).1 = .ok () → (∀ C ∈ l.store.codes, C.code ≠ code) →
      l'.store.codes = l.store.codes ++ [⟨code, a, p.authCodeExpiry t⟩] → CodeStep l c l'
  | redeem (code : String) : c.redeems = some code →
      l'.store.codes = l.store.codes.filter (fun C => C.code ≠ code) → CodeStep l c l'

/-- Consuming a code deletes every row of it, stored or not. -/
theorem consumeCode_codes (code : String) (now : Instant) (l : Ledger) :
    (exec (consumeCode code now) l).2.store.codes =
      l.store.codes.filter fun C => C.code ≠ code := by
  cases hf : Table.find? l.store.codes code with
  | none =>
    rw [exec_consumeCode_absent hf]
    exact (List.filter_eq_self.2 fun C hC => by
      simpa using Table.find?_eq_none_iff.1 hf C hC).symm
  | some C =>
    rw [exec_consumeCode_present hf]
    exact List.filter_congr fun C _ => by by_cases h : C.code = code <;> simp [h]

/-- Every call has one of the steps. -/
theorem call_codeStep (c : Call) (l : Ledger) : CodeStep l c (c.run l).2 := by
  -- only saving and consuming a code reach the codes; every other call keeps them
  cases c with
  | saveCode p a code t =>
    rw [Call.run, Call.op, exec_map]
    cases hf : Table.find? l.store.codes code with
    | none =>
      refine .save p a code t rfl ?_ (Table.find?_eq_none_iff.1 hf) ?_ <;>
        rw [exec_saveCode_new hf]
    | some C => exact .keep rfl (by rw [exec_saveCode_taken (by rw [hf]; rfl)])
  | consumeCode code t =>
    rw [Call.run, Call.op, exec_map]
    exact .redeem code rfl (consumeCode_codes code t l)
  | issue p r presented now =>
    refine .keep rfl ?_
    rw [Call.run, Call.op, exec_map]
    cases presented with
    | none => exact issueFresh_keeps_codes l p r now
    | some t => exact rotate_keeps_codes l p r t now
  | exchange p x now =>
    refine .keep rfl ?_
    rw [Call.run, Call.op, exec_map]
    exact issueFresh_keeps_codes l p x.toTokenRequest now
  | issueAccess p r now =>
    refine .keep rfl ?_
    rw [Call.run, Call.op, exec_map]
    rcases exec_issueAccessOnly p r now l with h | ⟨A, h, -⟩ <;> rw [h]
  | revoke t s client =>
    refine .keep rfl ?_
    rw [Call.run, Call.op, exec_map]
    exact revoke_keeps_codes l t s client
  | terminate u client =>
    refine .keep rfl ?_
    rw [Call.run, Call.op, exec_map, exec_terminate]
  | signIn ctx u now =>
    refine .keep rfl ?_
    obtain ⟨r, -, -, h2, -⟩ := exec_issueSession ctx u now l
    rw [Call.run, Call.op, exec_map, h2]
    exact issueFresh_keeps_codes l ctx.policy r now
  | refreshSession ctx t readAt now =>
    refine .keep rfl ?_
    rw [Call.run, Call.op, exec_map]
    rcases exec_refreshSession ctx t readAt now l with ⟨e, h⟩ | ⟨-, r, -, -, -, h2, -⟩
    · rw [h]
    · rw [h2]
      exact rotate_keeps_codes l ctx.policy r t now
  | logout ctx claims =>
    refine .keep rfl ?_
    rw [Call.run, Call.op, exec_map]
    exact revoke_keeps_codes l claims.tokenId claims.subject ctx.builtinClient
  | addUser mk =>
    refine .keep rfl ?_
    rw [Call.run, Call.op, exec_map]
    exact addUser_keeps_codes l mk

/-- Every call keeps each code stored at most once. -/
theorem CodeStep.unique {l l' : Ledger} {c : Call} (h : CodeStep l c l')
    (hu : Table.Unique l.store.codes) : Table.Unique l'.store.codes := by
  cases h with
  | keep _ hk => rw [hk]; exact hu
  | save p a code t _ _ hnew hk => rw [hk]; exact hu.append (by simpa using hnew)
  | redeem code _ hk => rw [hk]; exact hu.filter _

theorem codes_unique_after {l : Ledger} (hu : Table.Unique l.store.codes) (calls : List Call) :
    Table.Unique (after l calls).store.codes := by
  induction calls generalizing l with
  | nil => exact hu
  | cons c cs ih => exact ih ((call_codeStep c l).unique hu)

-- ============================================================ runs

/-- The code `C` was stored by a save of the run `calls` from `l₀` that
    succeeded, and no later call of the run consumes it; its expiry is the
    one that save gave it. -/
def SavedIn (l₀ : Ledger) (calls : List Call) (C : AuthCode) : Prop :=
  ∃ pre p t post, calls = pre ++ .saveCode p C.authRequestId C.code t :: post ∧
    (exec (saveCode p C.authRequestId C.code t) (after l₀ pre)).1 = .ok () ∧
    (∀ d ∈ post, d.redeems ≠ some C.code) ∧ C.expiration = p.authCodeExpiry t

/-- A call that does not consume the code keeps its save in force. -/
theorem SavedIn.snoc {l₀ : Ledger} {calls : List Call} {C : AuthCode} (h : SavedIn l₀ calls C)
    {d : Call} (hd : d.redeems ≠ some C.code) : SavedIn l₀ (calls ++ [d]) C := by
  obtain ⟨pre, p, t, post, rfl, hs, hp, he⟩ := h
  refine ⟨pre, p, t, post ++ [d], by simp, hs, fun d' hd' => ?_, he⟩
  rcases List.mem_append.1 hd' with hd' | hd'
  · exact hp d' hd'
  · rw [List.mem_singleton.1 hd']
    exact hd

/-- From a ledger where the code `c` is not stored, every row of `c` that a
    run leaves was stored by a save of the run that succeeded, and no later
    call of the run consumes `c`. -/
theorem stored_code_saved {l₀ : Ledger} {c : String} (h₀ : ∀ C ∈ l₀.store.codes, C.code ≠ c)
    (calls : List Call) : ∀ C ∈ (after l₀ calls).store.codes, C.code = c → SavedIn l₀ calls C := by
  -- induction on the run from its end: its last call keeps the row, stores it, or deletes it
  induction calls using List.reverseRecOn with
  | nil => exact fun C hC hc => absurd hc (h₀ C hC)
  | append_singleton calls d ih =>
    intro C hC hc
    rw [after_append, after_cons, after_nil] at hC
    cases call_codeStep d (after l₀ calls) with
    | keep hr hk =>
      rw [hk] at hC
      exact (ih C hC hc).snoc (by simp [hr])
    | save p a code t hd hok _ hk =>
      rw [hk, List.mem_append, List.mem_singleton] at hC
      rcases hC with hC | rfl
      · exact (ih C hC hc).snoc (by simp [hd, Call.redeems])
      · exact ⟨calls, p, t, [], by rw [hd], hok, by simp, rfl⟩
    | redeem code hr hk =>
      rw [hk, List.mem_filter] at hC
      refine (ih C hC.1 hc).snoc fun he => ?_
      rw [hr, Option.some.injEq] at he
      exact of_decide_eq_true hC.2 he.symm

/-- A consumption that succeeds, after a run from a ledger where the code was
    not stored, answers the request of a save of the run that succeeded, with
    no consumption of the code since, and comes before that save's expiry. -/
theorem redeemed_only_if_saved {l₀ : Ledger} {c : String} (h₀ : ∀ C ∈ l₀.store.codes, C.code ≠ c)
    {calls : List Call} {now : Instant} {a : String} {l' : Ledger}
    (h : exec (consumeCode c now) (after l₀ calls) = (.ok a, l')) :
    ∃ pre p t post, calls = pre ++ .saveCode p a c t :: post ∧
      (exec (saveCode p a c t) (after l₀ pre)).1 = .ok () ∧
      (∀ d ∈ post, d.redeems ≠ some c) ∧ now < p.authCodeExpiry t := by
  cases hf : Table.find? (after l₀ calls).store.codes c with
  | none =>
    rw [exec_consumeCode_absent hf] at h
    cases h
  | some C =>
    obtain ⟨hC, hk⟩ := Table.mem_of_find? hf
    rw [AuthCode.key_eq] at hk
    -- the code answered its request, so it was live
    have hv : now < C.expiration ∧ C.authRequestId = a := by
      rw [exec_consumeCode_present hf] at h
      by_cases hl : now < C.expiration
      · simp [AuthCode.isValidAt, hl] at h
        exact ⟨hl, h.1⟩
      · simp [AuthCode.isValidAt, hl] at h
    obtain ⟨pre, p, t, post, hcalls, hok, hpost, hexp⟩ := stored_code_saved h₀ calls C hC hk
    rw [hk, hv.2] at hcalls hok
    rw [hk] at hpost
    exact ⟨pre, p, t, post, hcalls, hok, hpost, hexp ▸ hv.1⟩

/-- After consuming a code, no row of it is stored. -/
theorem consumed_code_gone (code : String) (now : Instant) (l : Ledger) :
    ∀ C ∈ (exec (consumeCode code now) l).2.store.codes, C.code ≠ code := by
  intro C hC
  rw [consumeCode_codes, List.mem_filter] at hC
  simpa using hC.2

-- ============================================================ the codes of a run

/-- Authorization codes over every run from the empty ledger. A consumption
    that succeeds answers the request of a save of the code that succeeded
    earlier in the run, with no consumption of the code since, and comes
    strictly before that save's expiry. Between any consumption of a code and
    a later one that succeeds, the code was saved again. A consumption of a
    stored code deletes its row whether or not it is live, and answers its
    request only while it is; one of a code not stored is refused as not
    found with nothing changed. Saving a code that is stored fails as a
    server error with nothing changed. -/
theorem codes_redeem_once (pre : List Call) (c : String) :
    (∀ now a l', exec (consumeCode c now) (after {} pre) = (.ok a, l') →
      ∃ pre₁ p t pre₂, pre = pre₁ ++ .saveCode p a c t :: pre₂ ∧
        (exec (saveCode p a c t) (after {} pre₁)).1 = .ok () ∧
        (∀ d ∈ pre₂, d.redeems ≠ some c) ∧ now < p.authCodeExpiry t) ∧
    (∀ t₁ mid now a l',
      exec (consumeCode c now) (after {} (pre ++ .consumeCode c t₁ :: mid)) = (.ok a, l') →
      ∃ mid₁ p t mid₂, mid = mid₁ ++ .saveCode p a c t :: mid₂ ∧
        (exec (saveCode p a c t) (after {} (pre ++ .consumeCode c t₁ :: mid₁))).1 = .ok ()) ∧
    (∀ C ∈ (after {} pre).store.codes, C.code = c → ∀ now,
      exec (consumeCode c now) (after {} pre) =
        (if now < C.expiration then .ok C.authRequestId
          else .error (.accessDenied "auth code expired"),
          { after {} pre with store := { (after {} pre).store with
              codes := List.erase (after {} pre).store.codes C } })) ∧
    ((∀ C ∈ (after {} pre).store.codes, C.code ≠ c) → ∀ now,
      exec (consumeCode c now) (after {} pre) =
        (.error (.accessDenied "auth code not found"), after {} pre)) ∧
    (∀ C ∈ (after {} pre).store.codes, C.code = c → ∀ p a now,
      exec (saveCode p a c now) (after {} pre) =
        (.error (.serverError "failed to save auth code"), after {} pre)) := by
  have hu : Table.Unique (after {} pre).store.codes :=
    @codes_unique_after {} List.nodup_nil pre
  have h₀ : ∀ C ∈ ({} : Ledger).store.codes, C.code ≠ c := fun _ h => nomatch h
  refine ⟨fun now a l' h => redeemed_only_if_saved h₀ h, ?_, ?_,
    fun h now => exec_consumeCode_absent (Table.find?_eq_none_iff.2 h), ?_⟩
  · -- the first consumption leaves no row of the code, and the run goes on from there
    intro t₁ mid now a l' h
    have hsplit : ∀ ys, after {} (pre ++ .consumeCode c t₁ :: ys) =
        after (exec (consumeCode c t₁) (after {} pre)).2 ys := by
      intro ys
      rw [after_append, after_cons, Call.run, Call.op, exec_map]
    rw [hsplit] at h
    obtain ⟨mid₁, p, t, mid₂, hmid, hok, -, -⟩ :=
      redeemed_only_if_saved (consumed_code_gone c t₁ (after {} pre)) h
    exact ⟨mid₁, p, t, mid₂, hmid, by rw [hsplit]; exact hok⟩
  · -- the code's one row is the row the consumption finds and deletes
    rintro C hC rfl now
    have hf : Table.find? (after {} pre).store.codes C.code = some C :=
      hu.find?_eq_some.2 ⟨hC, rfl⟩
    have he : (Table.erase (after {} pre).store.codes C.code).1 =
        List.erase (after {} pre).store.codes C := hu.erase_eq hC
    rw [exec_consumeCode_present hf, he]
    by_cases hl : now < C.expiration <;> simp [AuthCode.isValidAt, hl]
  · rintro C hC rfl p a now
    have hf : Table.find? (after {} pre).store.codes C.code = some C :=
      hu.find?_eq_some.2 ⟨hC, rfl⟩
    exact exec_saveCode_taken (by rw [hf]; rfl)

/-- A code saved at instant 0 for ten minutes and consumed at instant 1
    answers its request, with its save the first call of the run. -/
theorem code_redeemed_after_its_save :
    exec (consumeCode "abc" 1) (after {} [.saveCode ⟨3600, 86400, 600, []⟩ "req" "abc" 0]) =
      (.ok "req", {}) ∧
    ∃ pre₁ p t pre₂, [Call.saveCode ⟨3600, 86400, 600, []⟩ "req" "abc" 0] =
        pre₁ ++ .saveCode p "req" "abc" t :: pre₂ ∧
      (exec (saveCode p "req" "abc" t) (after {} pre₁)).1 = .ok () ∧
      (∀ d ∈ pre₂, d.redeems ≠ some "abc") ∧ 1 < p.authCodeExpiry t := by
  have h : exec (consumeCode "abc" 1)
      (after {} [.saveCode ⟨3600, 86400, 600, []⟩ "req" "abc" 0]) = (.ok "req", {}) := by
    with_unfolding_all rfl
  exact ⟨h, (codes_redeem_once _ "abc").1 1 "req" {} h⟩

end Warden.Service
