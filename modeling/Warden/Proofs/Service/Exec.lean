import Warden.Service.FirstParty
/-!
# Running operations on the ledger

`exec op l` runs an operation from the ledger `l` and gives what it returned
together with the ledger it left behind. The lemmas here compute `exec` once
for every building block (the monad's `bind`, `tryCatch` and `atomically`,
each table operation) and then for every write of the service: what
`issueFresh`, `rotate`, `revoke` and the others leave behind on each of their
paths, failures included. Later proofs read these lemmas and never unfold an
operation again.

The identifiers that the ledger draws are distinct (`uuid_inj`): the hex
digits of an identifier's last group spell its number back (`hexNumber_uuid_digits`).
-/

namespace Warden

@[simp] theorem AccessToken.key_eq (A : AccessToken) : Keyed.key A = A.id := rfl

@[simp] theorem RefreshToken.key_eq (R : RefreshToken) : Keyed.key R = R.id := rfl

@[simp] theorem AuthCode.key_eq (C : AuthCode) : Keyed.key C = C.code := rfl

end Warden

namespace Warden

variable {α β : Type}

/-- Two members of a list that a map sends, without repeats, to one value
    are one. -/
theorem eq_of_nodup_map {f : α → β} {t : List α} (h : (t.map f).Nodup) {a b : α} (ha : a ∈ t)
    (hb : b ∈ t) (he : f a = f b) : a = b := by
  induction t with
  | nil => cases ha
  | cons c t ih =>
    rw [List.map_cons, List.nodup_cons, List.mem_map] at h
    rw [List.mem_cons] at ha hb
    rcases ha with rfl | ha <;> rcases hb with rfl | hb
    · rfl
    · exact absurd ⟨b, hb, he.symm⟩ h.1
    · exact absurd ⟨a, ha, he⟩ h.1
    · exact ih h.2 ha hb

theorem nodup_map_append {f : α → β} {t : List α} {r : α} (h : (t.map f).Nodup)
    (hr : ∀ a ∈ t, f a ≠ f r) : ((t ++ [r]).map f).Nodup := by
  rw [List.map_append, List.nodup_append]
  refine ⟨h, by simp, fun x hx y hy => ?_⟩
  obtain ⟨a, ha, rfl⟩ := List.mem_map.1 hx
  rw [List.map_singleton, List.mem_singleton] at hy
  exact hy ▸ hr a ha

end Warden

namespace Warden.Table

variable {α : Type}

@[simp] theorem mem_eraseWhere {t : Table α} {p : α → Bool} {x : α} :
    x ∈ (eraseWhere t p).1 ↔ x ∈ t ∧ p x = false := by
  simp [eraseWhere]

variable [Keyed α]

/-- The row a key finds is in the table, under that key. -/
theorem mem_of_find? {t : Table α} {k : String} {x : α} (h : find? t k = some x) :
    x ∈ t ∧ Keyed.key x = k := by
  have h' : List.find? (fun r => Keyed.key r == k) t = some x := h
  exact ⟨List.mem_of_find?_eq_some h', by simpa using List.find?_some h'⟩

@[simp] theorem mem_erase {t : Table α} {k : String} {x : α} :
    x ∈ (erase t k).1 ↔ x ∈ t ∧ Keyed.key x ≠ k := by
  simp [erase]

theorem erase_sublist (t : Table α) (k : String) : (erase t k).1.Sublist t :=
  List.filter_sublist

/-- Erasing a key that has a row removes at least one row. -/
theorem erase_count_pos {t : Table α} {k : String} {x : α} (h : find? t k = some x) :
    (erase t k).2 ≠ 0 := by
  obtain ⟨hx, hk⟩ := mem_of_find? h
  have hlt : (t.filter fun r => Keyed.key r != k).length < t.length :=
    List.length_filter_lt_length_iff_exists.mpr ⟨x, hx, by simp [hk]⟩
  simp only [erase]
  omega

/-- No two rows of the table share a key, as the store's primary keys
    guarantee. -/
def Unique (t : Table α) : Prop := (t.map Keyed.key).Nodup

theorem Unique.eq_of_key_eq {t : Table α} (h : Unique t) {a b : α} (ha : a ∈ t) (hb : b ∈ t)
    (he : Keyed.key a = Keyed.key b) : a = b :=
  eq_of_nodup_map h ha hb he

/-- In a table with unique keys, a key finds exactly the row that has it. -/
theorem Unique.find?_eq_some {t : Table α} (h : Unique t) {k : String} {x : α} :
    find? t k = some x ↔ x ∈ t ∧ Keyed.key x = k := by
  refine ⟨mem_of_find?, fun ⟨hx, hk⟩ => ?_⟩
  cases hf : find? t k with
  | none =>
    have hn : List.find? (fun r => Keyed.key r == k) t = none := hf
    exact absurd (List.find?_eq_none.1 hn x hx) (by simp [hk])
  | some y =>
    obtain ⟨hy, hyk⟩ := mem_of_find? hf
    rw [h.eq_of_key_eq hy hx (hyk.trans hk.symm)]

theorem Unique.filter {t : Table α} (h : Unique t) (p : α → Bool) : Unique (t.filter p) :=
  List.Nodup.sublist (List.filter_sublist.map _) h

theorem Unique.append {t : Table α} {r : α} (h : Unique t)
    (hr : ∀ a ∈ t, Keyed.key a ≠ Keyed.key r) : Unique (t ++ [r]) :=
  nodup_map_append h hr

theorem find?_eq_none_iff {t : Table α} {k : String} :
    find? t k = none ↔ ∀ x ∈ t, Keyed.key x ≠ k := by
  simp [find?, List.find?_eq_none]

/-- In a table with unique keys, deleting a row's key deletes that row and
    no other. -/
theorem Unique.erase_eq [DecidableEq α] {t : Table α} (h : Unique t) {x : α} (hx : x ∈ t) :
    (erase t (Keyed.key x)).1 = List.erase t x := by
  induction t with
  | nil => cases hx
  | cons y t ih =>
    rw [Unique, List.map_cons, List.nodup_cons, List.mem_map] at h
    obtain ⟨hy, ht⟩ := h
    by_cases hxy : x = y
    · subst hxy
      -- the other rows have other keys, so only the head goes
      have hkeep : ∀ z ∈ t, (Keyed.key z != Keyed.key x) = true := fun z hz => by
        simpa using fun he => hy ⟨z, hz, he⟩
      simp [erase, List.filter_eq_self.2 hkeep]
    · have hx' : x ∈ t := (List.mem_cons.1 hx).resolve_left hxy
      have hk : (Keyed.key y != Keyed.key x) = true := by
        simpa using fun he => hy ⟨x, hx', he.symm⟩
      rw [List.erase_cons_tail (by simpa using Ne.symm hxy)]
      simp only [erase, List.filter_cons, hk, if_true] at ih ⊢
      rw [ih ht hx']

end Warden.Table

namespace Warden.Service

open Warden.Token

/-- Runs an operation from a ledger: what it returned, and the ledger after. -/
def exec (op : Op α) (l : Ledger) : Except Error α × Ledger := op.run.run l

-- ============================================================ the monad

@[simp] theorem exec_pure (a : α) (l : Ledger) : exec (pure a : Op α) l = (.ok a, l) := rfl

@[simp] theorem exec_throw (e : Error) (l : Ledger) : exec (throw e : Op α) l = (.error e, l) :=
  rfl

theorem exec_bind (x : Op α) (f : α → Op β) (l : Ledger) :
    exec (x >>= f) l = match exec x l with
      | (.ok a, l') => exec (f a) l'
      | (.error e, l') => (.error e, l') := by
  simp only [exec, bind, ExceptT.bind, ExceptT.run, ExceptT.mk, StateT.bind, StateT.run]
  rcases x l with ⟨_ | _, _⟩ <;> rfl

theorem exec_map (f : α → β) (x : Op α) (l : Ledger) :
    exec (f <$> x) l = ((exec x l).1.map f, (exec x l).2) := by
  simp only [exec, Functor.map, ExceptT.map, ExceptT.run, ExceptT.mk, StateT.bind, StateT.run,
    bind, pure]
  rcases x l with ⟨_ | _, _⟩ <;> rfl

theorem exec_discard (x : Op α) (l : Ledger) :
    exec (discard x) l = ((exec x l).1.map fun _ => (), (exec x l).2) :=
  exec_map _ x l

theorem exec_tryCatch (x : Op α) (h : Error → Op α) (l : Ledger) :
    exec (tryCatch x h) l = match exec x l with
      | (.ok a, l') => (.ok a, l')
      | (.error e, l') => exec (h e) l' := by
  simp only [exec, tryCatch, tryCatchThe, MonadExceptOf.tryCatch, ExceptT.tryCatch, ExceptT.run,
    ExceptT.mk, bind, StateT.bind, StateT.run]
  rcases x l with ⟨_ | _, _⟩ <;> rfl

/-- An atomic operation that fails leaves the ledger as it found it. -/
theorem exec_atomically (x : Op α) (l : Ledger) :
    exec (atomically x) l = match exec x l with
      | (.ok a, l') => (.ok a, l')
      | (.error e, _) => (.error e, l) := by
  rw [atomically, exec_bind]
  show exec (tryCatch x _) l = _
  rw [exec_tryCatch]
  rcases exec x l with ⟨_ | _, _⟩ <;> rfl

@[simp] theorem exec_ofOutcome (o : Outcome α) (l : Ledger) : exec (ofOutcome o) l = (o, l) := by
  cases o <;> rfl

-- ============================================================ the ledger

@[simp] theorem exec_current (l : Ledger) : exec current l = (.ok l.store, l) := rfl

@[simp] theorem exec_modifyStore (f : Store → Store) (l : Ledger) :
    exec (modifyStore f) l = (.ok (), { l with store := f l.store }) := rfl

@[simp] theorem exec_freshId (l : Ledger) :
    exec freshId l = (.ok (uuid l.draws), { l with draws := l.draws + 1 }) := rfl

@[simp] theorem exec_freshNonce (l : Ledger) :
    exec freshNonce l = (.ok (Crypto.Bytes.ofNatBE l.draws 12), { l with draws := l.draws + 1 }) :=
  rfl

@[simp] theorem exec_encodeReference (c : Cipher) (tokenId subject : String) (l : Ledger) :
    exec (encodeReference c tokenId subject) l =
      (.ok (c.encrypt (Crypto.Bytes.ofNatBE l.draws 12) (payload tokenId subject)),
        { l with draws := l.draws + 1 }) := rfl

theorem exec_insertAccess (t : AccessToken) (l : Ledger) :
    exec (insertAccess t) l =
      if (Table.find? l.store.access t.id).isSome then (.error Error.storage, l)
      else (.ok (), { l with store := { l.store with access := l.store.access ++ [t] } }) := by
  rw [insertAccess, exec_bind, exec_current]
  by_cases h : (Table.find? l.store.access t.id).isSome
  · have hn : Table.insert? l.store.access t = none := if_pos h
    simp only [hn, h, if_true]
    rfl
  · have hs : Table.insert? l.store.access t = some (l.store.access ++ [t]) := if_neg h
    simp only [hs, h]
    rfl

theorem exec_insertRefresh (t : RefreshToken) (l : Ledger) :
    exec (insertRefresh t) l =
      if (Table.find? l.store.refresh t.id).isSome then (.error Error.storage, l)
      else (.ok (), { l with store := { l.store with refresh := l.store.refresh ++ [t] } }) := by
  rw [insertRefresh, exec_bind, exec_current]
  by_cases h : (Table.find? l.store.refresh t.id).isSome
  · have hn : Table.insert? l.store.refresh t = none := if_pos h
    simp only [hn, h, if_true]
    rfl
  · have hs : Table.insert? l.store.refresh t = some (l.store.refresh ++ [t]) := if_neg h
    simp only [hs, h]
    rfl

/-- Inserting a code touches neither token table nor the counter. -/
theorem exec_insertCode_tokens (c : AuthCode) (l : Ledger) :
    (exec (insertCode c) l).2.store.access = l.store.access ∧
      (exec (insertCode c) l).2.store.refresh = l.store.refresh ∧
      (exec (insertCode c) l).2.draws = l.draws := by
  rw [insertCode, exec_bind, exec_current]
  dsimp only
  cases Table.insert? l.store.codes c <;> exact ⟨rfl, rfl, rfl⟩

@[simp] theorem exec_deleteAccess (id : String) (l : Ledger) :
    exec (deleteAccess id) l = (.ok (Table.erase l.store.access id).2,
      { l with store := { l.store with access := (Table.erase l.store.access id).1 } }) := rfl

@[simp] theorem exec_deleteRefresh (id : String) (l : Ledger) :
    exec (deleteRefresh id) l = (.ok (Table.erase l.store.refresh id).2,
      { l with store := { l.store with refresh := (Table.erase l.store.refresh id).1 } }) := rfl

@[simp] theorem exec_deleteCode (code : String) (l : Ledger) :
    exec (deleteCode code) l = (.ok (Table.erase l.store.codes code).2,
      { l with store := { l.store with codes := (Table.erase l.store.codes code).1 } }) := rfl

/-- Adding a user touches neither token table nor the counter. -/
theorem exec_addUser_tokens (mk : Int → User) (l : Ledger) :
    (exec (addUser mk) l).2.store.access = l.store.access ∧
      (exec (addUser mk) l).2.store.refresh = l.store.refresh ∧
      (exec (addUser mk) l).2.draws = l.draws := by
  rw [addUser, exec_bind, exec_current]
  by_cases h : l.store.users.any (·.username == (mk (l.store.users.length + 1)).username)
  · simp only [Store.addUser?, h, if_true]
    exact ⟨rfl, rfl, rfl⟩
  · simp only [Store.addUser?, h]
    exact ⟨rfl, rfl, rfl⟩

-- ============================================================ identifiers

/-- The value of a digit that `hexDigits` writes. -/
def hexValue (c : Char) : Nat := if c.toNat < 58 then c.toNat - 48 else c.toNat - 87

/-- The number that hex digits spell, most significant first. -/
def hexNumber (cs : List Char) : Nat := cs.foldl (fun acc c => acc * 16 + hexValue c) 0

theorem hexValue_digit : ∀ d, d < 16 →
    hexValue (if d < 10 then Char.ofNat (48 + d) else Char.ofNat (87 + d)) = d := by
  decide

private theorem foldl_hexNumber (cs : List Char) (acc : Nat) :
    cs.foldl (fun acc c => acc * 16 + hexValue c) acc = acc * Nat.pow 16 cs.length + hexNumber cs := by
  induction cs generalizing acc with
  | nil => simp [hexNumber]
  | cons c cs ih =>
    simp only [List.foldl_cons, hexNumber, List.length_cons]
    rw [ih, ih (0 * 16 + hexValue c)]
    simp only [Nat.pow_eq, Nat.pow_succ]
    grind

theorem hexNumber_cons (c : Char) (cs : List Char) :
    hexNumber (c :: cs) = hexValue c * Nat.pow 16 cs.length + hexNumber cs := by
  rw [hexNumber, List.foldl_cons, foldl_hexNumber]
  simp

/-- The digits of `hexDigits width n` spell `n` modulo `16 ^ width`. -/
theorem hexNumber_hexDigits (width n : Nat) :
    hexNumber (hexDigits width n).toList = n % Nat.pow 16 width := by
  induction width with
  | zero => simp [hexDigits, hexNumber, Nat.mod_one]
  | succ w ih =>
    have hd : (hexDigits (w + 1) n).toList =
        (if n / Nat.pow 16 w % 16 < 10 then Char.ofNat (48 + n / Nat.pow 16 w % 16)
          else Char.ofNat (87 + n / Nat.pow 16 w % 16)) :: (hexDigits w n).toList := by
      simp [hexDigits, List.range_succ]
    rw [hd, hexNumber_cons, ih, hexValue_digit _ (Nat.mod_lt _ (by omega)), String.length_toList,
      length_hexDigits]
    simp only [Nat.pow_eq]
    rw [Nat.mod_pow_succ]
    grind

/-- `hexLength n` digits are enough for `n`. -/
theorem lt_pow_hexLength (n : Nat) : n < Nat.pow 16 (hexLength n) := by
  induction n using hexLength.induct with
  | case1 n h =>
    rw [hexLength, dif_pos h]
    exact h
  | case2 n h ih =>
    rw [hexLength, dif_neg h]
    show n < Nat.pow 16 (hexLength (n / 16)) * 16
    omega

/-- The last group of an identifier spells the number it was drawn with. -/
theorem hexNumber_uuid_digits (n : Nat) :
    hexNumber (hexDigits (max 12 (hexLength n)) n).toList = n := by
  have hlt : n < Nat.pow 16 (max 12 (hexLength n)) :=
    Nat.lt_of_lt_of_le (lt_pow_hexLength n)
      (Nat.pow_le_pow_right (by omega) (Nat.le_max_right _ _))
  rw [hexNumber_hexDigits, Nat.mod_eq_of_lt hlt]

/-- No two draws give the same identifier. -/
theorem uuid_inj {m n : Nat} (h : uuid m = uuid n) : m = n := by
  have hl : "00000000-0000-4000-8000-".toList ++ (hexDigits (max 12 (hexLength m)) m).toList =
      "00000000-0000-4000-8000-".toList ++ (hexDigits (max 12 (hexLength n)) n).toList := by
    rw [← String.toList_append, ← String.toList_append]
    exact congrArg String.toList h
  calc m = hexNumber (hexDigits (max 12 (hexLength m)) m).toList := (hexNumber_uuid_digits m).symm
    _ = hexNumber (hexDigits (max 12 (hexLength n)) n).toList := by rw [List.append_cancel_left hl]
    _ = n := hexNumber_uuid_digits n

-- ============================================================ the rows issued

/-- The access token issued for the request `q` at `now` under the id `id`,
    paired with the refresh token `refreshId`: everything it carries is the
    request's. -/
def pairedAccess (p : Policy) (q : TokenRequest) (now : Instant) (id refreshId : String) :
    AccessToken :=
  { id, clientId := q.clientId, subject := q.subject, refreshTokenId := some refreshId,
    audience := q.audience, scopes := q.scopes, expiration := p.accessExpiry q.clientId now }

/-- The refresh token that starts a lineage for the request `q`: it stands
    for the request's subject as its user. -/
def firstRefresh (p : Policy) (q : TokenRequest) (now : Instant) (id : String) : RefreshToken :=
  { id, subject := q.subject, userId := q.subject, clientId := q.clientId, authTime := q.authTime,
    amr := q.amr, audience := q.audience, scopes := q.scopes, expiration := p.refreshExpiry now }

/-- The refresh token that continues the lineage of `prev` for the request
    `q`: only its authentication time is the request's. -/
def nextRefresh (p : Policy) (q : TokenRequest) (now : Instant) (prev : RefreshToken)
    (id : String) : RefreshToken :=
  { id, subject := prev.subject, userId := prev.userId, clientId := prev.clientId,
    authTime := q.authTime, amr := prev.amr, audience := prev.audience, scopes := prev.scopes,
    expiration := p.refreshExpiry now }

-- ============================================================ issuing

/-- A fresh pair whose two identifiers are unused is inserted whole. -/
theorem exec_issueFresh_unused (p : Policy) (r : TokenRequest) (now : Instant) {l : Ledger}
    (hA : (Table.find? l.store.access (uuid (l.draws + 1))).isSome = false)
    (hR : (Table.find? l.store.refresh (uuid l.draws)).isSome = false) :
    exec (issueFresh p r now) l =
      (.ok ⟨uuid (l.draws + 1), uuid l.draws, p.accessExpiry r.clientId now⟩,
        { store := { l.store with
            access := l.store.access ++ [pairedAccess p r now (uuid (l.draws + 1)) (uuid l.draws)],
            refresh := l.store.refresh ++ [firstRefresh p r now (uuid l.draws)] },
          draws := l.draws + 2 }) := by
  simp only [issueFresh, newAccess, exec_atomically, exec_bind, exec_freshId, bind_pure_comp,
    exec_map, exec_insertAccess, exec_insertRefresh, Except.map, hA, hR, Bool.false_eq_true,
    if_false]
  rfl

/-- A fresh pair under an identifier that is already taken fails with nothing
    changed. -/
theorem exec_issueFresh_taken (p : Policy) (r : TokenRequest) (now : Instant) {l : Ledger}
    (h : (Table.find? l.store.access (uuid (l.draws + 1))).isSome = true ∨
      (Table.find? l.store.refresh (uuid l.draws)).isSome = true) :
    exec (issueFresh p r now) l = (.error Error.storage, l) := by
  simp only [issueFresh, newAccess, exec_atomically, exec_bind, exec_freshId, bind_pure_comp,
    exec_map, exec_insertAccess, exec_insertRefresh, Except.map]
  -- the access token goes in first, so its identifier is read first
  by_cases h1 : (Table.find? l.store.access (uuid (l.draws + 1))).isSome = true
  · simp [h1]
  · simp [h1, h.resolve_left h1]

/-- An expired refresh token is deleted, and refused. -/
theorem exec_rotate_expired {p : Policy} {r : TokenRequest} {t : String} {now : Instant}
    {l : Ledger} {prev : RefreshToken} (hf : Table.find? l.store.refresh t = some prev)
    (ha : prev.isActiveAt now = false) :
    exec (rotate p r t now) l = (.error (.invalidRefreshToken "refresh token expired"),
      { l with store := { l.store with refresh := (Table.erase l.store.refresh t).1 } }) := by
  simp [rotate, exec_bind, exec_current, hf, ha, exec_discard, Except.map]

theorem exec_rotate_client {p : Policy} {r : TokenRequest} {t : String} {now : Instant}
    {l : Ledger} {prev : RefreshToken} (hf : Table.find? l.store.refresh t = some prev)
    (ha : prev.isActiveAt now = true) (hc : prev.clientId ≠ r.clientId) :
    exec (rotate p r t now) l =
      (.error (.invalidRefreshToken "refresh token was not issued to this client"), l) := by
  simp [rotate, exec_bind, exec_current, hf, ha, hc]

theorem exec_rotate_subject {p : Policy} {r : TokenRequest} {t : String} {now : Instant}
    {l : Ledger} {prev : RefreshToken} (hf : Table.find? l.store.refresh t = some prev)
    (ha : prev.isActiveAt now = true) (hc : prev.clientId = r.clientId)
    (hs : prev.subject ≠ r.subject) :
    exec (rotate p r t now) l =
      (.error (.invalidRefreshToken "refresh token belongs to another subject"), l) := by
  simp [rotate, exec_bind, exec_current, hf, ha, hc, hs]

/-- A live refresh token of the request's client and subject gives way to
    the next pair of its lineage, when the two identifiers drawn are unused. -/
theorem exec_rotate_live {p : Policy} {r : TokenRequest} {t : String} {now : Instant}
    {l : Ledger} {prev : RefreshToken} (hf : Table.find? l.store.refresh t = some prev)
    (ha : prev.isActiveAt now = true) (hc : prev.clientId = r.clientId)
    (hs : prev.subject = r.subject)
    (hA : (Table.find? l.store.access (uuid (l.draws + 1))).isSome = false)
    (hR : (Table.find? (Table.erase l.store.refresh t).1 (uuid l.draws)).isSome = false) :
    exec (rotate p r t now) l =
      (.ok ⟨uuid (l.draws + 1), uuid l.draws, p.accessExpiry r.clientId now⟩,
        { store := { l.store with
            access := l.store.access ++ [pairedAccess p r now (uuid (l.draws + 1)) (uuid l.draws)],
            refresh := (Table.erase l.store.refresh t).1 ++ [nextRefresh p r now prev (uuid l.draws)] },
          draws := l.draws + 2 }) := by
  have hn : ((Table.erase l.store.refresh t).2 == 0) = false := by
    simpa using Table.erase_count_pos hf
  have hc' : (prev.clientId != r.clientId) = false := by simp [hc]
  have hs' : (prev.subject != r.subject) = false := by simp [hs]
  simp only [rotate, exec_bind, exec_current, hf, ha, hc', hs', Bool.not_true, Bool.false_eq_true,
    if_false, exec_atomically, exec_deleteRefresh, hn, newAccess, exec_freshId,
    bind_pure_comp, exec_map, exec_insertAccess, exec_insertRefresh, Except.map, hA, hR]
  rfl

/-- A rotation whose checks pass but whose new pair falls under an identifier
    already taken fails with nothing changed: the deletion is rolled back. -/
theorem exec_rotate_taken {p : Policy} {r : TokenRequest} {t : String} {now : Instant}
    {l : Ledger} {prev : RefreshToken} (hf : Table.find? l.store.refresh t = some prev)
    (ha : prev.isActiveAt now = true) (hc : prev.clientId = r.clientId)
    (hs : prev.subject = r.subject)
    (h : (Table.find? l.store.access (uuid (l.draws + 1))).isSome = true ∨
      (Table.find? (Table.erase l.store.refresh t).1 (uuid l.draws)).isSome = true) :
    exec (rotate p r t now) l = (.error Error.storage, l) := by
  have hn : ((Table.erase l.store.refresh t).2 == 0) = false := by
    simpa using Table.erase_count_pos hf
  have hc' : (prev.clientId != r.clientId) = false := by simp [hc]
  have hs' : (prev.subject != r.subject) = false := by simp [hs]
  simp only [rotate, exec_bind, exec_current, hf, ha, hc', hs', Bool.not_true, Bool.false_eq_true,
    if_false, exec_atomically, exec_deleteRefresh, hn, newAccess, exec_freshId,
    bind_pure_comp, exec_map, exec_insertAccess, exec_insertRefresh, Except.map]
  by_cases h1 : (Table.find? l.store.access (uuid (l.draws + 1))).isSome = true
  · simp [h1]
  · simp [h1, h.resolve_left h1]

/-- A fresh pair is two drawn identifiers and two inserted rows, or nothing
    at all when an insert fails. -/
theorem exec_issueFresh (p : Policy) (r : TokenRequest) (now : Instant) (l : Ledger) :
    exec (issueFresh p r now) l = (.error Error.storage, l) ∨
      ∃ A R, exec (issueFresh p r now) l =
          (.ok ⟨A.id, R.id, A.expiration⟩,
            { store := { l.store with access := l.store.access ++ [A],
                                      refresh := l.store.refresh ++ [R] },
              draws := l.draws + 2 }) ∧
        A.id = uuid (l.draws + 1) ∧ R.id = uuid l.draws ∧ A.refreshTokenId = some R.id ∧
        A.subject = r.subject ∧ A.clientId = r.clientId ∧
        R.subject = r.subject ∧ R.userId = r.subject ∧ R.clientId = r.clientId ∧
        A.scopes = r.scopes ∧ A.audience = r.audience ∧
        R.scopes = r.scopes ∧ R.audience = r.audience := by
  by_cases h1 : (Table.find? l.store.access (uuid (l.draws + 1))).isSome = true
  · exact Or.inl (exec_issueFresh_taken p r now (Or.inl h1))
  · by_cases h2 : (Table.find? l.store.refresh (uuid l.draws)).isSome = true
    · exact Or.inl (exec_issueFresh_taken p r now (Or.inr h2))
    · exact Or.inr ⟨pairedAccess p r now (uuid (l.draws + 1)) (uuid l.draws),
        firstRefresh p r now (uuid l.draws),
        exec_issueFresh_unused p r now (Bool.eq_false_iff.2 h1) (Bool.eq_false_iff.2 h2),
        rfl, rfl, rfl, rfl, rfl, rfl, rfl, rfl, rfl, rfl, rfl, rfl⟩

theorem exec_rotate_missing {p : Policy} {r : TokenRequest} {t : String} {now : Instant}
    {l : Ledger} (h : Table.find? l.store.refresh t = none) :
    exec (rotate p r t now) l = (.error (.invalidRefreshToken "refresh token not found"), l) := by
  simp only [rotate, exec_bind, exec_current, h]
  rfl

theorem exec_rotate (p : Policy) (r : TokenRequest) (t : String) (now : Instant) (l : Ledger) :
    (∃ e, exec (rotate p r t now) l = (.error e, l)) ∨
    (∃ prev, Table.find? l.store.refresh t = some prev ∧ prev.isActiveAt now = false ∧
      exec (rotate p r t now) l =
        (.error (.invalidRefreshToken "refresh token expired"),
          { l with store := { l.store with refresh := (Table.erase l.store.refresh t).1 } })) ∨
    ∃ prev A R, Table.find? l.store.refresh t = some prev ∧
      exec (rotate p r t now) l =
          (.ok ⟨A.id, R.id, A.expiration⟩,
            { store := { l.store with access := l.store.access ++ [A],
                                      refresh := (Table.erase l.store.refresh t).1 ++ [R] },
              draws := l.draws + 2 }) ∧
        A.id = uuid (l.draws + 1) ∧ R.id = uuid l.draws ∧ A.refreshTokenId = some R.id ∧
        A.subject = prev.subject ∧ A.clientId = prev.clientId ∧
        R.subject = prev.subject ∧ R.userId = prev.userId ∧ R.clientId = prev.clientId ∧
        A.scopes = r.scopes ∧ A.audience = r.audience ∧
        R.scopes = prev.scopes ∧ R.audience = prev.audience ∧ prev.subject = r.subject := by
  cases hf : Table.find? l.store.refresh t with
  | none => exact Or.inl ⟨_, exec_rotate_missing hf⟩
  | some prev =>
    cases ha : prev.isActiveAt now with
    | false => exact Or.inr (Or.inl ⟨prev, rfl, ha, exec_rotate_expired hf ha⟩)
    | true =>
      by_cases hc : prev.clientId = r.clientId
      · by_cases hs : prev.subject = r.subject
        · -- every check passed: the pair goes in unless an identifier is taken
          by_cases h1 : (Table.find? l.store.access (uuid (l.draws + 1))).isSome = true
          · exact Or.inl ⟨_, exec_rotate_taken hf ha hc hs (Or.inl h1)⟩
          · by_cases h2 : (Table.find? (Table.erase l.store.refresh t).1 (uuid l.draws)).isSome
                = true
            · exact Or.inl ⟨_, exec_rotate_taken hf ha hc hs (Or.inr h2)⟩
            · exact Or.inr (Or.inr ⟨prev, pairedAccess p r now (uuid (l.draws + 1)) (uuid l.draws),
                nextRefresh p r now prev (uuid l.draws), rfl,
                exec_rotate_live hf ha hc hs (Bool.eq_false_iff.2 h1) (Bool.eq_false_iff.2 h2),
                rfl, rfl, rfl, hs.symm, hc.symm, rfl, rfl, rfl, rfl, rfl, rfl, rfl, hs⟩)
        · exact Or.inl ⟨_, exec_rotate_subject hf ha hc hs⟩
      · exact Or.inl ⟨_, exec_rotate_client hf ha hc⟩

/-- An access token issued alone is one drawn identifier and one inserted
    row, or nothing at all. -/
theorem exec_issueAccessOnly (p : Policy) (r : TokenRequest) (now : Instant) (l : Ledger) :
    exec (issueAccessOnly p r now) l = (.error Error.storage, l) ∨
      ∃ A, exec (issueAccessOnly p r now) l =
          (.ok ⟨A.id, A.expiration⟩,
            { store := { l.store with access := l.store.access ++ [A] }, draws := l.draws + 1 }) ∧
        A.id = uuid l.draws ∧ A.refreshTokenId = none ∧ A.subject = r.subject := by
  simp only [issueAccessOnly, newAccess, exec_atomically, exec_bind, exec_freshId, bind_pure_comp,
    exec_map, exec_insertAccess, Except.map]
  by_cases h : (Table.find? l.store.access (uuid l.draws)).isSome
  · left
    simp [h]
  · let A : AccessToken :=
      { id := uuid l.draws, clientId := r.clientId, subject := r.subject, refreshTokenId := none,
        audience := r.audience, scopes := r.scopes, expiration := p.accessExpiry r.clientId now }
    refine Or.inr ⟨A, ?_, rfl, rfl, rfl⟩
    simp only [h, Bool.false_eq_true, if_false]
    rfl

-- ============================================================ codes and users

/-- Saving a code touches neither token table nor the counter. -/
theorem exec_saveCode_tokens (p : Policy) (authRequestId code : String) (now : Instant)
    (l : Ledger) :
    (exec (saveCode p authRequestId code now) l).2.store.access = l.store.access ∧
      (exec (saveCode p authRequestId code now) l).2.store.refresh = l.store.refresh ∧
      (exec (saveCode p authRequestId code now) l).2.draws = l.draws := by
  obtain ⟨h1, h2, h3⟩ := exec_insertCode_tokens ⟨code, authRequestId, p.authCodeExpiry now⟩ l
  rw [saveCode, exec_atomically, exec_tryCatch]
  rcases hx : exec (insertCode ⟨code, authRequestId, p.authCodeExpiry now⟩) l with ⟨_ | _, l'⟩
  · exact ⟨rfl, rfl, rfl⟩
  · rw [hx] at h1 h2 h3
    exact ⟨h1, h2, h3⟩

/-- Consuming a code touches neither token table nor the counter. -/
theorem exec_consumeCode_tokens (code : String) (now : Instant) (l : Ledger) :
    (exec (consumeCode code now) l).2.store.access = l.store.access ∧
      (exec (consumeCode code now) l).2.store.refresh = l.store.refresh ∧
      (exec (consumeCode code now) l).2.draws = l.draws := by
  simp only [consumeCode, exec_bind, exec_current]
  cases Table.find? l.store.codes code with
  | none => exact ⟨rfl, rfl, rfl⟩
  | some stored =>
    simp only [exec_bind, exec_discard, exec_deleteCode, Except.map]
    split <;> exact ⟨rfl, rfl, rfl⟩

/-- Saving a code that is already there fails and changes nothing. -/
theorem exec_saveCode_taken {p : Policy} {a code : String} {now : Instant} {l : Ledger}
    (h : (Table.find? l.store.codes code).isSome = true) :
    exec (saveCode p a code now) l = (.error (.serverError "failed to save auth code"), l) := by
  simp [saveCode, insertCode, Table.insert?, exec_atomically, exec_tryCatch, exec_bind,
    exec_current, h]

theorem exec_saveCode_new {p : Policy} {a code : String} {now : Instant} {l : Ledger}
    (h : Table.find? l.store.codes code = none) :
    exec (saveCode p a code now) l =
      (.ok (), { l with store := { l.store with
        codes := l.store.codes ++ [⟨code, a, p.authCodeExpiry now⟩] } }) := by
  simp [saveCode, insertCode, Table.insert?, exec_atomically, exec_tryCatch, exec_bind,
    exec_current, h]

theorem exec_consumeCode_absent {code : String} {now : Instant} {l : Ledger}
    (h : Table.find? l.store.codes code = none) :
    exec (consumeCode code now) l = (.error (.accessDenied "auth code not found"), l) := by
  simp [consumeCode, exec_bind, exec_current, h]

/-- Consuming a code that is there deletes it, live or not, and answers its
    authorization request only while it is live. -/
theorem exec_consumeCode_present {code : String} {now : Instant} {l : Ledger} {C : AuthCode}
    (h : Table.find? l.store.codes code = some C) :
    exec (consumeCode code now) l =
      (if C.isValidAt now then .ok C.authRequestId else .error (.accessDenied "auth code expired"),
        { l with store := { l.store with codes := (Table.erase l.store.codes code).1 } }) := by
  simp only [consumeCode, exec_bind, exec_current, h, exec_discard, exec_deleteCode, Except.map]
  cases C.isValidAt now <;> rfl

-- ============================================================ revoking

theorem exec_revoke_absent {tokenId subject client : String} {l : Ledger}
    (h : Table.find? l.store.access tokenId = none) :
    exec (revoke tokenId subject client) l = (.error (.accessDenied "token not found"), l) := by
  simp [revoke, exec_bind, exec_current, h]

theorem exec_revoke_foreign {tokenId subject client : String} {l : Ledger} {T : AccessToken}
    (h : Table.find? l.store.access tokenId = some T) (hc : T.clientId ≠ client) :
    exec (revoke tokenId subject client) l =
      (.error (.invalidClient "token was not issued for this client"), l) := by
  simp [revoke, exec_bind, exec_current, h, hc]

/-- Revoking a token of the caller's client deletes it and the refresh token
    it names. -/
theorem exec_revoke_owned {tokenId subject client : String} {l : Ledger} {T : AccessToken}
    (h : Table.find? l.store.access tokenId = some T) (hc : T.clientId = client) :
    exec (revoke tokenId subject client) l =
      (.ok (), { l with store := { l.store with
          access := (Table.erase l.store.access tokenId).1,
          refresh := T.refreshTokenId.elim l.store.refresh
            fun x => (Table.erase l.store.refresh x).1 } }) := by
  simp only [revoke, exec_bind, exec_current, h, hc, bne_self_eq_false, Bool.false_eq_true,
    if_false, exec_atomically, exec_discard, exec_deleteAccess, Except.map]
  cases T.refreshTokenId <;> rfl

/-- Revoking a token either fails and changes nothing, or deletes the access
    token with that id and the refresh token it names. -/
theorem exec_revoke (tokenId subject client : String) (l : Ledger) :
    (∃ e, exec (revoke tokenId subject client) l = (.error e, l)) ∨
      ∃ T, Table.find? l.store.access tokenId = some T ∧
        exec (revoke tokenId subject client) l =
          (.ok (), { l with store := { l.store with
              access := (Table.erase l.store.access tokenId).1,
              refresh := T.refreshTokenId.elim l.store.refresh
                fun x => (Table.erase l.store.refresh x).1 } }) := by
  cases hf : Table.find? l.store.access tokenId with
  | none => exact Or.inl ⟨_, exec_revoke_absent hf⟩
  | some T =>
    by_cases hc : T.clientId = client
    · exact Or.inr ⟨T, rfl, exec_revoke_owned hf hc⟩
    · exact Or.inl ⟨_, exec_revoke_foreign hf hc⟩

@[simp] theorem exec_terminate (userId client : String) (l : Ledger) :
    exec (terminate userId client) l =
      (.ok (), { l with store := { l.store with
          access := (Table.eraseWhere l.store.access (·.subject == userId)).1,
          refresh := (Table.eraseWhere l.store.refresh (·.userId == userId)).1 } }) := rfl

-- ============================================================ sessions

/-- Signing in is issuing a fresh pair for the built-in client, with the
    user as subject, then drawing a nonce for the reference. -/
theorem exec_issueSession (ctx : Context) (userId : Int) (now : Instant) (l : Ledger) :
    ∃ r : TokenRequest, r.subject = toString userId ∧ (exec (issueSession ctx userId now) l).1.map (fun s => some s.refreshToken) =
        (exec (issueFresh ctx.policy r now) l).1.map (fun i => some i.refreshToken) ∧
      (exec (issueSession ctx userId now) l).2.store =
        (exec (issueFresh ctx.policy r now) l).2.store ∧
      (exec (issueFresh ctx.policy r now) l).2.draws ≤
        (exec (issueSession ctx userId now) l).2.draws := by
  refine ⟨{ subject := toString userId, clientId := ctx.builtinClient,
            audience := [Scope.anyAudience], scopes := Scope.firstParty, authTime := now,
            amr := ctx.config.auth.amr }, rfl, ?_⟩
  simp only [issueSession, issue, exec_bind]
  rcases exec (issueFresh ctx.policy _ now) l with ⟨_ | i, l1⟩
  · exact ⟨rfl, rfl, Nat.le_refl _⟩
  · simp [Except.map]

/-- What a live refresh token reads back as: the request of its row. -/
theorem refreshRequest_eq_ok {s : Store} {t : String} {moment : Instant} {st : RefreshRequest}
    (h : refreshRequest s t moment = .ok st) :
    ∃ R, Table.find? s.refresh t = some R ∧ st = R.toRequest := by
  unfold refreshRequest at h
  split at h
  · rename_i R hR
    split at h
    · cases h
      exact ⟨R, hR, rfl⟩
    · cases h
  · cases h

/-- Refreshing a session fails at the read, before any write, or is a
    rotation of the presented token at the later instant, with the request
    the token stands for moved to the built-in client, followed by a nonce
    draw. -/
theorem exec_refreshSession (ctx : Context) (token : String) (readAt now : Instant) (l : Ledger) :
    (∃ e, exec (refreshSession ctx token readAt now) l = (.error e, l)) ∨
      ∃ st r, refreshRequest l.store token readAt = .ok st ∧
        r = { st.toTokenRequest with clientId := ctx.builtinClient } ∧
        (exec (refreshSession ctx token readAt now) l).1.map (fun s => some s.refreshToken) =
          (exec (rotate ctx.policy r token now) l).1.map (fun i => some i.refreshToken) ∧
        (exec (refreshSession ctx token readAt now) l).2.store =
          (exec (rotate ctx.policy r token now) l).2.store ∧
        (exec (rotate ctx.policy r token now) l).2.draws ≤
          (exec (refreshSession ctx token readAt now) l).2.draws := by
  simp only [refreshSession, exec_bind, exec_current, exec_ofOutcome]
  cases refreshRequest l.store token readAt with
  | error e => exact Or.inl ⟨e, rfl⟩
  | ok stored =>
    refine Or.inr ⟨stored, _, rfl, rfl, ?_⟩
    simp only [issue]
    rcases exec (rotate ctx.policy _ token now) l with ⟨_ | i, l1⟩
    · exact ⟨rfl, rfl, Nat.le_refl _⟩
    · simp [Except.map]

end Warden.Service
