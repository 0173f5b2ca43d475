import Mathlib.Data.List.Induction
import Warden.Http.Body
/-!
# What a client learns about a user

`UserInfo.project` goes through the granted scopes in order, each one
overwriting its group of claims. What comes out depends only on which
scopes are granted (`project_eq_allowed`): `openid` gives the subject,
`email` the address marked verified, `profile` the names, the picture and
the locale, and no other scope gives anything. So neither the order of the
scopes nor a repeat matters (`project_congr`), and granting more scopes
never takes a claim away (`members_project_sublist`).

A live access token gives the claims its scopes allow about its own
subject. Introspection shows the token's scopes and client too, but its
claims, and its subject claim, are those of the subject the caller names.
-/

namespace Warden

open Warden.Token

-- ============================================================ outcomes

@[simp] theorem Outcome.throw_eq_error {α : Type} (e : Error) : (throw e : Outcome α) = .error e :=
  rfl

@[simp] theorem Outcome.pure_eq_ok {α : Type} (a : α) : (pure a : Outcome α) = .ok a :=
  rfl

@[simp] theorem Outcome.map_error {α β : Type} (f : α → β) (e : Error) :
    f <$> (Except.error e : Outcome α) = .error e :=
  rfl

@[simp] theorem Outcome.error_bind {α β : Type} (e : Error) (f : α → Outcome β) :
    (Except.error e : Outcome α) >>= f = .error e :=
  rfl

theorem Outcome.bind_eq_ok {α β : Type} {x : Outcome α} {f : α → Outcome β} {b : β} :
    x >>= f = .ok b ↔ ∃ a, x = .ok a ∧ f a = .ok b := by
  cases x <;> simp [bind, Except.bind]

theorem Outcome.bind_eq_error {α β : Type} {x : Outcome α} {f : α → Outcome β} {e : Error} :
    x >>= f = .error e ↔ x = .error e ∨ ∃ a, x = .ok a ∧ f a = .error e := by
  cases x <;> simp [bind, Except.bind]

namespace UserInfo

-- ============================================================ claims of a set of scopes

/-- The claims about `u` that a set of granted scopes allows, group by group. -/
def allowed (u : User) (subject : String) (granted : String → Bool) : UserInfo where
  sub := bif granted Scope.openid then some subject else none
  email := bif granted Scope.email then some u.email else none
  emailVerified := bif granted Scope.email then some true else none
  preferredUsername := bif granted Scope.profile then some u.username else none
  name := bif granted Scope.profile then some u.usualFullName else none
  familyName := bif granted Scope.profile then some u.lastName else none
  givenName := bif granted Scope.profile then some u.givenName else none
  nickname := bif granted Scope.profile then some u.username else none
  locale := bif granted Scope.profile then some defaultLocale else none
  picture := bif granted Scope.profile then u.picture else none

variable (u : User) (subject : String)

/-- One more granted scope adds its own group to what a set allows. -/
theorem grant_allowed (P : String → Bool) (x : String) :
    grant u subject (allowed u subject P) x = allowed u subject fun y => P y || decide (y = x) := by
  unfold grant
  by_cases h₁ : x = Scope.openid
  · subst h₁
    simp [allowed, Scope.openid, Scope.email, Scope.profile]
  by_cases h₂ : x = Scope.email
  · subst h₂
    simp [allowed, Scope.openid, Scope.email, Scope.profile]
  by_cases h₃ : x = Scope.profile
  · subst h₃
    simp [allowed, Scope.openid, Scope.email, Scope.profile]
  simp [allowed, h₁, h₂, h₃, Ne.symm h₁, Ne.symm h₂, Ne.symm h₃]

/-- The claims depend only on the set of granted scopes. -/
theorem project_eq_allowed (granted : List String) :
    project u subject granted = allowed u subject granted.contains := by
  -- the fold is extended by one scope at a time, from the right
  induction granted using List.reverseRecOn with
  | nil => rfl
  | append_singleton g x ih =>
    rw [project, List.foldl_append, ← project, ih, List.foldl_cons, List.foldl_nil,
      grant_allowed]
    congr 1
    funext y
    simp

theorem project_congr {g g' : List String} (h : ∀ x, x ∈ g ↔ x ∈ g') :
    project u subject g = project u subject g' := by
  rw [project_eq_allowed, project_eq_allowed]
  congr 1
  funext y
  simp [h y]

-- ============================================================ more scopes, more claims

/-- A claim that a narrower grant allows stands, with its value, among a
    wider grant's claims. -/
theorem claim_sublist {α β : Type} (f : α → List β) {p q : Bool} (h : p = true → q = true)
    (o : Option α) :
    (((bif p then o else none).map f).getD []).Sublist (((bif q then o else none).map f).getD []) := by
  cases p
  · simp
  · simp [h rfl]

theorem members_allowed_sublist {P Q : String → Bool} (h : ∀ x, P x = true → Q x = true) :
    (allowed u subject P).members.Sublist (allowed u subject Q).members := by
  simp only [members, allowed]
  repeat' apply List.Sublist.append
  all_goals exact claim_sublist _ (h _) _

/-- Granting more scopes never takes a claim away, nor changes one. -/
theorem members_project_sublist {g g' : List String} (h : ∀ x ∈ g, x ∈ g') :
    (project u subject g).members.Sublist (project u subject g').members := by
  rw [project_eq_allowed, project_eq_allowed]
  refine members_allowed_sublist u subject fun x hx => ?_
  simpa using h x (by simpa using hx)

end UserInfo

-- ============================================================ the holder of a token

theorem AccessToken.isActiveAt_eq_true {A : AccessToken} {now : Instant} :
    A.isActiveAt now = true ↔ now < A.expiration := by
  simp [AccessToken.isActiveAt]

namespace Service

variable {s : Store} {tokenId userId : String} {now : Instant}

theorem liveToken_not_found (h : Table.find? s.access tokenId = none) :
    liveToken s tokenId now = .error (.accessDenied "token not found") := by
  simp [liveToken, h]

theorem liveToken_expired {t : AccessToken} (h : Table.find? s.access tokenId = some t)
    (ha : ¬now < t.expiration) :
    liveToken s tokenId now = .error (.accessDenied "token expired") := by
  have hl : t.isActiveAt now = false := by simpa [AccessToken.isActiveAt] using ha
  simp [liveToken, h, hl]

theorem liveToken_live {t : AccessToken} (h : Table.find? s.access tokenId = some t)
    (ha : now < t.expiration) : liveToken s tokenId now = .ok t := by
  simp [liveToken, h, AccessToken.isActiveAt_eq_true.2 ha]

theorem liveToken_eq_ok {A : AccessToken} :
    liveToken s tokenId now = .ok A ↔ Table.find? s.access tokenId = some A ∧ now < A.expiration := by
  constructor
  · intro hok
    cases hf : Table.find? s.access tokenId with
    | none => simp [liveToken_not_found hf] at hok
    | some t =>
      by_cases ha : now < t.expiration
      · rw [liveToken_live hf ha, Except.ok.injEq] at hok
        subst hok
        exact ⟨rfl, ha⟩
      · simp [liveToken_expired hf ha] at hok
  · intro h
    exact liveToken_live h.1 h.2

theorem liveToken_error {e : Error} (h : liveToken s tokenId now = .error e) :
    ∃ m, e = .accessDenied m := by
  cases hf : Table.find? s.access tokenId with
  | none =>
    rw [liveToken_not_found hf, Except.error.injEq] at h
    exact ⟨_, h.symm⟩
  | some t =>
    by_cases ha : now < t.expiration
    · simp [liveToken_live hf ha] at h
    · rw [liveToken_expired hf ha, Except.error.injEq] at h
      exact ⟨_, h.symm⟩

theorem loadUser_eq_ok {u : User} :
    loadUser s userId = .ok u ↔ ∃ n, userIdOf? userId = some n ∧ s.user? n = some u := by
  rw [← Option.bind_eq_some_iff]
  unfold loadUser
  rw [Option.bind_eq_bind]
  cases (userIdOf? userId).bind s.user? with
  | none => simp
  | some v => simp

theorem loadUser_error {e : Error} (h : loadUser s userId = .error e) :
    e = .accessDenied "user not found" := by
  unfold loadUser at h
  split at h
  · cases h
  · cases h
    rfl

/-- The claims about a user named by text: the text must read as a 32-bit
    user id of a stored user. -/
theorem userinfo_eq_ok {scopes : List String} {info : UserInfo} :
    userinfo s userId scopes = .ok info ↔
      ∃ n u, userIdOf? userId = some n ∧ s.user? n = some u ∧
        info = UserInfo.project u userId scopes := by
  simp only [userinfo, Outcome.bind_eq_ok, loadUser_eq_ok, Outcome.pure_eq_ok, Except.ok.injEq]
  constructor
  · rintro ⟨u, ⟨n, hn, hu⟩, rfl⟩
    exact ⟨n, u, hn, hu, rfl⟩
  · rintro ⟨n, u, hn, hu, rfl⟩
    exact ⟨u, ⟨n, hn, hu⟩, rfl⟩

theorem userinfo_error {scopes : List String} {e : Error} (h : userinfo s userId scopes = .error e) :
    e = .accessDenied "user not found" := by
  simp only [userinfo, Outcome.bind_eq_error, Outcome.pure_eq_ok, reduceCtorEq, and_false,
    exists_false, or_false] at h
  exact loadUser_error h

-- ============================================================ tokens

/-- A token's claims are those its scopes allow about its own subject. -/
theorem userinfoOfToken_eq_ok {info : UserInfo} :
    userinfoOfToken s tokenId now = .ok info ↔
      ∃ A n u, Table.find? s.access tokenId = some A ∧ now < A.expiration ∧
        userIdOf? A.subject = some n ∧ s.user? n = some u ∧
        info = UserInfo.project u A.subject A.scopes := by
  simp only [userinfoOfToken, Outcome.bind_eq_ok, liveToken_eq_ok, userinfo_eq_ok]
  constructor
  · rintro ⟨A, ⟨hf, hl⟩, n, u, hn, hu, rfl⟩
    exact ⟨A, n, u, hf, hl, hn, hu, rfl⟩
  · rintro ⟨A, n, u, hf, hl, hn, hu, rfl⟩
    exact ⟨A, ⟨hf, hl⟩, n, u, hn, hu, rfl⟩

theorem userinfoOfToken_error {e : Error} (h : userinfoOfToken s tokenId now = .error e) :
    ∃ m, e = .accessDenied m := by
  simp only [userinfoOfToken, Outcome.bind_eq_error] at h
  rcases h with h | ⟨A, -, h⟩
  · exact liveToken_error h
  · exact ⟨_, userinfo_error h⟩

/-- Introspection shows the token's scopes and client, with the claims about
    the subject the caller names. -/
theorem introspect_eq_ok {subject : String} {i : Introspection} :
    introspect s tokenId subject now = .ok i ↔
      ∃ A n u, Table.find? s.access tokenId = some A ∧ now < A.expiration ∧
        userIdOf? subject = some n ∧ s.user? n = some u ∧
        i = { active := true, scope := A.scopes, clientId := A.clientId, sub := subject,
              userinfo := UserInfo.project u subject A.scopes } := by
  simp only [introspect, Outcome.bind_eq_ok, liveToken_eq_ok, userinfo_eq_ok, Outcome.pure_eq_ok,
    Except.ok.injEq]
  constructor
  · rintro ⟨A, ⟨hf, hl⟩, info, ⟨n, u, hn, hu, rfl⟩, rfl⟩
    exact ⟨A, n, u, hf, hl, hn, hu, rfl⟩
  · rintro ⟨A, n, u, hf, hl, hn, hu, rfl⟩
    exact ⟨A, ⟨hf, hl⟩, _, ⟨n, u, hn, hu, rfl⟩, rfl⟩

theorem introspect_error {subject : String} {e : Error}
    (h : introspect s tokenId subject now = .error e) : ∃ m, e = .accessDenied m := by
  simp only [introspect, Outcome.bind_eq_error] at h
  rcases h with h | ⟨A, -, h | ⟨info, -, h⟩⟩
  · exact liveToken_error h
  · exact ⟨_, userinfo_error h⟩
  · cases h

end Service

-- ============================================================ the claims a client gets

open Service in
/-- The claims about a user follow the set of granted scopes: each group is
    present exactly when its scope is granted, so neither order nor repeats
    matter, and more scopes give more claims. A live access token gives the
    claims its scopes allow about its own subject; a missing or expired
    token, a subject that is no user id, or an unknown user is refused as
    access denied. -/
theorem claims_follow_granted_scopes (u : User) (subject : String) (g g' : List String)
    (s : Store) (tokenId : String) (now : Instant) :
    UserInfo.project u subject g = UserInfo.allowed u subject g.contains ∧
    ((∀ x, x ∈ g ↔ x ∈ g') → UserInfo.project u subject g = UserInfo.project u subject g') ∧
    ((∀ x ∈ g, x ∈ g') →
      (UserInfo.project u subject g).members.Sublist (UserInfo.project u subject g').members) ∧
    (∀ info, userinfoOfToken s tokenId now = .ok info ↔
      ∃ A n user, Table.find? s.access tokenId = some A ∧ now < A.expiration ∧
        userIdOf? A.subject = some n ∧ s.user? n = some user ∧
        info = UserInfo.project user A.subject A.scopes) ∧
    (∀ e, userinfoOfToken s tokenId now = .error e → ∃ m, e = .accessDenied m) :=
  ⟨UserInfo.project_eq_allowed u subject g, UserInfo.project_congr u subject,
    UserInfo.members_project_sublist u subject, fun _ => userinfoOfToken_eq_ok,
    fun _ => userinfoOfToken_error⟩

/-- Scopes read in another order and with a repeat give the same claims, and
    one more scope keeps every claim. -/
theorem reordered_and_wider_scopes_keep_claims :
    ((∀ x, x ∈ ["profile", "openid", "profile"] ↔ x ∈ ["openid", "profile"]) ∧
      UserInfo.project ⟨7, "alice", "alice@example.com", "Alice", "Tester", some "Ali",
          "Ali Tester", some "https://cdn.example/alice.png", ["user"]⟩ "7" ["profile", "openid", "profile"] =
        UserInfo.project ⟨7, "alice", "alice@example.com", "Alice", "Tester", some "Ali",
          "Ali Tester", some "https://cdn.example/alice.png", ["user"]⟩ "7" ["openid", "profile"]) ∧
    ((∀ x ∈ ["openid", "profile"], x ∈ ["email", "openid", "profile"]) ∧
      (UserInfo.project ⟨7, "alice", "alice@example.com", "Alice", "Tester", some "Ali",
          "Ali Tester", some "https://cdn.example/alice.png", ["user"]⟩ "7" ["openid", "profile"]).members.Sublist
        (UserInfo.project ⟨7, "alice", "alice@example.com", "Alice", "Tester", some "Ali",
          "Ali Tester", some "https://cdn.example/alice.png", ["user"]⟩ "7" ["email", "openid", "profile"]).members) := by
  have hset : ∀ x, x ∈ ["profile", "openid", "profile"] ↔ x ∈ ["openid", "profile"] := by
    intro x
    simp only [List.mem_cons, List.not_mem_nil, or_false]
    grind
  have hwide : ∀ x ∈ ["openid", "profile"], x ∈ ["email", "openid", "profile"] := by
    simp
  exact ⟨⟨hset, (claims_follow_granted_scopes _ "7" _ _ {} "" 0).2.1 hset⟩,
    ⟨hwide, (claims_follow_granted_scopes _ "7" _ _ {} "" 0).2.2.1 hwide⟩⟩

open Service in
/-- Introspecting a live token shows the token's scopes and client, but the
    claims, and the subject claim, of the subject the caller names, which
    need not be the token's own; a missing or expired token, a subject that
    is no user id, or an unknown user is refused as access denied. -/
theorem introspection_reports_named_subject (s : Store) (tokenId subject : String)
    (now : Instant) :
    (∀ i, introspect s tokenId subject now = .ok i ↔
      ∃ A n user, Table.find? s.access tokenId = some A ∧ now < A.expiration ∧
        userIdOf? subject = some n ∧ s.user? n = some user ∧
        i = { active := true, scope := A.scopes, clientId := A.clientId, sub := subject,
              userinfo := UserInfo.project user subject A.scopes }) ∧
    (∀ e, introspect s tokenId subject now = .error e → ∃ m, e = .accessDenied m) :=
  ⟨fun _ => introspect_eq_ok, fun _ => introspect_error⟩

end Warden
