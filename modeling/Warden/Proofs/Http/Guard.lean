import Warden.Http.Router
import Warden.Proofs.Service.Gate
import Warden.Proofs.Rbac.Resolution
/-!
# The guards of the routes

A guarded route checks its caller before its handler runs, in this order:
a credential is presented (a bearer token, else the session cookie); the
gate lets it through (`Passes`); one of the route's scopes is granted; and,
for a route that checks roles, the subject is a user id, of a stored user,
whose roles grant the route's template and the request's method
(`Permitted`). `Guard.Admits` gathers what each kind of guard demands.

The guard writes nothing (`exec_screen`), and it passes exactly the
requests it admits. A refusal is the first failing check's: unauthorized
(401) while no credential gets through the gate, forbidden (403) once one
has. The router then runs the handler on exactly the admitted requests and
answers every other request with the guard's refusal
(`guarded_routes_admit_exactly`); `/me/permissions` answers exactly the
permissions the guard found for the user.
-/

namespace Warden.Http

open Warden.Service Warden.Token

/-- The claims a request's credential gets through the gate with. -/
def Passes (ctx : Context) (req : Request) (s : Store) (now : Instant) (c : Claims) : Prop :=
  ∃ v, credential req.headers ctx.config.auth.cookie.name = some v ∧
    validate ctx.cipher s v now = .ok c

/-- The claims grant one of the scopes, when any are named. -/
def Scoped (c : Claims) (scopes : List String) : Prop :=
  scopes = [] ∨ ∃ x ∈ scopes, x ∈ c.scopes

/-- A caller who may use a route: the subject is a user id, of a stored
    user, whose roles' permissions `perms` grant the template and method. -/
structure Permitted (ctx : Context) (s : Store) (c : Claims) (template method : String)
    (perms : List Rbac.Permission) : Prop where
  user : ∃ u, c.userId = .ok u ∧ ∃ user, s.user? u = some user ∧
    perms = ctx.roles.permissions user.roles
  grants : Rbac.grantsAny perms template method = true

/-- What a guard lets through, with what it found out about the caller. -/
def Guard.Admits (ctx : Context) (req : Request) (s : Store) (now : Instant) (template : String) :
    Guard → Pass → Prop
  | .anyone, p => p = {}
  | .signedIn scopes, p =>
    ∃ c, Passes ctx req s now c ∧ Scoped c scopes ∧ p = { claims := some c }
  | .permitted scopes, p =>
    ∃ c perms, Passes ctx req s now c ∧ Scoped c scopes ∧
      Permitted ctx s c template req.method perms ∧ p = { claims := some c, permissions := perms }

/-- The refusal of a guard, by how far the caller got: unauthorized while no
    credential gets through the gate, forbidden once one has. -/
def Refusal (ctx : Context) (req : Request) (s : Store) (now : Instant) (err : Error) : Prop :=
  (∃ m, err = .unauthorized m) ∧ (∀ c, ¬Passes ctx req s now c) ∨
    (∃ m, err = .forbidden m) ∧ ∃ c, Passes ctx req s now c

/-- Running a step that writes nothing, then going on from the same ledger. -/
theorem exec_bind_of_keep {α β : Type} {x : Op α} {l : Ledger} (hx : (exec x l).2 = l)
    (f : α → Op β) :
    exec (x >>= f) l = match (exec x l).1 with
      | .ok a => exec (f a) l
      | .error e => (.error e, l) := by
  rw [exec_bind]
  rcases h : exec x l with ⟨o, l'⟩
  rw [h] at hx
  subst hx
  cases o <;> rfl

section Checks

variable (ctx : Context) (req : Request) (now : Instant) (l : Ledger)

theorem Passes.unique {c c' : Claims} (h : Passes ctx req l.store now c)
    (h' : Passes ctx req l.store now c') : c = c' := by
  obtain ⟨v, hv, hc⟩ := h
  obtain ⟨v', hv', hc'⟩ := h'
  obtain rfl : v = v' := Option.some.inj (hv.symm.trans hv')
  exact Except.ok.inj (hc.symm.trans hc')

theorem scoped_iff (c : Claims) (scopes : List String) :
    Scoped c scopes ↔ (!scopes.isEmpty) = false ∨ Scope.intersects c.scopes scopes = true := by
  rw [Scope.intersects_iff]
  cases scopes <;> simp [Scoped]

/-- Checking the credential writes nothing; it passes with the claims the
    gate gives when they grant a scope, and refuses as `Refusal` says. -/
theorem exec_authenticate (scopes : List String) :
    (exec (authenticate ctx req scopes now) l).2 = l ∧
    (∀ c, (exec (authenticate ctx req scopes now) l).1 = .ok c ↔
      Passes ctx req l.store now c ∧ Scoped c scopes) ∧
    (∀ err, (exec (authenticate ctx req scopes now) l).1 = .error err →
      Refusal ctx req l.store now err) := by
  cases hv : credential req.headers ctx.config.auth.cookie.name with
  | none =>
    -- no credential: nothing passes
    have hn : ∀ c, ¬Passes ctx req l.store now c := by
      rintro c ⟨v, h, -⟩
      rw [hv] at h
      cases h
    have he : exec (authenticate ctx req scopes now) l =
        (.error (.unauthorized "missing credential"), l) := by
      simp only [authenticate, hv]
      rfl
    rw [he]
    refine ⟨rfl, fun c => ⟨fun h => ?_, fun h => absurd h.1 (hn c)⟩, fun err h => ?_⟩
    · cases h
    · cases h
      exact .inl ⟨⟨_, rfl⟩, hn⟩
  | some v =>
    cases hc : validate ctx.cipher l.store v now with
    | error e =>
      -- the gate refuses: nothing passes, and the refusal is unauthorized
      have hn : ∀ c, ¬Passes ctx req l.store now c := by
        rintro c ⟨v', h, h'⟩
        rw [hv, Option.some.injEq] at h
        subst h
        rw [hc] at h'
        cases h'
      have he : exec (authenticate ctx req scopes now) l = (.error e, l) := by
        simp only [authenticate, hv, exec_bind, exec_current, hc, exec_ofOutcome]
      rw [he]
      refine ⟨rfl, fun c => ⟨fun h => ?_, fun h => absurd h.1 (hn c)⟩, fun err h => ?_⟩
      · cases h
      · cases h
        exact .inl ⟨validate_error_unauthorized hc, hn⟩
    | ok c =>
      have hp : Passes ctx req l.store now c := ⟨v, hv, hc⟩
      by_cases hs : Scoped c scopes
      · have he : exec (authenticate ctx req scopes now) l = (.ok c, l) := by
          rcases (scoped_iff c scopes).1 hs with h | h
          · simp only [authenticate, hv, exec_bind, exec_current, hc, exec_ofOutcome, h]
            rfl
          · simp only [authenticate, hv, exec_bind, exec_current, hc, exec_ofOutcome,
              Scope.check, h]
            cases (!scopes.isEmpty) <;> rfl
        rw [he]
        refine ⟨rfl, fun c' => ⟨fun h => ?_, fun h => ?_⟩, fun err h => by cases h⟩
        · cases h
          exact ⟨hp, hs⟩
        · rw [hp.unique ctx req now l h.1]
      · -- the claims grant none of the scopes: forbidden
        have hsc : (!scopes.isEmpty) = true ∧ Scope.intersects c.scopes scopes = false := by
          rw [scoped_iff] at hs
          simpa using hs
        have he : exec (authenticate ctx req scopes now) l =
            (.error (.forbidden ("missing one of the required scopes: " ++
              ", ".intercalate scopes)), l) := by
          simp only [authenticate, hv, exec_bind, exec_current, hc, exec_ofOutcome, hsc.1,
            Scope.check, hsc.2]
          rfl
        rw [he]
        refine ⟨rfl, fun c' => ⟨fun h => ?_, fun h => ?_⟩, fun err h => ?_⟩
        · cases h
        · rw [← hp.unique ctx req now l h.1] at h
          exact absurd h.2 hs
        · cases h
          exact .inr ⟨⟨_, rfl⟩, c, hp⟩

theorem userId_error {c : Claims} {e : Error} (h : c.userId = .error e) : ∃ m, e = .forbidden m := by
  unfold Claims.userId at h
  split at h
  · cases h
  · cases h
    exact ⟨_, rfl⟩

/-- Checking the roles writes nothing; it passes with the user's permissions
    when they grant the template and method, and refuses as forbidden
    otherwise. -/
theorem exec_authorize (c : Claims) (template method : String) :
    (exec (authorize ctx c template method) l).2 = l ∧
    (∀ perms, (exec (authorize ctx c template method) l).1 = .ok perms ↔
      Permitted ctx l.store c template method perms) ∧
    (∀ err, (exec (authorize ctx c template method) l).1 = .error err →
      ∃ m, err = .forbidden m) := by
  cases hu : c.userId with
  | error e =>
    -- the subject is no user id
    have hn : ∀ perms, ¬Permitted ctx l.store c template method perms := by
      rintro perms ⟨⟨u, hu', -⟩, -⟩
      rw [hu] at hu'
      cases hu'
    have he : exec (authorize ctx c template method) l = (.error e, l) := by
      simp only [authorize, exec_bind, exec_ofOutcome, hu]
    rw [he]
    refine ⟨rfl, fun perms => ⟨fun h => ?_, fun h => absurd h (hn perms)⟩, fun err h => ?_⟩
    · cases h
    · cases h
      exact userId_error hu
  | ok u =>
    -- the roles of the user, if stored, then the permissions they reach
    have hauth : exec (authorize ctx c template method) l =
        match (rolesOf l.store u).map ctx.roles.permissions with
        | .ok perms =>
          if Rbac.grantsAny perms template method then (.ok perms, l)
          else (.error (.forbidden "permission denied"), l)
        | .error e => (.error e, l) := by
      simp only [authorize, exec_bind, exec_ofOutcome, hu, exec_current, Rbac.Graph.permissionsOf_eq]
      cases (rolesOf l.store u).map ctx.roles.permissions with
      | error e => rfl
      | ok perms =>
        dsimp only
        cases Rbac.grantsAny perms template method <;> rfl
    cases hs : l.store.user? u with
    | none =>
      -- no stored user has the id
      have hn : ∀ perms, ¬Permitted ctx l.store c template method perms := by
        rintro perms ⟨⟨u', hu', user, hs', -⟩, -⟩
        rw [hu, Except.ok.injEq] at hu'
        subst hu'
        rw [hs] at hs'
        cases hs'
      rw [hauth, rolesOf, hs]
      refine ⟨rfl, fun perms => ⟨fun h => ?_, fun h => absurd h (hn perms)⟩, fun err h => ?_⟩
      · cases h
      · cases h
        exact ⟨_, rfl⟩
    | some user =>
      have hperm : ∀ perms, Permitted ctx l.store c template method perms ↔
          perms = ctx.roles.permissions user.roles ∧ Rbac.grantsAny perms template method = true := by
        intro perms
        constructor
        · rintro ⟨⟨u', hu', user', hs', rfl⟩, hg⟩
          rw [hu, Except.ok.injEq] at hu'
          subst hu'
          rw [hs, Option.some.injEq] at hs'
          subst hs'
          exact ⟨rfl, hg⟩
        · rintro ⟨rfl, hg⟩
          exact ⟨⟨u, hu, user, hs, rfl⟩, hg⟩
      by_cases hg : Rbac.grantsAny (ctx.roles.permissions user.roles) template method = true
      · have he : exec (authorize ctx c template method) l =
            (.ok (ctx.roles.permissions user.roles), l) := by
          rw [hauth, rolesOf, hs]
          simp [Except.map, hg]
        rw [he]
        refine ⟨rfl, fun perms => ?_, fun err h => by cases h⟩
        rw [hperm]
        constructor
        · intro h
          cases h
          exact ⟨rfl, hg⟩
        · rintro ⟨rfl, -⟩
          rfl
      · -- the user's permissions do not grant the route
        have he : exec (authorize ctx c template method) l =
            (.error (.forbidden "permission denied"), l) := by
          rw [hauth, rolesOf, hs]
          simp [Except.map, hg]
        rw [he]
        refine ⟨rfl, fun perms => ⟨fun h => ?_, fun h => ?_⟩, fun err h => ?_⟩
        · cases h
        · obtain ⟨rfl, hg'⟩ := (hperm perms).1 h
          exact absurd hg' hg
        · cases h
          exact ⟨_, rfl⟩

/-- The guard of an endpoint writes nothing; it passes exactly the requests
    it admits, with what it found out, and refuses as `Refusal` says. -/
theorem exec_screen (e : Endpoint) :
    (exec (screen ctx req e now) l).2 = l ∧
    (∀ p, (exec (screen ctx req e now) l).1 = .ok p ↔
      e.guard.Admits ctx req l.store now e.template p) ∧
    (∀ err, (exec (screen ctx req e now) l).1 = .error err → Refusal ctx req l.store now err) := by
  unfold screen
  cases hg : e.guard with
  | anyone =>
    refine ⟨rfl, fun p => ⟨fun h => ?_, fun h => ?_⟩, fun err h => by cases h⟩
    · cases h
      rfl
    · cases h
      rfl
  | signedIn scopes =>
    obtain ⟨h2, hok, herr⟩ := exec_authenticate ctx req now l scopes
    rw [exec_bind_of_keep h2]
    cases ha : (exec (authenticate ctx req scopes now) l).1 with
    | error err =>
      -- the credential is refused: nothing is admitted
      refine ⟨rfl, fun p => ⟨fun h => ?_, fun h => ?_⟩, fun err' h => ?_⟩
      · cases h
      · obtain ⟨c, hp, hs, -⟩ := h
        rw [(hok c).2 ⟨hp, hs⟩] at ha
        cases ha
      · cases h
        exact herr err ha
    | ok c =>
      obtain ⟨hp, hs⟩ := (hok c).1 ha
      refine ⟨rfl, fun p => ⟨fun h => ?_, fun h => ?_⟩, fun err h => by cases h⟩
      · cases h
        exact ⟨c, hp, hs, rfl⟩
      · obtain ⟨c', hp', -, rfl⟩ := h
        rw [hp.unique ctx req now l hp']
        rfl
  | permitted scopes =>
    obtain ⟨h2, hok, herr⟩ := exec_authenticate ctx req now l scopes
    rw [exec_bind_of_keep h2]
    cases ha : (exec (authenticate ctx req scopes now) l).1 with
    | error err =>
      refine ⟨rfl, fun p => ⟨fun h => ?_, fun h => ?_⟩, fun err' h => ?_⟩
      · cases h
      · obtain ⟨c, perms, hp, hs, -⟩ := h
        rw [(hok c).2 ⟨hp, hs⟩] at ha
        cases ha
      · cases h
        exact herr err ha
    | ok c =>
      -- the credential passed; the roles decide
      obtain ⟨hp, hs⟩ := (hok c).1 ha
      obtain ⟨h2', hok', herr'⟩ := exec_authorize ctx l c e.template req.method
      dsimp only
      rw [exec_bind_of_keep h2']
      cases hz : (exec (authorize ctx c e.template req.method) l).1 with
      | error err =>
        refine ⟨rfl, fun p => ⟨fun h => ?_, fun h => ?_⟩, fun err' h => ?_⟩
        · cases h
        · obtain ⟨c', perms, hp', -, hperm, -⟩ := h
          obtain rfl := hp.unique ctx req now l hp'
          rw [(hok' perms).2 hperm] at hz
          cases hz
        · cases h
          exact .inr ⟨herr' err hz, c, hp⟩
      | ok perms =>
        have hperm := (hok' perms).1 hz
        refine ⟨rfl, fun p => ⟨fun h => ?_, fun h => ?_⟩, fun err h => by cases h⟩
        · cases h
          exact ⟨c, perms, hp, hs, hperm, rfl⟩
        · obtain ⟨c', perms', hp', -, hperm', rfl⟩ := h
          obtain rfl := hp.unique ctx req now l hp'
          rw [(hok' perms').2 hperm', Except.ok.injEq] at hz
          rw [hz]
          rfl

end Checks

-- ============================================================ routing

theorem Endpoint.filter_template (e : Endpoint) :
    Endpoint.all.filter (·.template == e.template) = [e] := by
  cases e <;> rfl

/-- A request for an endpoint's template, with a method it accepts, runs
    that endpoint's guard and then its handler; a refusal is answered as a
    response. -/
theorem exec_route {ctx : Context} {req : Request} {now : Instant} {wait : Nat} {l : Ledger}
    {e : Endpoint}
    (hpath : pathOf req.path = e.template) (hm : e.accepts req.method = true) :
    exec (route ctx req now wait) l =
      ((exec (tryCatch (do handle ctx req now wait (← screen ctx req e now) e)
          fun err => pure (Response.ofError err)) l).1.map (·.forMethod req.method),
        (exec (tryCatch (do handle ctx req now wait (← screen ctx req e now) e)
          fun err => pure (Response.ofError err)) l).2) := by
  have hc : Endpoint.all.filter (·.template == pathOf req.path) = [e] := by
    rw [hpath]
    exact Endpoint.filter_template e
  have hf : [e].find? (·.accepts req.method) = some e := by simp [hm]
  unfold route
  simp only [hc, hf]
  rw [exec_bind]
  rcases exec (tryCatch (do handle ctx req now wait (← screen ctx req e now) e)
    fun err => pure (Response.ofError err)) l with ⟨_ | r, l'⟩ <;> rfl

/-- On every request routed to an endpoint, the handler runs exactly when
    the endpoint's guard admits the request, from the ledger as it was: the
    guard writes nothing. Any other request is answered with the guard's
    refusal and writes nothing: unauthorized (401) while no credential gets
    through the gate, forbidden (403) once one has. `/me/permissions`
    answers exactly the permissions the guard found for the user. -/
theorem guarded_routes_admit_exactly (ctx : Context) (req : Request) (now : Instant)
    (wait : Nat) (l : Ledger) (e : Endpoint) (hpath : pathOf req.path = e.template)
    (hm : e.accepts req.method = true) :
    (∀ p, e.guard.Admits ctx req l.store now e.template p →
      exec (route ctx req now wait) l =
        ((exec (tryCatch (handle ctx req now wait p e) fun err => pure (.ofError err)) l).1.map
            (·.forMethod req.method),
          (exec (tryCatch (handle ctx req now wait p e) fun err => pure (.ofError err)) l).2)) ∧
    ((∀ p, ¬e.guard.Admits ctx req l.store now e.template p) →
      ∃ err, exec (route ctx req now wait) l = (.ok ((Response.ofError err).forMethod req.method), l) ∧
        ((Response.ofError err).status = 401 ∧ (∀ c, ¬Passes ctx req l.store now c) ∨
          (Response.ofError err).status = 403 ∧ ∃ c, Passes ctx req l.store now c)) ∧
    (e = .myPermissions → ∀ p, e.guard.Admits ctx req l.store now e.template p →
      (∃ c u, p.claims = some c ∧ c.userId = .ok u ∧
        permissionsOf ctx.roles l.store u = .ok p.permissions) ∧
      exec (handle ctx req now wait p e) l =
        (.ok (.ok (envelope (.array (p.permissions.map Rbac.Permission.toJson))) []), l)) := by
  obtain ⟨h2, hok, herr⟩ := exec_screen ctx req now l e
  rw [exec_route hpath hm, exec_tryCatch, exec_bind_of_keep h2]
  refine ⟨fun p hp => ?_, fun hn => ?_, ?_⟩
  · -- admitted: the handler runs
    rw [(hok p).2 hp, exec_tryCatch]
  · -- refused: the first failing check's refusal, and nothing written
    cases hs : (exec (screen ctx req e now) l).1 with
    | ok p => exact absurd ((hok p).1 hs) (hn p)
    | error err =>
      refine ⟨err, rfl, ?_⟩
      rcases herr err hs with ⟨⟨m, rfl⟩, hnp⟩ | ⟨⟨m, rfl⟩, hp⟩
      · exact .inl ⟨rfl, hnp⟩
      · exact .inr ⟨rfl, hp⟩
  · rintro rfl p ⟨c, perms, -, -, ⟨⟨u, hu, user, hs, rfl⟩, -⟩, rfl⟩
    refine ⟨⟨c, u, rfl, hu, ?_⟩, rfl⟩
    rw [Rbac.Graph.permissionsOf_eq, rolesOf, hs]
    rfl

/-- A request for `/me/permissions` with no credential is refused as
    unauthorized, and writes nothing. -/
theorem anonymous_permissions_request_refused :
    pathOf "/me/permissions" = Endpoint.myPermissions.template ∧
    Endpoint.myPermissions.accepts "GET" = true ∧
    ∃ err, exec (route (Context.ofConfig {} ⟨∅, ∅⟩)
        { method := "GET", path := "/me/permissions" } 0 0) {} =
          (.ok ((Response.ofError err).forMethod "GET"), {}) ∧
        (Response.ofError err).status = 401 := by
  have hpath : pathOf "/me/permissions" = Endpoint.myPermissions.template := by decide +kernel
  have hm : Endpoint.myPermissions.accepts "GET" = true := rfl
  -- no credential is presented, so no claims pass and nothing is admitted
  have hnp : ∀ c, ¬Passes (Context.ofConfig {} ⟨∅, ∅⟩)
      { method := "GET", path := "/me/permissions" } ({} : Ledger).store 0 c := by
    rintro c ⟨v, hv, -⟩
    cases hv
  have hn : ∀ p, ¬Endpoint.myPermissions.guard.Admits (Context.ofConfig {} ⟨∅, ∅⟩)
      { method := "GET", path := "/me/permissions" } ({} : Ledger).store 0
      Endpoint.myPermissions.template p := by
    rintro p ⟨c, -, hp, -⟩
    exact hnp c hp
  obtain ⟨err, h, hs⟩ := (guarded_routes_admit_exactly (Context.ofConfig {} ⟨∅, ∅⟩)
    { method := "GET", path := "/me/permissions" } 0 0 {} .myPermissions hpath hm).2.1 hn
  refine ⟨hpath, hm, err, h, ?_⟩
  rcases hs with ⟨h401, -⟩ | ⟨-, c, hc⟩
  · exact h401
  · exact absurd hc (hnp c)

end Warden.Http
