import Warden.Proofs.Http.Guard
import Warden.Proofs.Service.Session
/-!
# The session endpoints and their cookie

`POST /auth/refresh` rotates the presented refresh token and `GET /auth/logout`
revokes the caller's access token; each then sets the session cookie, to the
new access token or to nothing. The write is committed first, and the cookie
is built after it. Building fails when the text cannot be sent as a header
value, and the route then answers the failure while the write stays.

Everything in a cookie but its name can always be sent (`cookieText_ok`): a
reference is base64url and a lifetime is decimal. So the cookie is built
exactly when the configured name can stand in a header value. When it can,
each endpoint answers as a whole (`session_endpoints_answer_atomically`):
200 with its cookie after the write, or an error status with the ledger as it
was. The one write a refused refresh keeps is the rotation's own: the token
is read when the request arrives and rotated once the write lock is taken,
and a token that expires in between is deleted and answered 400 (`Lapsed`).
Validation asks only that the name be nonempty. A name with a control
character passes it, and then a refresh commits its rotation and answers 500
(`refresh_commits_before_cookie_fails`).
-/

namespace Warden.Http

open Warden.Service Warden.Token Warden.Text

-- ============================================================ header text

theorem validValue_append (a b : String) :
    validValue (a ++ b) = (validValue a && validValue b) := by
  simp only [validValue, String.toList_append, List.all_append]

theorem valueChar_of_isDigit {c : Char} (h : c.isDigit = true) : valueChar c = true := by
  simp only [Char.isDigit, Bool.and_eq_true, decide_eq_true_eq] at h
  have h₁ : 48 ≤ c.toNat := h.1
  have h₂ : c.toNat ≤ 57 := h.2
  simp only [valueChar, Bool.or_eq_true, Bool.and_eq_true, decide_eq_true_eq, bne_iff_ne, ne_eq]
  omega

/-- A decimal integer can be sent: digits and a minus sign. -/
theorem validValue_toString (i : Int) : validValue (toString i) = true := by
  have hdig : ∀ n, ∀ c ∈ Nat.toDigits 10 n, valueChar c = true := fun n c hc =>
    valueChar_of_isDigit (Integer.isDigit_of_mem_toDigits hc)
  rw [validValue, List.all_eq_true]
  cases i with
  | ofNat n =>
    rw [Integer.toList_toString_ofNat]
    exact hdig n
  | negSucc n =>
    rw [Integer.toList_toString_negSucc]
    intro c hc
    rcases List.mem_cons.1 hc with rfl | hc
    · decide
    · exact hdig (n + 1) c hc

theorem valueChar_sextetChar (n : Nat) : valueChar (Base64Url.sextetChar n) = true := by
  by_cases h : n < 64
  · have hall : ∀ n, n < 64 → valueChar (Base64Url.sextetChar n) = true := by decide
    exact hall n h
  · rw [Base64Url.sextetChar, if_neg (by omega), if_neg (by omega), if_neg (by omega),
      if_neg (by omega)]
    decide

/-- A sealed reference can be sent: it is base64url. -/
theorem validValue_encrypt (c : Cipher) (nonce : List UInt8) (p : String) :
    validValue (c.encrypt nonce p) = true := by
  rw [validValue, List.all_eq_true, Cipher.encrypt, Base64Url.encode, String.toList_ofList]
  intro ch hch
  obtain ⟨n, rfl⟩ := Base64Url.exists_sextetChar_of_mem_encodeChars hch
  exact valueChar_sextetChar n

theorem validValue_attribute (r : Config.SameSite) : validValue r.attribute = true := by
  cases r <;> decide

-- ============================================================ cookies

/-- A cookie whose name and value can be sent is built, whatever its rule,
    lifetime and secure flag. -/
theorem cookieText_ok {cfg : Config.Cookie} {value : String} (rule : Config.SameSite)
    (maxAge : Int) (hn : validValue cfg.name = true) (hv : validValue value = true) :
    ∃ text, cookieText cfg value rule maxAge = .ok text := by
  refine ⟨_, if_pos ?_⟩
  simp only [validValue_append, hn, hv, validValue_attribute, validValue_toString]
  cases cfg.secure <;> decide

/-- A cookie whose name cannot be sent is never built. -/
theorem cookieText_refused {cfg : Config.Cookie} (value : String) (rule : Config.SameSite)
    (maxAge : Int) (hn : validValue cfg.name = false) :
    cookieText cfg value rule maxAge = .error (.serverError "无法构造 Cookie") := by
  refine if_neg ?_
  simp only [validValue_append, hn, Bool.false_and, Bool.false_eq_true, not_false_eq_true]

-- ============================================================ responses

theorem ErrorKind.status_ge (k : ErrorKind) : 400 ≤ k.status := by
  cases k <;> decide

@[simp] theorem Response.forMethod_status (r : Response) (m : String) :
    (r.forMethod m).status = r.status := by
  unfold Response.forMethod
  split <;> rfl

@[simp] theorem Response.forMethod_setCookie (r : Response) (m : String) :
    (r.forMethod m).setCookie = r.setCookie := by
  unfold Response.forMethod
  split <;> rfl

theorem Response.forMethod_post (r : Response) : r.forMethod "POST" = r := rfl

/-- A refresh request whose body cannot be read is refused with an error
    status and no cookie. -/
theorem refreshTokenOf_error {req : Request} {r : Response} (h : refreshTokenOf req = .error r) :
    400 ≤ r.status ∧ r.setCookie = [] := by
  unfold refreshTokenOf at h
  split at h
  · cases h
    exact ⟨by simp [Response.plain], rfl⟩
  · split at h
    · cases h
    · cases h
      exact ⟨by simp [Response.plain], rfl⟩
    · cases h
      exact ⟨by simp [Response.plain], rfl⟩

/-- What the router makes of a handler's failure: the failure's response,
    with the ledger the handler left. -/
theorem exec_tryCatch_ofError {x : Op Response} {l : Ledger} :
    exec (tryCatch x fun err => pure (Response.ofError err)) l =
      match exec x l with
      | (.ok r, l') => (.ok r, l')
      | (.error e, l') => (.ok (.ofError e), l') := by
  rw [exec_tryCatch]
  rcases exec x l with ⟨_ | _, _⟩ <;> rfl

-- ============================================================ the endpoints

section Endpoints

variable {ctx : Context} {req : Request} {now : Instant} {wait : Nat} {l : Ledger}

/-- A refresh request runs its handler from the ledger as it was: the route
    checks nothing first. -/
theorem exec_route_refresh (hpath : pathOf req.path = Endpoint.refresh.template)
    (hm : Endpoint.refresh.accepts req.method = true) :
    exec (route ctx req now wait) l =
      exec (tryCatch (handle ctx req now wait {} .refresh) fun err => pure (.ofError err)) l := by
  have hpost : req.method = "POST" := by
    simpa [Endpoint.accepts, Endpoint.method] using hm
  have hscreen :
      (do handle ctx req now wait (← screen ctx req .refresh now) .refresh : Op Response) =
        handle ctx req now wait {} .refresh := rfl
  rw [exec_route hpath hm, hscreen, hpost]
  rcases exec (tryCatch (handle ctx req now wait {} .refresh) fun err => pure (.ofError err)) l
    with ⟨_ | _, _⟩ <;> rfl

/-- Once the refresh token has been read from the body and the refresh has
    succeeded, the answer rests on the cookie alone. -/
theorem exec_handle_refresh {token : String} {ts : TokenSet} {l' : Ledger}
    (htok : refreshTokenOf req = .ok token)
    (hs : exec (refreshSession ctx token now (now + wait)) l = (.ok ts, l')) :
    exec (handle ctx req now wait {} .refresh) l =
      match authCookie ctx.config.auth.cookie ts.accessToken ts.expiresIn with
      | .ok cookie => (.ok (.ok (envelope ts.toJson) [cookie]), l')
      | .error e => (.error e, l') := by
  simp only [handle, htok, exec_bind, hs]
  cases authCookie ctx.config.auth.cookie ts.accessToken ts.expiresIn <;> rfl

/-- Once the refresh token has been read from the body, a refused refresh
    is the handler's refusal, with the ledger the refresh left. -/
theorem exec_handle_refresh_error {token : String} {e : Error} {l' : Ledger}
    (htok : refreshTokenOf req = .ok token)
    (he : exec (refreshSession ctx token now (now + wait)) l = (.error e, l')) :
    exec (handle ctx req now wait {} .refresh) l = (.error e, l') := by
  simp only [handle, htok, exec_bind, he]

/-- With a cookie name that can be sent, the refresh endpoint answers 200
    with the token set of a refresh that succeeded and the cookie carrying its
    access token, or an error status with no cookie. A refused refresh leaves
    the ledger as it was, unless the token it read expired while the rotation
    waited for the lock: then the rotation deleted it, and the answer is 400. -/
theorem refresh_answers_whole (hname : validValue ctx.config.auth.cookie.name = true)
    (hpath : pathOf req.path = Endpoint.refresh.template)
    (hm : Endpoint.refresh.accepts req.method = true) :
    ∃ resp l', exec (route ctx req now wait) l = (.ok resp, l') ∧
      ((resp.status = 200 ∧ ∃ token ts cookie, refreshTokenOf req = .ok token ∧
          exec (refreshSession ctx token now (now + wait)) l = (.ok ts, l') ∧
          resp.body = .json (envelope ts.toJson) ∧ resp.setCookie = [cookie] ∧
          authCookie ctx.config.auth.cookie ts.accessToken ts.expiresIn = .ok cookie) ∨
        (400 ≤ resp.status ∧ resp.setCookie = [] ∧
          (l' = l ∨ resp.status = 400 ∧
            ∃ token, refreshTokenOf req = .ok token ∧ Lapsed l token now (now + wait) l'))) := by
  rw [exec_route_refresh hpath hm, exec_tryCatch_ofError]
  cases htok : refreshTokenOf req with
  | error r =>
    -- the body is refused before anything is written
    have hh : exec (handle ctx req now wait {} .refresh) l = (.ok r, l) := by
      simp only [handle, htok]
      rfl
    rw [hh]
    exact ⟨r, l, rfl, .inr ⟨(refreshTokenOf_error htok).1, (refreshTokenOf_error htok).2,
      .inl rfl⟩⟩
  | ok token =>
    rcases exec_refreshSession_whole ctx token now (now + wait) l with ⟨e, he⟩ |
        ⟨l', he, hlapsed⟩ | ⟨ts, l', he, nonce, p, hacc⟩
    · -- the refresh is refused, and it changed nothing
      rw [exec_handle_refresh_error htok he]
      exact ⟨_, l, rfl, .inr ⟨ErrorKind.status_ge _, rfl, .inl rfl⟩⟩
    · -- the token lapsed while the rotation waited: the rotation deleted it
      rw [exec_handle_refresh_error htok he]
      exact ⟨_, l', rfl, .inr ⟨Nat.le_refl 400, rfl, .inr ⟨rfl, token, rfl, hlapsed⟩⟩⟩
    · -- the refresh went through; its access token is a reference, so the
      -- cookie is built
      obtain ⟨cookie, hc⟩ := cookieText_ok ctx.config.auth.cookie.sameSite
        (max ts.expiresIn 0) hname (hacc ▸ validValue_encrypt ctx.cipher nonce p)
      have hcookie : authCookie ctx.config.auth.cookie ts.accessToken ts.expiresIn = .ok cookie := hc
      rw [exec_handle_refresh htok he, hcookie]
      exact ⟨_, l', rfl, .inl ⟨rfl, token, ts, cookie, rfl, he, rfl, rfl, hcookie⟩⟩

/-- With a cookie name that cannot be sent, a refresh that succeeds is kept
    and answered with a server error. -/
theorem refresh_kept_when_cookie_refused {token : String} {ts : TokenSet} {l' : Ledger}
    (hname : validValue ctx.config.auth.cookie.name = false)
    (hpath : pathOf req.path = Endpoint.refresh.template)
    (hm : Endpoint.refresh.accepts req.method = true) (htok : refreshTokenOf req = .ok token)
    (hs : exec (refreshSession ctx token now (now + wait)) l = (.ok ts, l')) :
    exec (route ctx req now wait) l = (.ok (.ofError (.serverError "无法构造 Cookie")), l') := by
  have hc : authCookie ctx.config.auth.cookie ts.accessToken ts.expiresIn =
      .error (.serverError "无法构造 Cookie") :=
    cookieText_refused _ _ _ hname
  rw [exec_route_refresh hpath hm, exec_tryCatch_ofError, exec_handle_refresh htok hs, hc]

variable (req now wait l) in
/-- The logout handler, once the cookie clears: it fails with the ledger as
    it was, or it revoked the caller's token and answers with the cookie. -/
theorem exec_handle_logout {cookie : String}
    (hclear : clearCookie ctx.config.auth.cookie = .ok cookie) (p : Pass) :
    (∃ e, exec (handle ctx req now wait p .logout) l = (.error e, l)) ∨
      ∃ c l', exec (logout ctx c) l = (.ok (), l') ∧
        exec (handle ctx req now wait p .logout) l =
          (.ok (.ok (notice "已退出登录") [cookie]), l') := by
  cases hp : p.claims with
  | none =>
    -- a guard that passed always names the claims; without them the handler refuses
    refine .inl ⟨.unauthorized "missing credential", ?_⟩
    simp only [handle, claimsOf, hp, exec_bind]
    rfl
  | some c =>
    rcases exec_revoke c.tokenId c.subject ctx.builtinClient l with ⟨e, he⟩ | ⟨T, -, he⟩
    · refine .inl ⟨e, ?_⟩
      simp only [handle, claimsOf, hp, exec_bind, logout]
      simp only [exec_pure, he]
    · obtain ⟨l', hr⟩ : ∃ l', exec (logout ctx c) l = (.ok (), l') := ⟨_, he⟩
      refine .inr ⟨c, l', hr, ?_⟩
      simp only [handle, claimsOf, hp, exec_bind]
      simp only [exec_pure, hr, hclear]
      rfl

/-- With a cookie name that can be sent, the logout endpoint answers 200 with
    the clearing cookie after a revocation that succeeded, or an error status
    with no cookie and the ledger as it was. -/
theorem logout_answers_whole (hname : validValue ctx.config.auth.cookie.name = true)
    (hpath : pathOf req.path = Endpoint.logout.template)
    (hm : Endpoint.logout.accepts req.method = true) :
    ∃ resp l', exec (route ctx req now wait) l = (.ok resp, l') ∧
      ((resp.status = 200 ∧ ∃ c cookie, exec (logout ctx c) l = (.ok (), l') ∧
          resp.setCookie = [cookie] ∧ clearCookie ctx.config.auth.cookie = .ok cookie) ∨
        (400 ≤ resp.status ∧ resp.setCookie = [] ∧ l' = l)) := by
  obtain ⟨cookie, hc⟩ := cookieText_ok .lax 0 hname (by decide : validValue "" = true)
  have hclear : clearCookie ctx.config.auth.cookie = .ok cookie := hc
  have hkeep := (exec_screen ctx req now l .logout).1
  rw [exec_route hpath hm, exec_tryCatch_ofError, exec_bind_of_keep hkeep]
  -- a refusal, by the guard or by the handler, leaves the ledger as it was
  have hrefused : ∀ e, ∃ resp l', ((Except.ok (Response.ofError e) : Except Error Response).map
      (·.forMethod req.method), l) = (.ok resp, l') ∧
      ((resp.status = 200 ∧ ∃ c cookie, exec (logout ctx c) l = (.ok (), l') ∧
          resp.setCookie = [cookie] ∧ clearCookie ctx.config.auth.cookie = .ok cookie) ∨
        (400 ≤ resp.status ∧ resp.setCookie = [] ∧ l' = l)) := fun e =>
    ⟨_, l, rfl, .inr ⟨by rw [Response.forMethod_status]; exact ErrorKind.status_ge e.kind,
      by rw [Response.forMethod_setCookie]; rfl, rfl⟩⟩
  cases hs : (exec (screen ctx req .logout now) l).1 with
  | error e => exact hrefused e
  | ok p =>
    rcases exec_handle_logout req now wait l hclear p with ⟨e, hh⟩ | ⟨c, l', hr, hh⟩
    · simp only [hh]
      exact hrefused e
    · -- the revocation went through, then the cookie was cleared
      simp only [hh]
      exact ⟨_, _, rfl, .inl ⟨by simp [Response.ok], c, cookie, hr, by simp [Response.ok],
        hclear⟩⟩

end Endpoints

-- ============================================================ the two endpoints

/-- Under a configuration whose cookie name can stand in a header value, the
    session endpoints answer as a whole, from every ledger, whatever the time
    a write waits for the lock. A refresh answers 200 with the token set of a
    refresh that went through and a cookie that carries its access token, or
    an error status with no cookie; a refused refresh leaves the ledger
    untouched, so the presented refresh token is as it was, except that a
    presented token that expired while the rotation waited is deleted and
    answered 400. A logout answers 200 with the clearing cookie after a
    revocation that went through, or an error status with no cookie and
    nothing revoked. -/
theorem session_endpoints_answer_atomically (ctx : Context)
    (hname : validValue ctx.config.auth.cookie.name = true) (req : Request) (now : Instant)
    (wait : Nat) (l : Ledger) :
    (pathOf req.path = Endpoint.refresh.template → Endpoint.refresh.accepts req.method = true →
      ∃ resp l', exec (route ctx req now wait) l = (.ok resp, l') ∧
        ((resp.status = 200 ∧ ∃ token ts cookie, refreshTokenOf req = .ok token ∧
            exec (refreshSession ctx token now (now + wait)) l = (.ok ts, l') ∧
            resp.body = .json (envelope ts.toJson) ∧ resp.setCookie = [cookie] ∧
            authCookie ctx.config.auth.cookie ts.accessToken ts.expiresIn = .ok cookie) ∨
          (400 ≤ resp.status ∧ resp.setCookie = [] ∧
            (l' = l ∨ resp.status = 400 ∧
              ∃ token, refreshTokenOf req = .ok token ∧ Lapsed l token now (now + wait) l')))) ∧
    (pathOf req.path = Endpoint.logout.template → Endpoint.logout.accepts req.method = true →
      ∃ resp l', exec (route ctx req now wait) l = (.ok resp, l') ∧
        ((resp.status = 200 ∧ ∃ c cookie, exec (logout ctx c) l = (.ok (), l') ∧
            resp.setCookie = [cookie] ∧ clearCookie ctx.config.auth.cookie = .ok cookie) ∨
          (400 ≤ resp.status ∧ resp.setCookie = [] ∧ l' = l))) :=
  ⟨fun hpath hm => refresh_answers_whole hname hpath hm,
    fun hpath hm => logout_answers_whole hname hpath hm⟩

/-- The default cookie name can be sent, so a refresh request under the
    default configuration answers as a whole. -/
theorem default_cookie_refresh_answers_whole :
    validValue (Context.ofConfig {} ⟨∅, ∅⟩).config.auth.cookie.name = true ∧
      pathOf "/auth/refresh" = Endpoint.refresh.template ∧ Endpoint.refresh.accepts "POST" = true ∧
      ∃ resp l', exec (route (Context.ofConfig {} ⟨∅, ∅⟩)
          { method := "POST", path := "/auth/refresh" } 0 0) {} = (.ok resp, l') ∧
        ((resp.status = 200 ∧ ∃ token ts cookie,
            refreshTokenOf { method := "POST", path := "/auth/refresh" } = .ok token ∧
            exec (refreshSession (Context.ofConfig {} ⟨∅, ∅⟩) token 0 0) {} = (.ok ts, l') ∧
            resp.body = .json (envelope ts.toJson) ∧ resp.setCookie = [cookie] ∧
            authCookie (Context.ofConfig {} ⟨∅, ∅⟩).config.auth.cookie ts.accessToken ts.expiresIn =
              .ok cookie) ∨
          (400 ≤ resp.status ∧ resp.setCookie = [] ∧
            (l' = {} ∨ resp.status = 400 ∧ ∃ token,
              refreshTokenOf { method := "POST", path := "/auth/refresh" } = .ok token ∧
              Lapsed {} token 0 0 l'))) := by
  have hname : validValue (Context.ofConfig {} ⟨∅, ∅⟩).config.auth.cookie.name = true := by decide
  have hpath : pathOf "/auth/refresh" = Endpoint.refresh.template := by decide +kernel
  have hm : Endpoint.refresh.accepts "POST" = true := rfl
  exact ⟨hname, hpath, hm, (session_endpoints_answer_atomically _ hname
    { method := "POST", path := "/auth/refresh" } 0 0 {}).1 hpath hm⟩

/-- A configuration that validation accepts, with a control character in its
    cookie name: a refresh of a live refresh token of the built-in client
    answers 500, yet the rotation was committed and the presented token is
    gone. -/
theorem refresh_commits_before_cookie_fails :
    Config.AppConfig.validate
        { auth := { cryptoSecret := "integration-secret", cookie := { name := "a\x01" } } } =
      .ok () ∧
    (⟨"r", "7", "7", "builtin", 0, [], [], [], 1000⟩ : RefreshToken).isActiveAt 0 = true ∧
    ∃ resp l', exec (route
        (Context.ofConfig
          { auth := { cryptoSecret := "integration-secret", cookie := { name := "a\x01" } } }
          ⟨∅, ∅⟩)
        { method := "POST", path := "/auth/refresh", headers := [("content-type", "application/json")],
          body := "\x7b\"refresh_token\":\"r\"\x7d" } 0 0)
        ⟨{ refresh := [⟨"r", "7", "7", "builtin", 0, [], [], [], 1000⟩] }, 0⟩ = (.ok resp, l') ∧
      resp.status = 500 ∧ Table.find? l'.store.refresh "r" = none := by
  have hv : Config.AppConfig.validate
      { auth := { cryptoSecret := "integration-secret", cookie := { name := "a\x01" } } } =
        .ok () := rfl
  have hread : (refreshTokenOf
      { method := "POST", path := "/auth/refresh", headers := [("content-type", "application/json")],
        body := "\x7b\"refresh_token\":\"r\"\x7d" }).toOption = some "r" := by
    decide +kernel
  have htok : refreshTokenOf
      { method := "POST", path := "/auth/refresh", headers := [("content-type", "application/json")],
        body := "\x7b\"refresh_token\":\"r\"\x7d" } = .ok "r" := by
    revert hread
    cases refreshTokenOf _ with
    | error r => intro h; cases h
    | ok t => intro h; cases h; rfl
  have hpath : pathOf "/auth/refresh" = Endpoint.refresh.template := by decide +kernel
  -- the presented token is live and of the built-in client, and both new
  -- identifiers are free: the rotation goes through
  have hs := @exec_refreshSession_live
    (Context.ofConfig
      { auth := { cryptoSecret := "integration-secret", cookie := { name := "a\x01" } } } ⟨∅, ∅⟩)
    0 ⟨{ refresh := [⟨"r", "7", "7", "builtin", 0, [], [], [], 1000⟩] }, 0⟩ "r" 0
    ⟨"r", "7", "7", "builtin", 0, [], [], [], 1000⟩ (by decide) (by decide) (by decide) rfl rfl rfl
  refine ⟨hv, by decide, _, _, refresh_kept_when_cookie_refused (by decide) hpath rfl htok hs,
    rfl, ?_⟩
  decide +kernel

end Warden.Http
