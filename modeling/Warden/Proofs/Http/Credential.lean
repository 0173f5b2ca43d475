import Mathlib.Data.Option.Basic
import Warden.Http.Credential
import Warden.Proofs.Http.Cookie
/-!
# The credential a request presents

A request presents its access token as a bearer token or in the session
cookie, and `credential` reads it by rules stated here without the parser's
steps. `BearerGives`: the first `Authorization` value reads as plain text,
and is a scheme spelling `bearer` in any ASCII case, a space, and a rest
whose trimmed text is not empty. `CookieGives`: among the `Cookie` values
that read as plain text, in order, the first piece (between semicolons)
that names the cookie gives its value, whatever later pieces hold
(`credential_eq_some_iff`). A value that does not read as plain text is
skipped, even when it names the cookie.

The cookie the service sets begins with the piece `name=value`. Sent back
among other pairs, in a plain-text `Cookie` header, that piece gives the
value again (`cookie_round_trip`).
-/

namespace Warden

namespace Text

-- ============================================================ cutting and trimming

theorem splitOnceChars_append {c : Char} {a : List Char} (ha : c ∉ a) (b : List Char) :
    splitOnceChars c (a ++ c :: b) = some (a, b) := by
  induction a with
  | nil => simp [splitOnceChars]
  | cons d a ih =>
    have hd : d ≠ c := fun h => ha (h ▸ List.mem_cons_self)
    have ha' : c ∉ a := fun h => ha (List.mem_cons_of_mem _ h)
    simp [splitOnceChars, hd, ih ha']

/-- A cut at the first `c`, said of the characters. -/
theorem splitOnce_eq_some_iff {s : String} {c : Char} {a b : String} :
    splitOnce s c = some (a, b) ↔ s.toList = a.toList ++ c :: b.toList ∧ c ∉ a.toList := by
  constructor
  · intro h
    obtain ⟨⟨a', b'⟩, hs, he⟩ := Option.map_eq_some_iff.1 h
    simp only [Prod.mk.injEq] at he
    obtain ⟨rfl, rfl⟩ := he
    simpa using splitOnceChars_spec c hs
  · rintro ⟨h₁, h₂⟩
    simp [splitOnce, h₁, splitOnceChars_append h₂]

theorem isBlank_space : isBlank ' ' = true := by decide

/-- Dropping blanks at the front leaves a suffix. -/
theorem dropBlanks_suffix (cs : List Char) : dropBlanks cs <:+ cs := by
  induction cs with
  | nil => exact List.suffix_refl _
  | cons c cs ih =>
    unfold dropBlanks
    split
    · exact ih.trans (List.suffix_cons c cs)
    · exact List.suffix_refl _

/-- A text that starts with no blank keeps its start whatever follows. -/
theorem dropBlanks_append_of_eq {cs : List Char} (h : dropBlanks cs = cs) (hne : cs ≠ [])
    (r : List Char) : dropBlanks (cs ++ r) = cs ++ r := by
  obtain ⟨c, cs', rfl⟩ := List.exists_cons_of_ne_nil hne
  cases hc : isBlank c with
  | false => simp [dropBlanks, hc]
  | true =>
    -- a blank first character would be dropped, and the text grow shorter
    have hlen := (dropBlanks_suffix cs').length_le
    rw [dropBlanks, if_pos hc] at h
    rw [h] at hlen
    exact absurd hlen (by simp)

/-- Text that trimming keeps has no blank at its front. -/
theorem dropBlanks_of_trimChars {cs : List Char} (h : trimChars cs = cs) : dropBlanks cs = cs := by
  have hsuffix := dropBlanks_suffix cs
  have hprefix : trimChars cs <+: dropBlanks cs := by
    rw [trimChars, ← List.reverse_suffix, List.reverse_reverse]
    exact dropBlanks_suffix _
  rw [h] at hprefix
  exact hsuffix.eq_of_length (Nat.le_antisymm hsuffix.length_le hprefix.length_le)

/-- Text that trimming keeps has no blank at its end. -/
theorem dropBlanks_reverse_of_trimChars {cs : List Char} (h : trimChars cs = cs) :
    dropBlanks cs.reverse = cs.reverse := by
  have h' := h
  rw [trimChars, dropBlanks_of_trimChars h] at h'
  exact List.reverse_injective (by rw [h', List.reverse_reverse])

/-- A pair whose name starts, and whose value ends, with no blank is kept
    whole by trimming. -/
theorem trimChars_pair {n v : List Char} (hn : trimChars n = n) (hn₀ : n ≠ [])
    (hv : trimChars v = v) (hv₀ : v ≠ []) : trimChars (n ++ '=' :: v) = n ++ '=' :: v := by
  have hfront : dropBlanks (n ++ '=' :: v) = n ++ '=' :: v :=
    dropBlanks_append_of_eq (dropBlanks_of_trimChars hn) hn₀ _
  have hback : dropBlanks (n ++ '=' :: v).reverse = (n ++ '=' :: v).reverse := by
    rw [List.reverse_append, List.reverse_cons, List.append_assoc]
    exact dropBlanks_append_of_eq (dropBlanks_reverse_of_trimChars hv) (by simpa using hv₀) _
  rw [trimChars, hfront, hback, List.reverse_reverse]

theorem trim_space_append (s : String) : trim (" " ++ s) = trim s := by
  simp [trim, trimChars, dropBlanks, isBlank_space]

end Text

namespace Http

-- ============================================================ the rules

/-- A piece of a `Cookie` header names the cookie `name` with `value`:
    trimmed, it is the name, `=` and the value, and the name holds no `=`
    (a piece is cut at its first `=`). -/
def PairNames (piece name value : String) : Prop :=
  '=' ∉ name.toList ∧ (Text.trim piece).toList = name.toList ++ '=' :: value.toList

/-- The request carries the bearer token `token`: its first `Authorization`
    value reads as plain text and is a scheme spelling `bearer` in any ASCII
    case, a space, and a rest that trims to `token`, which is not empty. -/
def BearerGives (hs : Headers) (token : String) : Prop :=
  ∃ value scheme rest, hs.get? "authorization" = some value ∧ visible value = true ∧
    value.toList = scheme.toList ++ ' ' :: rest.toList ∧ ' ' ∉ scheme.toList ∧
    isBearer scheme = true ∧ Text.trim rest = token ∧ token ≠ ""

/-- Among the pieces of the `Cookie` values that read as plain text, in
    order, the first that names the cookie `name` gives `value`. -/
def CookieGives (hs : Headers) (name value : String) : Prop :=
  ∃ pre piece post,
    ((hs.getAll "cookie").filter visible).flatMap cookiePieces = pre ++ piece :: post ∧
    (∀ p ∈ pre, ∀ w, ¬PairNames p name w) ∧ PairNames piece name value

-- ============================================================ reading a piece

theorem pairValue_eq_some_iff {name piece value : String} :
    pairValue name piece = some value ↔ PairNames piece name value := by
  unfold pairValue PairNames
  constructor
  · intro h
    split at h
    · rename_i k v hs
      obtain ⟨hcut, hk⟩ := Text.splitOnce_eq_some_iff.1 hs
      split at h
      · rename_i hkn
        cases h
        obtain rfl : k = name := by simpa using hkn
        exact ⟨hk, hcut⟩
      · cases h
    · cases h
  · rintro ⟨hn, ht⟩
    rw [Text.splitOnce_eq_some_iff.2 ⟨ht, hn⟩]
    simp

theorem pairValue_eq_none_iff {name piece : String} :
    pairValue name piece = none ↔ ∀ w, ¬PairNames piece name w := by
  rw [Option.eq_none_iff_forall_ne_some]
  exact forall_congr' fun w => not_congr pairValue_eq_some_iff

/-- A piece is read through its trimmed text only. -/
theorem pairValue_eq_of_trim {name p q : String} (h : Text.trim p = Text.trim q) :
    pairValue name p = pairValue name q := by
  simp only [pairValue, h]

-- ============================================================ bearer tokens

theorem bearerToken_eq_some_iff {hs : Headers} {token : String} :
    bearerToken hs = some token ↔ BearerGives hs token := by
  unfold bearerToken BearerGives
  simp only [Option.bind_eq_bind, Option.bind_eq_some_iff, Option.guard_eq_some', Option.pure_def,
    Option.some.injEq, exists_const, Bool.not_eq_true', String.isEmpty_eq_false_iff, Prod.exists,
    Text.splitOnce_eq_some_iff]
  constructor
  · rintro ⟨value, hv, hvis, scheme, rest, ⟨hcut, hsp⟩, hb, hne, rfl⟩
    exact ⟨value, scheme, rest, hv, hvis, hcut, hsp, hb, rfl, hne⟩
  · rintro ⟨value, scheme, rest, hv, hvis, hcut, hsp, hb, rfl, hne⟩
    exact ⟨value, hv, hvis, scheme, rest, ⟨hcut, hsp⟩, hb, hne, rfl⟩

theorem bearerToken_eq_none_iff {hs : Headers} :
    bearerToken hs = none ↔ ∀ t, ¬BearerGives hs t := by
  rw [Option.eq_none_iff_forall_ne_some]
  exact forall_congr' fun t => not_congr bearerToken_eq_some_iff

-- ============================================================ the session cookie

theorem findSome?_flatMap {α β γ : Type} (l : List α) (g : α → List β) (f : β → Option γ) :
    (l.flatMap g).findSome? f = l.findSome? fun a => (g a).findSome? f := by
  induction l with
  | nil => rfl
  | cons a l ih =>
    rw [List.flatMap_cons, List.findSome?_append, ih, List.findSome?_cons]
    cases (g a).findSome? f <;> rfl

/-- The value of the first of some pieces that names the cookie. -/
theorem findSome?_pairValue_eq_some_iff {pieces : List String} {name value : String} :
    pieces.findSome? (pairValue name) = some value ↔
      ∃ pre piece post, pieces = pre ++ piece :: post ∧ (∀ p ∈ pre, ∀ w, ¬PairNames p name w) ∧
        PairNames piece name value := by
  rw [List.findSome?_eq_some_iff]
  constructor
  · rintro ⟨pre, piece, post, rfl, hp, hpre⟩
    exact ⟨pre, piece, post, rfl, fun p hmem => pairValue_eq_none_iff.1 (hpre p hmem),
      pairValue_eq_some_iff.1 hp⟩
  · rintro ⟨pre, piece, post, rfl, hpre, hp⟩
    exact ⟨pre, piece, post, rfl, pairValue_eq_some_iff.2 hp,
      fun p hmem => pairValue_eq_none_iff.2 (hpre p hmem)⟩

theorem cookieToken_eq_some_iff {hs : Headers} {name token : String} :
    cookieToken hs name = some token ↔ CookieGives hs name token ∧ token ≠ "" := by
  unfold cookieToken CookieGives findCookie
  simp only [Option.bind_eq_bind, Option.bind_eq_some_iff, Option.guard_eq_some', Option.pure_def,
    Option.some.injEq, Bool.not_eq_true', String.isEmpty_eq_false_iff, ← findSome?_flatMap,
    findSome?_pairValue_eq_some_iff, exists_const]
  constructor
  · rintro ⟨_, hfirst, hne, rfl⟩
    exact ⟨hfirst, hne⟩
  · rintro ⟨hfirst, hne⟩
    exact ⟨token, hfirst, hne, rfl⟩

/-- The credential of a request: its bearer token when it has one, else the
    first piece naming the session cookie among its plain-text `Cookie`
    values, when that piece's value is not empty. -/
theorem credential_eq_some_iff {hs : Headers} {name token : String} :
    credential hs name = some token ↔
      BearerGives hs token ∨ ((∀ t, ¬BearerGives hs t) ∧ CookieGives hs name token ∧ token ≠ "") := by
  rw [credential, Option.or_eq_some_iff, bearerToken_eq_some_iff, bearerToken_eq_none_iff,
    cookieToken_eq_some_iff]

-- ============================================================ a header of pairs

/-- Joining with `; ` is joining with `;` pieces that start with a space. -/
theorem intercalate_semicolon_space (x : List Char) (ys : List (List Char)) :
    [';', ' '].intercalate (x :: ys) = [';'].intercalate (x :: ys.map (' ' :: ·)) := by
  induction ys generalizing x with
  | nil => simp
  | cons y ys ih =>
    rw [List.intercalate_cons_cons, ih y, List.map_cons, List.intercalate_cons_cons,
      List.intercalate_cons_cons_left]
    simp

/-- The pieces of pairs joined by `; `: the first as it is, each later one
    after the space. -/
theorem cookiePieces_intercalate {p : String} {ps : List String}
    (h : ∀ q ∈ p :: ps, ';' ∉ q.toList) :
    cookiePieces ("; ".intercalate (p :: ps)) = p :: ps.map (" " ++ ·) := by
  have hsplit : ([';'].intercalate (p.toList :: ps.map fun q => ' ' :: q.toList)).splitOn ';' =
      p.toList :: ps.map fun q => ' ' :: q.toList := by
    apply List.splitOn_intercalate
    · intro l hl
      simp only [List.mem_cons, List.mem_map] at hl
      rcases hl with rfl | ⟨q, hq, rfl⟩
      · exact h p List.mem_cons_self
      · simpa using h q (List.mem_cons_of_mem _ hq)
    · simp
  have htext : ("; ".intercalate (p :: ps)).toList =
      [';'].intercalate (p.toList :: ps.map fun q => ' ' :: q.toList) := by
    have hsep : "; ".toList = [';', ' '] := by decide
    rw [String.toList_intercalate, List.map_cons, hsep, intercalate_semicolon_space, List.map_map]
    rfl
  rw [cookiePieces, htext, hsplit]
  simp

/-- Every piece of pairs joined by `; ` trims to the pair it came from. -/
theorem map_trim_cookiePieces {p : String} {ps : List String}
    (h : ∀ q ∈ p :: ps, ';' ∉ q.toList) :
    (cookiePieces ("; ".intercalate (p :: ps))).map Text.trim = (p :: ps).map Text.trim := by
  rw [cookiePieces_intercalate h, List.map_cons, List.map_map, List.map_cons]
  congr 1
  exact List.map_congr_left fun q _ => Text.trim_space_append q

/-- Pieces that trim alike name the cookie alike. -/
theorem findSome?_pairValue_of_map_trim {name : String} :
    ∀ {l₁ l₂ : List String}, l₁.map Text.trim = l₂.map Text.trim →
      l₁.findSome? (pairValue name) = l₂.findSome? (pairValue name)
  | [], [], _ => rfl
  | p :: l₁, q :: l₂, h => by
    simp only [List.map_cons, List.cons.injEq] at h
    rw [List.findSome?_cons, List.findSome?_cons, pairValue_eq_of_trim h.1,
      findSome?_pairValue_of_map_trim h.2]

-- ============================================================ the cookie sent back

/-- A cookie name a `Cookie` header can carry back: not empty, with no `=`
    or `;`, no blank at either end, and plain text. -/
structure PlainName (name : String) : Prop where
  nonempty : name ≠ ""
  noEquals : '=' ∉ name.toList
  noSemicolon : ';' ∉ name.toList
  trimmed : Text.trim name = name
  plain : visible name = true

/-- A cookie value a `Cookie` header can carry back: not empty, with no `;`,
    no blank at either end, and plain text. -/
structure PlainValue (value : String) : Prop where
  nonempty : value ≠ ""
  noSemicolon : ';' ∉ value.toList
  trimmed : Text.trim value = value
  plain : visible value = true

/-- Another pair of a `Cookie` header: plain text without `;` that does not
    name the cookie `name`. -/
structure OtherPair (name pair : String) : Prop where
  noSemicolon : ';' ∉ pair.toList
  plain : visible pair = true
  other : ∀ w, ¬PairNames pair name w

theorem trimChars_of_trim {s : String} (h : Text.trim s = s) : Text.trimChars s.toList = s.toList := by
  simpa [Text.trim] using congrArg String.toList h

/-- The piece `name=value` names the cookie with the value. -/
theorem pairNames_pair {name value : String} (hn : PlainName name) (hv : PlainValue value) :
    PairNames (name ++ "=" ++ value) name value := by
  refine ⟨hn.noEquals, ?_⟩
  have hpair := Text.trimChars_pair (trimChars_of_trim hn.trimmed) (by simpa using hn.nonempty)
    (trimChars_of_trim hv.trimmed) (by simpa using hv.nonempty)
  simpa [Text.trim] using hpair

/-- What holds of a pair and of the pairs around it holds of every pair of
    the header. -/
theorem forall_mem_between {α : Type} {P : α → Prop} {x : α} {pre post : List α} (hx : P x)
    (h : ∀ p ∈ pre ++ post, P p) : ∀ q ∈ pre ++ x :: post, P q := by
  intro q hq
  rcases List.mem_append.1 hq with hq | hq
  · exact h q (List.mem_append_left _ hq)
  rcases List.mem_cons.1 hq with rfl | hq
  · exact hx
  · exact h q (List.mem_append_right _ hq)

/-- The pair `name=value` sent back among other pairs gives the value. -/
theorem findCookie_joined {name value : String} {pre post : List String} (hn : PlainName name)
    (hv : PlainValue value) (hpairs : ∀ p ∈ pre ++ post, OtherPair name p) :
    findCookie ("; ".intercalate (pre ++ (name ++ "=" ++ value) :: post)) name = some value := by
  have hsemi : ∀ q ∈ pre ++ (name ++ "=" ++ value) :: post, ';' ∉ q.toList :=
    forall_mem_between (by simp [hn.noSemicolon, hv.noSemicolon]) fun q hq =>
      (hpairs q hq).noSemicolon
  -- the pieces of the header trim to the pairs it was joined from
  obtain ⟨p, ps, hL⟩ : ∃ p ps, pre ++ (name ++ "=" ++ value) :: post = p :: ps :=
    List.exists_cons_of_ne_nil (by simp)
  have htrim := map_trim_cookiePieces (hL ▸ hsemi)
  rw [← hL] at htrim
  rw [findCookie, findSome?_pairValue_of_map_trim htrim, findSome?_pairValue_eq_some_iff]
  exact ⟨pre, _, post, rfl, fun q hq => (hpairs q (List.mem_append_left _ hq)).other,
    pairNames_pair hn hv⟩

theorem visible_append (a b : String) : visible (a ++ b) = (visible a && visible b) := by
  simp only [visible, String.toList_append, List.all_append]

/-- Plain-text pairs joined by `; ` read as plain text. -/
theorem visible_intercalate : ∀ {ps : List String}, (∀ p ∈ ps, visible p = true) →
    visible ("; ".intercalate ps) = true
  | [], _ => by decide
  | [p], h => by simpa using h p List.mem_cons_self
  | p :: q :: ps, h => by
    have hp := h p List.mem_cons_self
    have hrest : visible ("; ".intercalate (q :: ps)) = true :=
      visible_intercalate fun r hr => h r (List.mem_cons_of_mem _ hr)
    have hsep : visible "; " = true := by decide
    rw [String.intercalate_cons_cons, visible_append, visible_append, hp, hsep, hrest]
    rfl

/-- A `Cookie` field put among others is read after the `Cookie` fields
    before it and before those after it. -/
theorem getAll_cookie_insert (hs₁ hs₂ : Headers) (header : String) :
    (hs₁ ++ ("Cookie", header) :: hs₂).getAll "cookie" =
      hs₁.getAll "cookie" ++ header :: hs₂.getAll "cookie" := by
  have hsame : sameName "Cookie" "cookie" = true := by decide
  simp [Headers.getAll, List.filter_append, hsame]

/-- A `Cookie` field changes no `Authorization` value. -/
theorem get?_authorization_insert (hs₁ hs₂ : Headers) (header : String) :
    (hs₁ ++ ("Cookie", header) :: hs₂).get? "authorization" = (hs₁ ++ hs₂).get? "authorization" := by
  have hother : sameName "Cookie" "authorization" = false := by decide
  simp [Headers.get?, Headers.getAll, List.filter_append, hother]

theorem bearerToken_congr {hs hs' : Headers}
    (h : hs.get? "authorization" = hs'.get? "authorization") : bearerToken hs = bearerToken hs' := by
  unfold bearerToken
  rw [h]

theorem cookiePieces_pair_head {name value rest : String} (hn : ';' ∉ name.toList)
    (hv : ';' ∉ value.toList) :
    (cookiePieces (name ++ ("=" ++ (value ++ (";" ++ rest))))).head? = some (name ++ ("=" ++ value)) := by
  have htext : (name ++ ("=" ++ (value ++ (";" ++ rest)))).toList =
      (name ++ "=" ++ value).toList ++ ';' :: rest.toList := by
    simp
  have hpair : ';' ∉ (name ++ "=" ++ value).toList := by simp [hn, hv]
  rw [cookiePieces, htext, List.splitOn_append_cons_self_of_not_mem hpair]
  simp [String.append_assoc]

/-- The session cookie's text begins with the piece `name=value`. -/
theorem authCookie_head {cfg : Config.Cookie} {value text : String} {maxAge : Int}
    (hn : ';' ∉ cfg.name.toList) (hv : ';' ∉ value.toList)
    (h : authCookie cfg value maxAge = .ok text) :
    (cookiePieces text).head? = some (cfg.name ++ "=" ++ value) := by
  have hbuilt : ∀ (t : String) (e : Error),
      (if validValue t = true then .ok t else .error e : Outcome String) = .ok text → t = text := by
    intro t e ht
    split at ht
    · cases ht
      rfl
    · cases ht
  obtain rfl := hbuilt _ _ h
  have hlit : ("; Path=/; HttpOnly; SameSite=" : String) = ";" ++ " Path=/; HttpOnly; SameSite=" :=
    rfl
  rw [hlit]
  simp only [String.append_assoc]
  exact cookiePieces_pair_head hn hv

/-- The cookie the service sets, sent back among other pairs in a plain-text
    `Cookie` header of a request with no bearer token, gives its value. -/
theorem cookie_round_trip {cfg : Config.Cookie} {value : String} (maxAge : Int)
    {pre post : List String} {hs₁ hs₂ : Headers} (hn : PlainName cfg.name) (hv : PlainValue value)
    (hpairs : ∀ p ∈ pre ++ post, OtherPair cfg.name p) (hbearer : ∀ t, ¬BearerGives (hs₁ ++ hs₂) t)
    (hearlier : ∀ h ∈ (hs₁.getAll "cookie").filter visible, ∀ p ∈ cookiePieces h,
      ∀ w, ¬PairNames p cfg.name w) :
    ∃ text, authCookie cfg value maxAge = .ok text ∧
      (cookiePieces text).head? = some (cfg.name ++ "=" ++ value) ∧
      credential (hs₁ ++ ("Cookie", "; ".intercalate (pre ++ (cfg.name ++ "=" ++ value) :: post)) :: hs₂)
        cfg.name = some value := by
  obtain ⟨text, htext⟩ := cookieText_ok cfg.sameSite (max maxAge 0)
    (validValue_of_visible hn.plain) (validValue_of_visible hv.plain)
  refine ⟨text, htext, authCookie_head hn.noSemicolon hv.noSemicolon htext, ?_⟩
  have hplain : visible ("; ".intercalate (pre ++ (cfg.name ++ "=" ++ value) :: post)) = true := by
    have hsep : visible "=" = true := by decide
    have hpair : visible (cfg.name ++ "=" ++ value) = true := by
      rw [visible_append, visible_append, hn.plain, hsep, hv.plain]
      rfl
    exact visible_intercalate (forall_mem_between hpair fun p hp => (hpairs p hp).plain)
  -- the inserted field is no bearer token, and no earlier `Cookie` value names the cookie
  have hnone : bearerToken
      (hs₁ ++ ("Cookie", "; ".intercalate (pre ++ (cfg.name ++ "=" ++ value) :: post)) :: hs₂) = none := by
    rw [bearerToken_congr (get?_authorization_insert hs₁ hs₂ _)]
    exact bearerToken_eq_none_iff.2 hbearer
  have hfirst : ((hs₁.getAll "cookie").filter visible).findSome? (findCookie · cfg.name) = none := by
    rw [List.findSome?_eq_none_iff]
    intro h hh
    rw [findCookie, List.findSome?_eq_none_iff]
    exact fun p hp => pairValue_eq_none_iff.2 (hearlier h hh p hp)
  simp [credential, hnone, cookieToken, getAll_cookie_insert, List.filter_append, hplain,
    List.findSome?_append, hfirst, findCookie_joined hn hv hpairs, hv.nonempty]

-- ============================================================ the credential

/-- How the credential of a request is read: its bearer token when it has a
    usable one, else the first piece naming the session cookie among its
    plain-text `Cookie` values, when that piece's value is not empty. And
    the session cookie the service sets, sent back among other pairs, is
    read back to its value. -/
theorem credential_follows_bearer_then_cookie :
    (∀ (hs : Headers) (name token : String), credential hs name = some token ↔
      BearerGives hs token ∨ ((∀ t, ¬BearerGives hs t) ∧ CookieGives hs name token ∧ token ≠ "")) ∧
    (∀ (cfg : Config.Cookie) (value : String) (maxAge : Int) (pre post : List String)
      (hs₁ hs₂ : Headers), PlainName cfg.name → PlainValue value →
      (∀ p ∈ pre ++ post, OtherPair cfg.name p) → (∀ t, ¬BearerGives (hs₁ ++ hs₂) t) →
      (∀ h ∈ (hs₁.getAll "cookie").filter visible, ∀ p ∈ cookiePieces h,
        ∀ w, ¬PairNames p cfg.name w) →
      ∃ text, authCookie cfg value maxAge = .ok text ∧
        (cookiePieces text).head? = some (cfg.name ++ "=" ++ value) ∧
        credential (hs₁ ++ ("Cookie", "; ".intercalate (pre ++ (cfg.name ++ "=" ++ value) :: post)) ::
          hs₂) cfg.name = some value) :=
  ⟨fun _ _ _ => credential_eq_some_iff,
    fun _ _ maxAge _ _ _ _ hn hv hpairs hbearer hearlier =>
      cookie_round_trip maxAge hn hv hpairs hbearer hearlier⟩

/-- A `Cookie` value naming the session cookie is skipped when it does not
    read as plain text: `auth=é` names `auth` with `é`, yet the request
    presents no credential. -/
theorem non_ascii_cookie_is_skipped :
    findCookie "auth=é" "auth" = some "é" ∧ credential [("Cookie", "auth=é")] "auth" = none := by
  decide

/-- The default session cookie, set to `tok` and sent back between two other
    pairs after a basic `Authorization` field, is read back as `tok`. -/
theorem session_cookie_read_back :
    PlainName "auth" ∧ PlainValue "tok" ∧
    (∀ p ∈ ["theme=dark"] ++ ["lang=en"], OtherPair "auth" p) ∧
    (∀ t, ¬BearerGives ([("Authorization", "Basic dXNlcg")] ++ []) t) ∧
    (∀ h ∈ (Headers.getAll [("Authorization", "Basic dXNlcg")] "cookie").filter visible,
      ∀ p ∈ cookiePieces h, ∀ w, ¬PairNames p "auth" w) ∧
    ∃ text, authCookie {} "tok" 300 = .ok text ∧
      (cookiePieces text).head? = some ("auth" ++ "=" ++ "tok") ∧
      credential ([("Authorization", "Basic dXNlcg")] ++
        ("Cookie", "; ".intercalate (["theme=dark"] ++ ("auth" ++ "=" ++ "tok") :: ["lang=en"])) :: [])
        "auth" = some "tok" := by
  have hn : PlainName "auth" := ⟨by decide, by decide, by decide, by decide, by decide⟩
  have hv : PlainValue "tok" := ⟨by decide, by decide, by decide, by decide⟩
  have hpairs : ∀ p ∈ ["theme=dark"] ++ ["lang=en"], OtherPair "auth" p := by
    intro p hp
    simp only [List.cons_append, List.nil_append, List.mem_cons, List.not_mem_nil, or_false] at hp
    rcases hp with rfl | rfl
    · exact ⟨by decide, by decide, pairValue_eq_none_iff.1 (by decide)⟩
    · exact ⟨by decide, by decide, pairValue_eq_none_iff.1 (by decide)⟩
  have hbearer : ∀ t, ¬BearerGives ([("Authorization", "Basic dXNlcg")] ++ []) t :=
    bearerToken_eq_none_iff.1 (by decide)
  have hearlier : ∀ h ∈ (Headers.getAll [("Authorization", "Basic dXNlcg")] "cookie").filter visible,
      ∀ p ∈ cookiePieces h, ∀ w, ¬PairNames p "auth" w := by
    have hnone : Headers.getAll [("Authorization", "Basic dXNlcg")] "cookie" = [] := by decide
    simp [hnone]
  exact ⟨hn, hv, hpairs, hbearer, hearlier,
    credential_follows_bearer_then_cookie.2 {} "tok" 300 _ _ _ _ hn hv hpairs hbearer hearlier⟩

end Http

end Warden
