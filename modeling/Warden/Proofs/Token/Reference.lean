import Warden.Proofs.Crypto.Gcm
import Warden.Proofs.Text.Split
/-!
# References open to what sealed them

A reference seals `tokenId:subject` with AES-256-GCM and writes the bytes in
base64url. Opening a reference that was sealed under the same key gives the
payload back, whatever blanks surround it (`Cipher.decrypt_encrypt`): trimming
removes exactly the blanks, since no base64url character is blank; base64url
reads back what it wrote; GCM opens what it sealed; and the payload's UTF-8
bytes read back as the payload. Conversely, a presented text opens only when
it is the base64url of a nonce, a ciphertext and that ciphertext's own tag,
with UTF-8 behind the tag (`Cipher.openBytes_eq_ok_iff`); bytes too few for a
nonce and a tag are refused as too short, and every refusal is unauthorized.

A payload reads as an id and a subject exactly when it is the two around one
colon, both nonempty and free of colons (`parsePayload?_eq_some_iff`). So an
id or a subject with a colon never makes a reference that reads back, and a
payload that reads back names its id in one way only (`payload_left_eq`).
-/

namespace Warden

-- ============================================================ bytes

theorem ByteArray.toList_loop (bs : ByteArray) (i : Nat) (r : List UInt8) :
    ByteArray.toList.loop bs i r = r.reverse ++ bs.data.toList.drop i := by
  fun_induction ByteArray.toList.loop bs i r with
  | case1 i r hi ih =>
    have hl : i < bs.data.toList.length := by simpa using hi
    rw [ih, List.reverse_cons, List.append_assoc, List.singleton_append,
      List.drop_eq_getElem_cons hl]
    congr 2
    simp [ByteArray.get!, getElem!_pos, hi]
  | case2 i r hi =>
    rw [List.drop_eq_nil_of_le (by simpa using hi), List.append_nil]

theorem ByteArray.toList_eq (bs : ByteArray) : bs.toList = bs.data.toList := by
  rw [ByteArray.toList, ByteArray.toList_loop]
  rfl

/-- The UTF-8 bytes of a text read back as the text. -/
theorem fromUTF8?_toUTF8 (s : String) : String.fromUTF8? ⟨s.toUTF8.toList.toArray⟩ = some s := by
  have hv : ByteArray.IsValidUTF8 ⟨s.toUTF8.data⟩ := s.isValidUTF8
  rw [ByteArray.toList_eq, Array.toArray_toList, String.fromUTF8?, dif_pos hv]
  rfl

end Warden

namespace Warden.Text

-- ============================================================ blanks

theorem dropBlanks_of_not_blank {e : List Char} (he : ∀ c ∈ e, isBlank c = false) :
    dropBlanks e = e := by
  cases e with
  | nil => rfl
  | cons c e => exact dropBlanks_of_head c e (he c List.mem_cons_self)

/-- Trimming takes off the blanks around a text with no blank in it, and
    nothing else. -/
theorem trimChars_around {w₁ e w₂ : List Char} (h₁ : ∀ c ∈ w₁, isBlank c = true)
    (h₂ : ∀ c ∈ w₂, isBlank c = true) (he : ∀ c ∈ e, isBlank c = false) :
    trimChars (w₁ ++ e ++ w₂) = e := by
  have hr₂ : ∀ c ∈ w₂.reverse, isBlank c = true := fun c hc => h₂ c (List.mem_reverse.1 hc)
  rw [trimChars, List.append_assoc, dropBlanks_append_of_all _ _ h₁]
  cases e with
  | nil =>
    rw [List.nil_append, ← List.append_nil w₂, dropBlanks_append_of_all _ _ h₂]
    rfl
  | cons c e =>
    -- the text starts and ends with characters that are not blank
    rw [List.cons_append, dropBlanks_of_head c _ (he c List.mem_cons_self), ← List.cons_append,
      List.reverse_append, dropBlanks_append_of_all _ _ hr₂,
      dropBlanks_of_not_blank fun d hd => he d (List.mem_reverse.1 hd), List.reverse_reverse]

namespace Base64Url

theorem isBlank_sextetChar (n : Nat) : isBlank (sextetChar n) = false := by
  by_cases h : n < 64
  · have hall : ∀ n, n < 64 → isBlank (sextetChar n) = false := by decide
    exact hall n h
  · rw [sextetChar, if_neg (by omega), if_neg (by omega), if_neg (by omega), if_neg (by omega)]
    decide

/-- Every character that base64url writes is that of a six-bit value. -/
theorem exists_sextetChar_of_mem_encodeChars {b : List UInt8} {c : Char}
    (h : c ∈ encodeChars b) : ∃ n, c = sextetChar n := by
  fun_induction encodeChars b with
  | case1 a b c' rest v ih =>
    simp only [List.mem_cons] at h
    rcases h with rfl | rfl | rfl | rfl | h
    any_goals exact ⟨_, rfl⟩
    exact ih h
  | case2 a b v =>
    simp only [List.mem_cons, List.not_mem_nil, or_false] at h
    rcases h with rfl | rfl | rfl <;> exact ⟨_, rfl⟩
  | case3 a =>
    simp only [List.mem_cons, List.not_mem_nil, or_false] at h
    rcases h with rfl | rfl <;> exact ⟨_, rfl⟩
  | case4 => cases h

/-- Base64url writes no blank. -/
theorem not_blank_encodeChars (b : List UInt8) : ∀ c ∈ encodeChars b, isBlank c = false := by
  intro c hc
  obtain ⟨n, rfl⟩ := exists_sextetChar_of_mem_encodeChars hc
  exact isBlank_sextetChar n

end Base64Url

end Warden.Text

namespace Warden.Token

open Warden.Crypto Warden.Text

-- ============================================================ the cipher

/-- Every refusal to open a reference is an unauthorized error. -/
theorem Refusal.kind_toError (r : Refusal) : r.toError.kind = .unauthorized := by
  cases r <;> rfl

namespace Cipher

/-- The service's key is a SHA-256 digest: 32 bytes. -/
theorem length_key_ofSecret (secret : String) : (ofSecret secret).key.length = 32 :=
  Sha256.length_digest _

/-- Sealed bytes open to the text under the same key. -/
theorem openBytes_sealBytes {c : Cipher} (hk : c.key.length = 32) {nonce : List UInt8}
    (hn : nonce.length = 12) (p : String) : c.openBytes (c.sealBytes nonce p) = .ok p := by
  have hl : (c.sealBytes nonce p).length = 12 + (p.toUTF8.toList.length + 16) := by
    rw [sealBytes, List.length_append, hn, Gcm.length_encrypt hk]
  rw [openBytes, if_neg (by simp only [hl, nonceLength, tagLength]; omega), sealBytes,
    nonceLength, List.take_left' hn, List.drop_left' hn, Gcm.decrypt?_encrypt hk]
  simp only [fromUTF8?_toUTF8]

/-- A sealed text, with blanks around it, opens to the text. -/
theorem decrypt_encrypt {c : Cipher} (hk : c.key.length = 32) {nonce : List UInt8}
    (hn : nonce.length = 12) (p : String) {w₁ w₂ : String}
    (h₁ : ∀ ch ∈ w₁.toList, isBlank ch = true) (h₂ : ∀ ch ∈ w₂.toList, isBlank ch = true) :
    c.decrypt (w₁ ++ c.encrypt nonce p ++ w₂) = .ok p := by
  have htrim : trim (w₁ ++ c.encrypt nonce p ++ w₂) = c.encrypt nonce p := by
    rw [trim, String.toList_append, String.toList_append, encrypt, Base64Url.encode,
      String.toList_ofList, trimChars_around h₁ h₂ (Base64Url.not_blank_encodeChars _)]
  rw [decrypt, htrim, encrypt, Base64Url.decode?_encode]
  exact openBytes_sealBytes hk hn p

/-- Bytes open exactly when they are a twelve-byte nonce, a ciphertext and
    that ciphertext's tag under the nonce, and the ciphertext deciphers to
    UTF-8. The length guard is implied: such bytes are never too short. -/
theorem openBytes_eq_ok_iff {c : Cipher} {sealed : List UInt8} {p : String} :
    c.openBytes sealed = .ok p ↔
      ∃ nonce body, sealed = nonce ++ body ++ Gcm.tag (Aes.expandKey c.key) nonce body ∧
        nonce.length = nonceLength ∧
        String.fromUTF8? ⟨(Gcm.ctr (Aes.expandKey c.key) nonce body).toArray⟩ = some p := by
  constructor
  · intro h
    unfold openBytes at h
    split at h
    · cases h
    · rename_i hlen
      split at h
      · cases h
      · -- the bytes after the nonce opened under it; the nonce is the first twelve
        rename_i plain hplain
        obtain ⟨body, hbody, rfl⟩ := Gcm.decrypt?_eq_some_iff.1 hplain
        split at h
        · rename_i s hs
          cases h
          refine ⟨sealed.take nonceLength, body, ?_, ?_, hs⟩
          · rw [List.append_assoc, ← hbody, List.take_append_drop]
          · simp only [List.length_take, nonceLength, tagLength] at hlen ⊢
            omega
        · cases h
  · rintro ⟨nonce, body, rfl, hn, hp⟩
    have ht := Gcm.length_tag (Aes.expandKey c.key) nonce body
    have hlen : ¬(nonce ++ body ++ Gcm.tag (Aes.expandKey c.key) nonce body).length <
        nonceLength + tagLength := by
      simp only [List.length_append, hn, ht, nonceLength, tagLength]
      omega
    rw [openBytes, if_neg hlen, List.append_assoc, List.take_left' hn, List.drop_left' hn,
      Gcm.decrypt?_eq_some_iff.2 ⟨body, rfl, rfl⟩]
    simp only [hp]

/-- A presented text is refused as too short exactly when it is base64url of
    fewer bytes than a nonce and a tag take. -/
theorem decrypt_eq_tooShort_iff {c : Cipher} {v : String} :
    c.decrypt v = .error .tooShort ↔
      ∃ sealed, Base64Url.decode? (trim v) = some sealed ∧
        sealed.length < nonceLength + tagLength := by
  unfold decrypt
  cases hd : Base64Url.decode? (trim v) with
  | none => simp
  | some sealed =>
    simp only [Option.some.injEq, exists_eq_left', openBytes]
    by_cases hs : sealed.length < nonceLength + tagLength
    · simp [hs]
    · -- past the guard every refusal is another one
      simp only [hs, if_false, iff_false]
      split
      · simp
      · split <;> simp

/-- The service's cipher, under any secret. A sealed text opens to itself with
    any blanks around it. A presented text opens exactly when, trimmed, it is
    the base64url of a twelve-byte nonce, a ciphertext and that ciphertext's
    tag, and the ciphertext deciphers to UTF-8. Bytes too short to hold a
    nonce and a tag are refused as such, and every refusal is unauthorized. -/
theorem decrypt_accepts_exactly_sealed (secret : String) :
    (∀ (nonce : List UInt8) (p w₁ w₂ : String), nonce.length = nonceLength →
        (∀ ch ∈ w₁.toList, isBlank ch = true) → (∀ ch ∈ w₂.toList, isBlank ch = true) →
        (ofSecret secret).decrypt (w₁ ++ (ofSecret secret).encrypt nonce p ++ w₂) = .ok p) ∧
      (∀ v p, (ofSecret secret).decrypt v = .ok p ↔
        ∃ nonce body, Base64Url.decode? (trim v) =
            some (nonce ++ body ++ Gcm.tag (Aes.expandKey (ofSecret secret).key) nonce body) ∧
          nonce.length = nonceLength ∧
          String.fromUTF8? ⟨(Gcm.ctr (Aes.expandKey (ofSecret secret).key) nonce body).toArray⟩ =
            some p) ∧
      (∀ v, (ofSecret secret).decrypt v = .error .tooShort ↔
        ∃ sealed, Base64Url.decode? (trim v) = some sealed ∧
          sealed.length < nonceLength + tagLength) ∧
      (∀ v r, (ofSecret secret).decrypt v = .error r → r.toError.kind = .unauthorized) := by
  refine ⟨fun nonce p w₁ w₂ hn h₁ h₂ => decrypt_encrypt (length_key_ofSecret secret) hn p h₁ h₂,
    fun v p => ?_, fun v => decrypt_eq_tooShort_iff, fun v r _ => Refusal.kind_toError r⟩
  -- decoding comes first, then the bytes open
  cases hd : Base64Url.decode? (trim v) with
  | none => simp [decrypt, hd]
  | some sealed => simp only [decrypt, hd, Option.some.injEq, openBytes_eq_ok_iff]

/-- A sealed token id and subject, with a blank on either side, opens under
    the secret that sealed it; a base64url text of five bytes is refused as
    too short. -/
theorem padded_token_opens_and_short_text_refused :
    (ofSecret "secret").decrypt
        (" " ++ (ofSecret "secret").encrypt (Bytes.ofNatBE 0 12) "token-1:42" ++ "\n") =
      .ok "token-1:42" ∧
      (ofSecret "secret").decrypt "c2hvcnQ" = .error .tooShort := by
  have hspace : ∀ ch ∈ " ".toList, isBlank ch = true := by
    intro ch hch
    obtain rfl : ch = ' ' := by simpa using hch
    decide
  have hnewline : ∀ ch ∈ "\n".toList, isBlank ch = true := by
    intro ch hch
    obtain rfl : ch = '\n' := by simpa using hch
    decide
  have hshort : Base64Url.decode? (trim "c2hvcnQ") = some [115, 104, 111, 114, 116] := by
    decide
  exact ⟨(decrypt_accepts_exactly_sealed "secret").1 _ _ _ _ (Bytes.length_ofNatBE 0 12)
      hspace hnewline,
    ((decrypt_accepts_exactly_sealed "secret").2.2.1 "c2hvcnQ").2 ⟨_, hshort, by decide⟩⟩

end Cipher

-- ============================================================ the payload

theorem toList_payload (a b : String) : (payload a b).toList = a.toList ++ ':' :: b.toList := by
  simp [payload]

/-- A payload reads as an id and a subject exactly when it is the two around
    one colon, both nonempty and free of colons. -/
theorem parsePayload?_eq_some_iff {p a b : String} :
    parsePayload? p = some (a, b) ↔
      p = payload a b ∧ a ≠ "" ∧ b ≠ "" ∧ ':' ∉ a.toList ∧ ':' ∉ b.toList := by
  constructor
  · intro h
    unfold parsePayload? at h
    split at h
    · rename_i x y hxy
      have hparts : ∀ l ∈ [x, y], ':' ∉ l := fun l hl => not_mem_of_mem_splitOn l (hxy ▸ hl)
      by_cases he : x.isEmpty || y.isEmpty
      · rw [if_pos he] at h
        cases h
      · rw [if_neg he, Option.some.injEq, Prod.mk.injEq] at h
        obtain ⟨rfl, rfl⟩ := h
        simp only [Bool.or_eq_true, List.isEmpty_iff, not_or] at he
        -- the text is the two parts joined by the colon
        have hp : p.toList = x ++ ':' :: y := by
          have hj := @List.intercalate_splitOn Char p.toList _ _ ':'
          rw [hxy] at hj
          simpa using hj.symm
        refine ⟨String.toList_inj.1 (by rw [hp, toList_payload, String.toList_ofList,
          String.toList_ofList]), ?_, ?_, ?_, ?_⟩
        · intro h0
          exact he.1 (by simpa using congrArg String.toList h0)
        · intro h0
          exact he.2 (by simpa using congrArg String.toList h0)
        · rw [String.toList_ofList]
          exact hparts x (by simp)
        · rw [String.toList_ofList]
          exact hparts y (by simp)
    · cases h
  · rintro ⟨rfl, ha, hb, hca, hcb⟩
    have hsplit : (payload a b).toList.splitOn ':' = [a.toList, b.toList] := by
      rw [toList_payload, List.splitOn_append_cons_self_of_not_mem hca,
        List.splitOn_eq_singleton hcb]
    have hne : (a.toList.isEmpty || b.toList.isEmpty) = false := by
      simp [String.toList_eq_nil_iff, ha, hb]
    unfold parsePayload?
    rw [hsplit]
    simp only [hne, Bool.false_eq_true, if_false, String.ofList_toList]

/-- Two payloads that are one text, the second with a colon-free id and
    subject, name the same id. -/
theorem payload_left_eq {x y a b : String} (h : payload x y = payload a b) (ha : ':' ∉ a.toList)
    (hb : ':' ∉ b.toList) : x = a := by
  have hl := congrArg (fun s => s.toList.splitOn ':') h
  simp only [toList_payload, List.splitOn_append_cons_self, List.splitOn_eq_singleton ha,
    List.splitOn_eq_singleton hb] at hl
  -- both pieces of the left side are nonempty, so each is one part
  obtain ⟨u, us, hu⟩ := List.exists_cons_of_ne_nil (List.splitOn_ne_nil ':' x.toList)
  obtain ⟨v, vs, hv⟩ := List.exists_cons_of_ne_nil (List.splitOn_ne_nil ':' y.toList)
  rw [hu, hv] at hl
  cases us with
  | nil =>
    have hxa : x.toList = a.toList := by
      have hj := @List.intercalate_splitOn Char x.toList _ _ ':'
      rw [hu] at hj
      simpa [← hj] using (List.cons.inj hl).1
    exact String.toList_inj.1 hxa
  | cons w ws =>
    have hlen := congrArg List.length hl
    simp at hlen

end Warden.Token
