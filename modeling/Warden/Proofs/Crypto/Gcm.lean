import Warden.Token.Reference
/-!
# Opening what was sealed

AES-256-GCM opens what it sealed under the same key and nonce
(`Gcm.decrypt?_encrypt`). The argument is counting more than algebra: the
keystream is XORed in twice and cancels (`xor_xor`), but only if it is as
long as the text, which holds because every AES block is sixteen bytes
(`length_encryptBlock`), which in turn holds because a 32-byte key expands
to sixty words of four bytes (`expandKey_words`). The tag is recomputed from
the same ciphertext, so it matches. Conversely, a message opens only when it
is a ciphertext followed by that ciphertext's own tag
(`Gcm.decrypt?_eq_some_iff`).

The key of the service's cipher is a SHA-256 digest, and so 32 bytes long
(`length_digest`).
-/

namespace Warden.Crypto

/-- An invariant of a fold over `0, 1, …, n - 1` that each step keeps. -/
theorem foldl_range_invariant {β : Type} (f : β → Nat → β) (P : Nat → β → Prop) {init : β}
    (h0 : P 0 init) (hs : ∀ k b, P k b → P (k + 1) (f b k)) (n : Nat) :
    P n ((List.range n).foldl f init) := by
  induction n with
  | zero => exact h0
  | succ n ih =>
    rw [List.range_succ, List.foldl_append, List.foldl_cons, List.foldl_nil]
    exact hs n _ ih

/-- Pieces of one length `m` make a whole of `m` times their number. -/
theorem length_flatMap_of_length {α β : Type} {l : List α} {f : α → List β} {m : Nat}
    (h : ∀ a ∈ l, (f a).length = m) : (l.flatMap f).length = m * l.length := by
  induction l with
  | nil => simp
  | cons a l ih =>
    rw [List.flatMap_cons, List.length_append, h a List.mem_cons_self,
      ih fun b hb => h b (List.mem_cons_of_mem a hb), List.length_cons, Nat.mul_succ]
    omega

-- ============================================================ exclusive or

namespace Bytes

theorem length_xor (a b : List UInt8) : (xor a b).length = min a.length b.length :=
  List.length_zipWith

/-- XORing the same key bytes in twice gives the text back. -/
theorem xor_xor {a k : List UInt8} (h : a.length ≤ k.length) : xor (xor a k) k = a := by
  induction a generalizing k with
  | nil => rfl
  | cons x a ih =>
    cases k with
    | nil => cases h
    | cons y k =>
      simp only [xor, List.zipWith_cons_cons, List.cons.injEq] at ih ⊢
      exact ⟨by rw [UInt8.xor_assoc, UInt8.xor_self, UInt8.xor_zero],
        ih (by simp only [List.length_cons] at h; omega)⟩

end Bytes

-- ============================================================ block lengths

namespace Aes

/-- Every word of the schedule is four bytes. -/
def FourByteWords (w : Array (List UInt8)) : Prop := ∀ i < w.size, (w.getD i []).length = 4

theorem FourByteWords.getD {w : Array (List UInt8)} (h : FourByteWords w) {i : Nat}
    (hi : i < w.size) : (w.getD i []).length = 4 :=
  h i hi

theorem FourByteWords.push {w : Array (List UInt8)} (h : FourByteWords w) {x : List UInt8}
    (hx : x.length = 4) : FourByteWords (w.push x) := by
  intro i hi
  rw [Array.size_push] at hi
  rw [Array.getD_eq_getD_getElem?, Array.getElem?_push]
  by_cases he : i = w.size
  · rw [if_pos he]
    exact hx
  · rw [if_neg he, ← Array.getD_eq_getD_getElem?]
    exact h i (by omega)

/-- A 32-byte key expands to sixty words of four bytes. -/
theorem expandKey_words {key : List UInt8} (hk : key.length = 32) :
    (expandKey key).size = 60 ∧ FourByteWords (expandKey key) := by
  unfold expandKey
  refine foldl_range_invariant _ (fun k w => w.size = 8 + k ∧ FourByteWords w) ⟨?_, ?_⟩
    (fun k w ⟨hsize, hw⟩ => ⟨?_, ?_⟩) 52
  · simp
  · -- the key itself, cut into eight words
    intro j hj
    simp only [List.size_toArray, Array.size_map, List.length_range] at hj
    simp [Array.getD_eq_getD_getElem?, hj, hk]
    omega
  · simp only [Array.size_push, hsize]
    omega
  · -- the next word, from the one before it (rotated and substituted,
    -- substituted, or as it is) and the one eight back
    refine hw.push ?_
    have hback : (w.getD (k + 8 - 8) []).length = 4 := hw.getD (by omega)
    have hprev : (w.getD (k + 8 - 1) []).length = 4 := hw.getD (by omega)
    generalize w.getD (k + 8 - 1) [] = prev at hprev ⊢
    rw [List.length_zipWith, hback]
    split
    · split
      · rename_i b0 rest heq
        have hl := congrArg List.length heq
        simp only [List.length_map, List.length_append, List.length_drop, List.length_take,
          hprev, List.length_cons] at hl
        simp only [List.length_cons]
        omega
      · rename_i heq
        have hl := congrArg List.length heq
        simp [hprev] at hl
    · split
      · simp [hprev]
      · simp [hprev]

theorem length_roundKey {w : Array (List UInt8)} (hs : w.size = 60) (hw : FourByteWords w)
    {r : Nat} (hr : r < 15) : (roundKey w r).length = 16 := by
  have h4 : ∀ j ∈ List.range 4, (w.getD (4 * r + j) []).length = 4 := fun j hj =>
    hw.getD (by rw [List.mem_range] at hj; omega)
  rw [roundKey, length_flatMap_of_length h4]
  rfl

/-- A block enciphered under an expanded 32-byte key is sixteen bytes. -/
theorem length_encryptBlock {key : List UInt8} (hk : key.length = 32) (b : List UInt8) :
    (encryptBlock (expandKey key) b).length = 16 := by
  obtain ⟨hs, hw⟩ := expandKey_words hk
  simp [encryptBlock, addRoundKey, shiftRows, length_roundKey hs hw (show 14 < 15 by omega)]

end Aes

-- ============================================================ GCM

namespace Gcm

theorem length_keystream {key : List UInt8} (hk : key.length = 32) (nonce : List UInt8)
    (n : Nat) : n ≤ (keystream (Aes.expandKey key) nonce n).length := by
  rw [keystream, length_flatMap_of_length fun i _ => Aes.length_encryptBlock hk _,
    List.length_range]
  omega

theorem length_ctr {key : List UInt8} (hk : key.length = 32) (nonce text : List UInt8) :
    (ctr (Aes.expandKey key) nonce text).length = text.length := by
  rw [ctr, Bytes.length_xor]
  have := length_keystream hk nonce text.length
  omega

theorem length_tag (w : Array (List UInt8)) (nonce c : List UInt8) : (tag w nonce c).length = 16 :=
  Bytes.length_ofNatBE _ _

theorem length_encrypt {key : List UInt8} (hk : key.length = 32) (nonce text : List UInt8) :
    (encrypt key nonce text).length = text.length + 16 := by
  simp only [encrypt, List.length_append, length_ctr hk, length_tag]

/-- Opening under the key and nonce that sealed gives the text back. -/
theorem decrypt?_encrypt {key : List UInt8} (hk : key.length = 32) (nonce text : List UInt8) :
    decrypt? key nonce (encrypt key nonce text) = some text := by
  have hc := length_ctr hk nonce text
  have hl := length_encrypt hk nonce text
  -- the last sixteen bytes are the tag, the ones before them the ciphertext
  have hsplit : (encrypt key nonce text).length - 16 = (ctr (Aes.expandKey key) nonce text).length := by
    omega
  rw [decrypt?, if_neg (by omega), hsplit]
  simp only [encrypt, List.take_left, List.drop_left, if_true]
  rw [ctr, hc, ctr, Bytes.xor_xor (length_keystream hk nonce text.length)]

/-- A sealed message opens exactly when it is a ciphertext followed by that
    ciphertext's tag; the text is then the ciphertext run back through
    counter mode. -/
theorem decrypt?_eq_some_iff {key nonce sealed plain : List UInt8} :
    decrypt? key nonce sealed = some plain ↔
      ∃ body, sealed = body ++ tag (Aes.expandKey key) nonce body ∧
        plain = ctr (Aes.expandKey key) nonce body := by
  constructor
  · intro h
    unfold decrypt? at h
    split at h
    · cases h
    · dsimp only at h
      split at h
      · -- the last sixteen bytes are the tag of the ones before them
        rename_i ht
        cases h
        exact ⟨_, by rw [ht, List.take_append_drop], rfl⟩
      · cases h
  · rintro ⟨body, rfl, rfl⟩
    have ht := length_tag (Aes.expandKey key) nonce body
    have hsplit : (body ++ tag (Aes.expandKey key) nonce body).length - 16 = body.length := by
      rw [List.length_append, ht]
      omega
    rw [decrypt?, if_neg (by rw [List.length_append, ht]; omega)]
    simp only [hsplit, List.take_left, List.drop_left, if_true]

end Gcm

-- ============================================================ SHA-256

namespace Sha256

theorem length_compress {hs : List UInt32} (h : hs.length = 8) (block : List UInt8) :
    (compress hs block).length = 8 := by
  simp [compress, Working.toList, h]

theorem length_foldl_compress (bs : List (List UInt8)) {hs : List UInt32} (h : hs.length = 8) :
    (bs.foldl compress hs).length = 8 := by
  induction bs generalizing hs with
  | nil => exact h
  | cons b bs ih => exact ih (length_compress h b)

/-- A digest is 32 bytes. -/
theorem length_digest (msg : List UInt8) : (digest msg).length = 32 := by
  rw [digest, length_flatMap_of_length fun x _ => Bytes.length_ofNatBE _ 4,
    length_foldl_compress _ rfl]

end Sha256

end Warden.Crypto
