/-!
# Byte strings as numbers

Block ciphers and hashes read byte strings as big-endian numbers and write
numbers back as byte strings of a fixed length. `ofNatBE n k` writes the low
`8 * k` bits of `k`-byte big-endian form; `toNatBE` reads it back
(`toNatBE_ofNatBE`).
-/

namespace Warden.Crypto.Bytes

/-- The number a byte string spells, most significant byte first. -/
def toNatBE (b : List UInt8) : Nat :=
  b.foldl (fun acc x => acc * 256 + x.toNat) 0

/-- The `k` bytes of `n` modulo `256 ^ k`, most significant byte first. -/
def ofNatBE (n : Nat) : Nat → List UInt8
  | 0 => []
  | k + 1 => ofNatBE (n / 256) k ++ [UInt8.ofNat (n % 256)]

/-- Bytewise exclusive or; the result is as long as the shorter input. -/
def xor (a b : List UInt8) : List UInt8 :=
  List.zipWith (· ^^^ ·) a b

theorem length_ofNatBE (n k : Nat) : (ofNatBE n k).length = k := by
  induction k generalizing n with
  | zero => rfl
  | succ k ih => simp [ofNatBE, ih]

private theorem foldl_step (b : List UInt8) (acc : Nat) :
    b.foldl (fun acc x => acc * 256 + x.toNat) acc = acc * Nat.pow 256 b.length + toNatBE b := by
  induction b generalizing acc with
  | nil => simp [toNatBE]
  | cons x b ih =>
    simp only [List.foldl_cons, toNatBE, List.length_cons]
    rw [ih, ih (0 * 256 + x.toNat)]
    simp only [Nat.pow_eq, Nat.pow_succ]
    grind

theorem toNatBE_append (a b : List UInt8) :
    toNatBE (a ++ b) = toNatBE a * Nat.pow 256 b.length + toNatBE b := by
  rw [toNatBE, List.foldl_append, foldl_step]
  rfl

/-- Writing and reading back keeps the number modulo `256 ^ k`. -/
theorem toNatBE_ofNatBE (n k : Nat) : toNatBE (ofNatBE n k) = n % Nat.pow 256 k := by
  induction k generalizing n with
  | zero => simp [ofNatBE, toNatBE, Nat.mod_one]
  | succ k ih =>
    have h1 : toNatBE [UInt8.ofNat (n % 256)] = n % 256 := by
      simp [toNatBE, UInt8.toNat_ofNat']
    rw [ofNatBE, toNatBE_append, ih, h1]
    simp only [List.length_singleton, Nat.pow_eq, Nat.pow_succ']
    rw [Nat.mod_mul]
    omega

end Warden.Crypto.Bytes
