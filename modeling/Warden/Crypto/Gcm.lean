import Warden.Crypto.Bytes
import Warden.Crypto.Aes
/-!
# AES-256-GCM with a 96-bit nonce

Galois/counter mode over AES-256, with no associated data and a
16-byte tag. The hash key `H` enciphers the zero block; the pre-counter
block `J₀` is the nonce followed by the 32-bit counter `1`. The text is
XORed with the keystream of the counter blocks after `J₀`, and the tag is
`E(J₀)` XOR the GHASH of the ciphertext and its length block.

`decrypt?` checks the tag before it returns any text, so a changed nonce,
ciphertext or tag is refused as a whole.
-/

namespace Warden.Crypto.Gcm

open Warden.Crypto

-- ============================================================ GHASH

/-- The reduction constant of the field of 2¹²⁸ elements, in GCM's bit order. -/
def reduction : Nat := 0xe1 * Nat.pow 2 120

/-- Multiplication in the field of 2¹²⁸ elements, with the bits of a block
    read from the most significant end: shift and add, one bit of `x` per
    step, reducing whenever the shift of `y` drops a set bit. -/
def gfMul (x y : Nat) : Nat :=
  (List.range 128).foldl
    (fun (acc : Nat × Nat) i =>
      let z := if x.testBit (127 - i) then acc.1 ^^^ acc.2 else acc.1
      let v := if acc.2 % 2 = 1 then (acc.2 / 2) ^^^ reduction else acc.2 / 2
      (z, v))
    (0, y) |>.1

/-- The text in 16-byte blocks, the last one padded with zeros. -/
def blocksOf : List UInt8 → List (List UInt8)
  | [] => []
  | x :: rest =>
    let b := (x :: rest).take 16
    (b ++ List.replicate (16 - b.length) 0) :: blocksOf ((x :: rest).drop 16)
termination_by m => m.length
decreasing_by simp only [List.length_drop, List.length_cons]; omega

/-- GHASH of a ciphertext with empty associated data, under hash key `h`. -/
def ghash (h : Nat) (c : List UInt8) : Nat :=
  let lengths := 8 * c.length
  let y := (blocksOf c).foldl (fun y b => gfMul (y ^^^ Bytes.toNatBE b) h) 0
  gfMul (y ^^^ lengths) h

-- ============================================================ counter mode

/-- Counter block `i` after the pre-counter block of a nonce. -/
def counterBlock (nonce : List UInt8) (i : Nat) : List UInt8 :=
  nonce ++ Bytes.ofNatBE (1 + i) 4

/-- The keystream for `n` bytes, from the counter block after `J₀`. -/
def keystream (w : Array (List UInt8)) (nonce : List UInt8) (n : Nat) : List UInt8 :=
  (List.range ((n + 15) / 16)).flatMap fun i => Aes.encryptBlock w (counterBlock nonce (i + 1))

/-- The text XORed with the keystream of a nonce. -/
def ctr (w : Array (List UInt8)) (nonce text : List UInt8) : List UInt8 :=
  Bytes.xor text (keystream w nonce text.length)

/-- The tag of a ciphertext under a nonce. -/
def tag (w : Array (List UInt8)) (nonce c : List UInt8) : List UInt8 :=
  let h := Bytes.toNatBE (Aes.encryptBlock w (List.replicate 16 0))
  let s := ghash h c
  Bytes.ofNatBE (Bytes.toNatBE (Aes.encryptBlock w (counterBlock nonce 0)) ^^^ s) 16

-- ============================================================ sealing and opening

/-- The ciphertext followed by the tag. -/
def encrypt (key nonce text : List UInt8) : List UInt8 :=
  let w := Aes.expandKey key
  let c := ctr w nonce text
  c ++ tag w nonce c

/-- The text of a sealed message (ciphertext then tag), or `none` when the
    tag does not authenticate it. -/
def decrypt? (key nonce sealed : List UInt8) : Option (List UInt8) :=
  if sealed.length < 16 then none
  else
    let w := Aes.expandKey key
    let c := sealed.take (sealed.length - 16)
    if tag w nonce c = sealed.drop (sealed.length - 16) then some (ctr w nonce c) else none

end Warden.Crypto.Gcm
