import Warden.Crypto.Bytes
/-!
# SHA-256

The SHA-256 hash on byte strings. The message is padded with one
`0x80` byte, zero bytes and its bit length as a 64-bit big-endian number, to
a multiple of 64 bytes; each 64-byte block is expanded into 64 schedule
words and folded into the eight chaining words by 64 rounds.

The reference-token key is the hash of the configured secret, so every
token the gate opens depends on this function.
-/

namespace Warden.Crypto.Sha256

open Warden.Crypto

-- ============================================================ constants

/-- The first 32 bits of the fractional parts of the cube roots of the
    first 64 primes. -/
def roundConstants : Array UInt32 := #[
  0x428a2f98, 0x71374491, 0xb5c0fbcf, 0xe9b5dba5, 0x3956c25b, 0x59f111f1, 0x923f82a4, 0xab1c5ed5,
  0xd807aa98, 0x12835b01, 0x243185be, 0x550c7dc3, 0x72be5d74, 0x80deb1fe, 0x9bdc06a7, 0xc19bf174,
  0xe49b69c1, 0xefbe4786, 0x0fc19dc6, 0x240ca1cc, 0x2de92c6f, 0x4a7484aa, 0x5cb0a9dc, 0x76f988da,
  0x983e5152, 0xa831c66d, 0xb00327c8, 0xbf597fc7, 0xc6e00bf3, 0xd5a79147, 0x06ca6351, 0x14292967,
  0x27b70a85, 0x2e1b2138, 0x4d2c6dfc, 0x53380d13, 0x650a7354, 0x766a0abb, 0x81c2c92e, 0x92722c85,
  0xa2bfe8a1, 0xa81a664b, 0xc24b8b70, 0xc76c51a3, 0xd192e819, 0xd6990624, 0xf40e3585, 0x106aa070,
  0x19a4c116, 0x1e376c08, 0x2748774c, 0x34b0bcb5, 0x391c0cb3, 0x4ed8aa4a, 0x5b9cca4f, 0x682e6ff3,
  0x748f82ee, 0x78a5636f, 0x84c87814, 0x8cc70208, 0x90befffa, 0xa4506ceb, 0xbef9a3f7, 0xc67178f2]

/-- The first 32 bits of the fractional parts of the square roots of the
    first eight primes. -/
def initialHash : List UInt32 :=
  [0x6a09e667, 0xbb67ae85, 0x3c6ef372, 0xa54ff53a, 0x510e527f, 0x9b05688c, 0x1f83d9ab, 0x5be0cd19]

-- ============================================================ word functions

/-- Rotation to the right by `n` bits, for `0 < n < 32`. -/
def rotr (x : UInt32) (n : UInt32) : UInt32 := (x >>> n) ||| (x <<< (32 - n))

def bigSigma0 (x : UInt32) : UInt32 := rotr x 2 ^^^ rotr x 13 ^^^ rotr x 22
def bigSigma1 (x : UInt32) : UInt32 := rotr x 6 ^^^ rotr x 11 ^^^ rotr x 25
def smallSigma0 (x : UInt32) : UInt32 := rotr x 7 ^^^ rotr x 18 ^^^ (x >>> 3)
def smallSigma1 (x : UInt32) : UInt32 := rotr x 17 ^^^ rotr x 19 ^^^ (x >>> 10)

/-- Bitwise choice: `y` where `x` is set, `z` elsewhere. -/
def choose (x y z : UInt32) : UInt32 := (x &&& y) ^^^ (~~~x &&& z)

/-- Bitwise majority of three words. -/
def majority (x y z : UInt32) : UInt32 := (x &&& y) ^^^ (x &&& z) ^^^ (y &&& z)

-- ============================================================ padding and blocks

/-- The message followed by `0x80`, zeros and its bit length, 64-byte aligned. -/
def pad (msg : List UInt8) : List UInt8 :=
  let zeros := (119 - msg.length % 64) % 64
  msg ++ [0x80] ++ List.replicate zeros 0 ++ Bytes.ofNatBE (8 * msg.length) 8

theorem length_pad (msg : List UInt8) : (pad msg).length % 64 = 0 := by
  simp only [pad, List.length_append, List.length_singleton, List.length_replicate,
    Bytes.length_ofNatBE]
  omega

/-- The 64-byte blocks of a padded message. -/
def blocks : List UInt8 → List (List UInt8)
  | [] => []
  | x :: rest => (x :: rest).take 64 :: blocks ((x :: rest).drop 64)
termination_by m => m.length
decreasing_by simp only [List.length_drop, List.length_cons]; omega

/-- The big-endian words of a byte string; a short tail is dropped. -/
def words : List UInt8 → List UInt32
  | a :: b :: c :: d :: rest =>
    (a.toUInt32 <<< 24 ||| b.toUInt32 <<< 16 ||| c.toUInt32 <<< 8 ||| d.toUInt32) :: words rest
  | _ => []

-- ============================================================ compression

/-- The 64 schedule words of a block, from its 16 message words. -/
def schedule (m : List UInt32) : Array UInt32 :=
  (List.range 48).foldl (fun (w : Array UInt32) i =>
    let t := i + 16
    w.push (smallSigma1 (w.getD (t - 2) 0) + w.getD (t - 7) 0 +
      smallSigma0 (w.getD (t - 15) 0) + w.getD (t - 16) 0)) m.toArray

/-- The eight working words. -/
structure Working where
  a : UInt32
  b : UInt32
  c : UInt32
  d : UInt32
  e : UInt32
  f : UInt32
  g : UInt32
  h : UInt32

/-- One round with schedule word `w` and round constant `k`. -/
def Working.round (s : Working) (k w : UInt32) : Working :=
  let t1 := s.h + bigSigma1 s.e + choose s.e s.f s.g + k + w
  let t2 := bigSigma0 s.a + majority s.a s.b s.c
  { a := t1 + t2, b := s.a, c := s.b, d := s.c, e := s.d + t1, f := s.e, g := s.f, h := s.g }

/-- The working words of a chaining value. -/
def Working.ofList (hs : List UInt32) : Working :=
  { a := hs.getD 0 0, b := hs.getD 1 0, c := hs.getD 2 0, d := hs.getD 3 0,
    e := hs.getD 4 0, f := hs.getD 5 0, g := hs.getD 6 0, h := hs.getD 7 0 }

def Working.toList (s : Working) : List UInt32 := [s.a, s.b, s.c, s.d, s.e, s.f, s.g, s.h]

/-- The chaining value after one block. -/
def compress (hs : List UInt32) (block : List UInt8) : List UInt32 :=
  let w := schedule (words block)
  let s := (List.range 64).foldl
    (fun s i => s.round (roundConstants.getD i 0) (w.getD i 0)) (Working.ofList hs)
  List.zipWith (· + ·) hs s.toList

/-- The 32-byte digest of a message. -/
def digest (msg : List UInt8) : List UInt8 :=
  ((blocks (pad msg)).foldl compress initialHash).flatMap fun x => Bytes.ofNatBE x.toNat 4

end Warden.Crypto.Sha256
