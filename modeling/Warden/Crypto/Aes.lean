/-!
# AES-256

The AES block cipher with a 256-bit key: fourteen rounds over a
16-byte state, laid out column by column (byte `i` is row `i % 4` of column
`i / 4`).

The substitution box is computed rather than listed: it is the inverse in
the field of 256 elements (`x⁸ + x⁴ + x³ + x + 1`), zero going to zero,
followed by the affine map with constant `0x63`.
-/

namespace Warden.Crypto.Aes

-- ============================================================ the field of 256 elements

/-- Multiplication by `x`, reduced by the field polynomial. -/
def xtime (a : UInt8) : UInt8 :=
  if a &&& 0x80 = 0 then a <<< 1 else (a <<< 1) ^^^ 0x1b

/-- Field multiplication, one bit of `b` at a time. -/
def gmul (a b : UInt8) : UInt8 :=
  (List.range 8).foldl
    (fun (acc : UInt8 × UInt8) i =>
      let acc' := if (b >>> i.toUInt8) &&& 1 = 1 then acc.1 ^^^ acc.2 else acc.1
      (acc', xtime acc.2))
    (0, a) |>.1

/-- The multiplicative inverse, as `a ^ 254`; zero goes to zero. -/
def ginv (a : UInt8) : UInt8 :=
  (List.range 254).foldl (fun acc _ => gmul acc a) 1

/-- Rotation of a byte to the left by `n` bits, for `0 < n < 8`. -/
def rotl8 (b : UInt8) (n : UInt8) : UInt8 := (b <<< n) ||| (b >>> (8 - n))

/-- The affine map that follows the inversion. -/
def affine (b : UInt8) : UInt8 :=
  b ^^^ rotl8 b 1 ^^^ rotl8 b 2 ^^^ rotl8 b 3 ^^^ rotl8 b 4 ^^^ 0x63

/-- The substitution box, as a table of its 256 values. -/
def sbox : Array UInt8 :=
  (Array.range 256).map fun i => affine (ginv (UInt8.ofNat i))

def subByte (b : UInt8) : UInt8 := sbox.getD b.toNat 0

-- ============================================================ the key schedule

/-- The round constants `x ^ (i - 1)` for the key schedule. -/
def roundConstant (i : Nat) : UInt8 :=
  (List.range (i - 1)).foldl (fun acc _ => xtime acc) 1

/-- The 60 four-byte words of the expanded 32-byte key. -/
def expandKey (key : List UInt8) : Array (List UInt8) :=
  let first : Array (List UInt8) :=
    (List.range 8).toArray.map fun j => (key.drop (4 * j)).take 4
  (List.range 52).foldl (fun (w : Array (List UInt8)) k =>
    let i := k + 8
    let prev := w.getD (i - 1) []
    let temp :=
      if i % 8 = 0 then
        match (prev.drop 1 ++ prev.take 1).map subByte with
        | b0 :: rest => (b0 ^^^ roundConstant (i / 8)) :: rest
        | [] => []
      else if i % 8 = 4 then prev.map subByte
      else prev
    w.push (List.zipWith (· ^^^ ·) (w.getD (i - 8) []) temp)) first

/-- The 16 bytes of round key `r`. -/
def roundKey (w : Array (List UInt8)) (r : Nat) : List UInt8 :=
  (List.range 4).flatMap fun j => w.getD (4 * r + j) []

-- ============================================================ the rounds

def addRoundKey (s k : List UInt8) : List UInt8 := List.zipWith (· ^^^ ·) s k

def subBytes (s : List UInt8) : List UInt8 := s.map subByte

/-- Row `r` moves `r` columns to the left. -/
def shiftRows (s : List UInt8) : List UInt8 :=
  (List.range 16).map fun i =>
    let r := i % 4
    let c := i / 4
    s.getD (r + 4 * ((c + r) % 4)) 0

/-- One column times the fixed polynomial `3x³ + x² + x + 2`. -/
def mixColumn : List UInt8 → List UInt8
  | [a0, a1, a2, a3] =>
    [gmul a0 2 ^^^ gmul a1 3 ^^^ a2 ^^^ a3,
     a0 ^^^ gmul a1 2 ^^^ gmul a2 3 ^^^ a3,
     a0 ^^^ a1 ^^^ gmul a2 2 ^^^ gmul a3 3,
     gmul a0 3 ^^^ a1 ^^^ a2 ^^^ gmul a3 2]
  | other => other

def mixColumns (s : List UInt8) : List UInt8 :=
  (List.range 4).flatMap fun c => mixColumn ((s.drop (4 * c)).take 4)

/-- Enciphers one 16-byte block under an expanded key. -/
def encryptBlock (w : Array (List UInt8)) (block : List UInt8) : List UInt8 :=
  let s0 := addRoundKey block (roundKey w 0)
  let s13 := (List.range 13).foldl
    (fun s r => addRoundKey (mixColumns (shiftRows (subBytes s))) (roundKey w (r + 1))) s0
  addRoundKey (shiftRows (subBytes s13)) (roundKey w 14)

end Warden.Crypto.Aes
