import Warden.Crypto.Der
import Warden.Crypto.Pem
import Warden.Crypto.Sha256
/-!
# RSA signatures

An RSA private key is a modulus `n = p · q`, a public exponent `e` and a
private exponent `d` with `d · e ≡ 1` modulo `p - 1` and modulo `q - 1`. A
key is accepted only when it is such a key, its modulus has at most 4096
bits and `2 ≤ e < 2^33` (`PrivateKey.valid`).

Keys come as PKCS #1 (`RSA PRIVATE KEY`: the sequence of version `0`, `n`,
`e`, `d`, `p`, `q` and three derived numbers) or as PKCS #8 (`PRIVATE KEY`:
a version, the algorithm `rsaEncryption`, and the PKCS #1 key in an octet
string).

A PKCS #1 v1.5 signature with SHA-256 (`PrivateKey.signSha256`) pads the
digest, prefixed by its algorithm, to the modulus length as
`00 01 FF … FF 00 prefix digest` and raises that number to `d` modulo `n`.
The padding needs eleven bytes beyond the prefixed digest, so a modulus of
fewer than 62 bytes cannot sign; and a signature that does not verify under
`e` (the "primes" of the key were not prime) is withheld.
-/

namespace Warden.Crypto

/-- `a ^ n % m` by square-and-multiply over the `bits` low bits of `n`. -/
def powMod (m : Nat) : Nat → Nat → Nat → Nat
  | 0, _, _ => 1 % m
  | bits + 1, a, n =>
    let r := powMod m bits (a * a % m) (n / 2)
    if n % 2 = 1 then r * a % m else r

/-- The number of bytes a number takes, most significant byte nonzero. -/
def byteLength (n : Nat) : Nat := if n = 0 then 0 else (Nat.log2 n + 8) / 8

/-- The shortest big-endian bytes of a number. -/
def bytesOf (n : Nat) : List UInt8 := Bytes.ofNatBE n (byteLength n)

/-- An RSA private key with two primes. -/
structure PrivateKey where
  n : Nat
  e : Nat
  d : Nat
  p : Nat
  q : Nat
  deriving DecidableEq, Repr

/-- Why a key is refused, as the layer that refused it says. -/
inductive KeyError where
  /-- The text is not a PEM text of a private key. -/
  | armour
  /-- The DER bytes do not have the structure of the key, or a value there is
      malformed; `what` names the fault. -/
  | asn1 (what : String)
  /-- The algorithm identifier names no RSA key, or carries the wrong
      parameters. -/
  | algorithm (what : String)
  /-- The numbers do not make an RSA key. -/
  | numbers
  deriving DecidableEq, Repr

/-- The text of a refusal of a PKCS #8 key. -/
def KeyError.message : KeyError → String
  | .armour => "PKCS#8 ASN.1 error: PEM error"
  | .asn1 what => "PKCS#8 ASN.1 error: " ++ what
  | .algorithm what => "public key error: " ++ what
  | .numbers => "PKCS#8 cryptographic key data malformed"

/-- Why a signature cannot be made. -/
inductive SignError where
  /-- The modulus is too short for the padded digest. -/
  | messageTooLong
  /-- The result does not verify under the public exponent: the numbers of
      the key only look like an RSA key. -/
  | internal
  deriving DecidableEq, Repr

/-- The text of a signing failure. -/
def SignError.message : SignError → String
  | .messageTooLong => "message too long"
  | .internal => "internal error"

namespace PrivateKey

/-- The exponents and primes fit together, and the sizes are allowed. -/
def valid (k : PrivateKey) : Bool :=
  Nat.log2 k.n < 4096 && 2 ≤ k.e && k.e < Nat.pow 2 33 && 1 ≤ k.p && 1 ≤ k.q && k.p * k.q == k.n &&
    k.d * k.e % (k.p - 1) == 1 && k.d * k.e % (k.q - 1) == 1

/-- A PKCS #1 key from its DER bytes. -/
def ofPkcs1? (der : List UInt8) : Option PrivateKey := do
  let top ← Der.readOnly der
  match ← top.children? with
  | [v, n, e, d, p, q, dp, dq, qi] =>
    if (← v.natural?) != 0 then none
    -- the derived numbers must be integers too
    discard dp.natural?
    discard dq.natural?
    discard qi.natural?
    let k : PrivateKey := ⟨← n.natural?, ← e.natural?, ← d.natural?, ← p.natural?, ← q.natural?⟩
    if k.valid then some k else none
  | _ => none

/-- The object identifier `1.2.840.113549.1.1.1`, `rsaEncryption`. -/
def rsaEncryption : List UInt8 := [0x2a, 0x86, 0x48, 0x86, 0xf7, 0x0d, 0x01, 0x01, 0x01]

/-- The tag of the optional public key of a PKCS #8 key, `[1]`. -/
def tagPublicKey : UInt8 := 0x81

/-- A fault of the value at a byte offset of the DER text. -/
def valueFault (tag : String) (offset : Nat) : KeyError :=
  .asn1 ("malformed ASN.1 DER value for " ++ tag ++ " at DER byte " ++ toString offset)

/-- A PKCS #8 key from its DER bytes: a sequence of a version, the
    algorithm, the PKCS #1 key in an octet string and, from version `1` on
    and only then, the public key. The algorithm must be `rsaEncryption`
    with `NULL` parameters. -/
def ofPkcs8 (der : List UInt8) : Except KeyError PrivateKey := do
  let some top := Der.readOnly der | throw (.asn1 "malformed DER")
  let headerLength := der.length - top.content.length
  let some (v, rest) := Der.readElement top.content | throw (.asn1 "malformed DER")
  let some version := v.natural? | throw (.asn1 "malformed DER")
  if version > 1 then throw (valueFault "INTEGER" (der.length - rest.length))
  let some (alg, rest) := Der.readElement rest | throw (.asn1 "malformed DER")
  let some (key, rest) := Der.readElement rest | throw (.asn1 "malformed DER")
  let some octets := key.octets? | throw (.asn1 "malformed DER")
  let (publicKey, rest) := match Der.readElement rest with
    | some (pk, after) => if pk.tag == tagPublicKey then (some pk, after) else (none, rest)
    | none => (none, rest)
  if (version == 1) != publicKey.isSome then
    throw (valueFault "CONTEXT-SPECIFIC [1] (constructed)"
      (headerLength + top.content.length - rest.length))
  let some parts := alg.children? | throw (.asn1 "malformed DER")
  match parts with
  | oid :: params =>
    if oid != ⟨Der.tagObjectId, rsaEncryption⟩ then throw (.algorithm "unknown/unsupported algorithm OID")
    match params with
    | [] => throw (.algorithm "AlgorithmIdentifier parameters missing")
    | [p] => if p != ⟨Der.tagNull, []⟩ then throw (.algorithm "SPKI cryptographic key data malformed")
    | _ => throw (.asn1 "malformed DER")
  | [] => throw (.asn1 "malformed DER")
  match ofPkcs1? octets with
  | some k => return k
  | none => throw .numbers

/-- A key from a PEM text, by its label. -/
def ofPem (text : String) : Except KeyError PrivateKey := do
  let some pem := Pem.decode? text | throw .armour
  if pem.label == "RSA PRIVATE KEY" then
    match ofPkcs1? pem.contents with
    | some k => return k
    | none => throw .numbers
  else if pem.label == "PRIVATE KEY" then ofPkcs8 pem.contents
  else throw .armour

/-- The length of a signature: the bytes of the modulus. -/
def size (k : PrivateKey) : Nat := byteLength k.n

/-- The DER prefix that names SHA-256 in a signature's digest. -/
def sha256Prefix : List UInt8 :=
  [0x30, 0x31, 0x30, 0x0d, 0x06, 0x09, 0x60, 0x86, 0x48, 0x01, 0x65, 0x03, 0x04, 0x02, 0x01,
   0x05, 0x00, 0x04, 0x20]

/-- The padded digest of a message, as long as the modulus. -/
def encodeSha256? (k : PrivateKey) (msg : List UInt8) : Option (List UInt8) :=
  let t := sha256Prefix ++ Sha256.digest msg
  if k.size < t.length + 11 then none
  else some ([0, 1] ++ List.replicate (k.size - t.length - 3) 0xFF ++ [0] ++ t)

/-- The PKCS #1 v1.5 signature of a message with SHA-256. The signature is
    checked before it is given out: raised to `e` it must give back the
    padded digest. -/
def signSha256 (k : PrivateKey) (msg : List UInt8) : Except SignError (List UInt8) := do
  let some em := k.encodeSha256? msg | throw .messageTooLong
  let m := Bytes.toNatBE em
  let s := powMod k.n (Nat.log2 k.d + 1) m k.d
  if powMod k.n (Nat.log2 k.e + 1) s k.e != m then throw .internal
  return Bytes.ofNatBE s k.size

end PrivateKey

-- ============================================================ small facts

theorem length_encodeSha256? {k : PrivateKey} {msg em : List UInt8}
    (h : k.encodeSha256? msg = some em) : em.length = k.size := by
  simp only [PrivateKey.encodeSha256?] at h
  split at h
  · cases h
  · cases h
    rename_i hsize
    simp only [List.length_append, List.length_cons, List.length_replicate, List.length_nil] at hsize ⊢
    omega

end Warden.Crypto
