import Warden.Crypto.Rsa
import Warden.Json.Write
import Warden.Text.Base64Url
import Warden.Error
/-!
# Signed assertions

The service signs identity assertions with one RSA key under a key id, as
compact JWS with `RS256`: the header `{"typ":"JWT","alg":"RS256","kid":…}`
in that order, the claims as JSON with their keys in order, each in
URL-safe base64 without padding, joined by dots, then the PKCS #1 v1.5
SHA-256 signature of the first two parts, encoded the same way.

Verifiers find the public half as a JWK set of one key: the modulus and
the exponent as their shortest big-endian bytes in URL-safe base64.
-/

namespace Warden.Token

open Warden.Json

/-- The only algorithm the service signs with. -/
def rs256 : String := "RS256"

/-- An RSA key and the id verifiers know it by. -/
structure SigningKey where
  keyId : String
  key : Crypto.PrivateKey
  deriving Repr

/-- The public half of a key, as verifiers read it. -/
structure Jwk where
  kty : String
  kid : String
  alg : String
  use : String
  n : String
  e : String
  deriving DecidableEq, Repr

/-- A JWK as JSON. -/
def Jwk.toJson (k : Jwk) : Value :=
  .object [("alg", .string k.alg), ("e", .string k.e), ("kid", .string k.kid),
    ("kty", .string k.kty), ("n", .string k.n), ("use", .string k.use)]

namespace SigningKey

/-- The public half of the key. -/
def publicJwk (k : SigningKey) : Jwk :=
  { kty := "RSA", kid := k.keyId, alg := rs256, use := "sig",
    n := Text.Base64Url.encode (Crypto.bytesOf k.key.n),
    e := Text.Base64Url.encode (Crypto.bytesOf k.key.e) }

/-- The keys verifiers may use: this one. -/
def keySet (k : SigningKey) : Value :=
  .object [("keys", .array [k.publicJwk.toJson])]

/-- The JWS header naming the algorithm and the key. -/
def header (k : SigningKey) : String :=
  "\x7b\"typ\":\"JWT\",\"alg\":\"RS256\",\"kid\":" ++ quote k.keyId ++ "\x7d"

/-- A part of a JWS: text in URL-safe base64. -/
def part (s : String) : String := Text.Base64Url.encode s.toUTF8.toList

/-- Signs claims as a compact JWS. -/
def sign (k : SigningKey) (claims : Value) : Except Crypto.SignError String := do
  let input := part k.header ++ "." ++ part (render claims)
  let sig ← k.key.signSha256 input.toUTF8.toList
  return input ++ "." ++ Text.Base64Url.encode sig

end SigningKey

end Warden.Token
