import Warden.Error
import Warden.Text.Blank
import Warden.Text.Base64Url
import Warden.Crypto.Sha256
import Warden.Crypto.Gcm
/-!
# Reference tokens

A reference token is what a client holds instead of a token row: the text
`tokenId:subject`, sealed with AES-256-GCM under the SHA-256 hash of the
configured secret. Its bytes are the 12-byte nonce, the ciphertext and the
16-byte tag, written in base64url without padding.

Opening a presented text trims blanks at both ends, then fails for the
first of these reasons (`Refusal`): the text is no base64url, the bytes are
too short to hold a nonce and a tag, the tag does not authenticate them, or
the plaintext is no UTF-8. Every refusal is an `unauthorized` error.
-/

namespace Warden.Token

open Warden.Crypto Warden.Text

/-- Bytes of the nonce in front of a sealed reference. -/
def nonceLength : Nat := 12

/-- Bytes of the tag at the end of a sealed reference. -/
def tagLength : Nat := 16

/-- Why a presented reference cannot be opened. -/
inductive Refusal where
  | malformed
  | tooShort
  | forged
  | notText
  deriving DecidableEq, Repr

/-- The text of a refusal. -/
def Refusal.message : Refusal → String
  | malformed => "令牌格式错误"
  | tooShort => "令牌长度错误"
  | forged => "令牌解密失败"
  | notText => "解密后的数据不是有效的UTF-8字符串"

def Refusal.toError (r : Refusal) : Error := .unauthorized r.message

/-- The key that seals references: the SHA-256 hash of a secret. -/
structure Cipher where
  key : List UInt8

namespace Cipher

def ofSecret (secret : String) : Cipher := ⟨Sha256.digest secret.toUTF8.toList⟩

/-- The bytes of a sealed text under a nonce: nonce, ciphertext, tag. -/
def sealBytes (c : Cipher) (nonce : List UInt8) (plain : String) : List UInt8 :=
  nonce ++ Gcm.encrypt c.key nonce plain.toUTF8.toList

/-- A sealed text under a nonce, in base64url. -/
def encrypt (c : Cipher) (nonce : List UInt8) (plain : String) : String :=
  Base64Url.encode (c.sealBytes nonce plain)

/-- The plaintext of sealed bytes. -/
def openBytes (c : Cipher) (sealed : List UInt8) : Except Refusal String :=
  if sealed.length < nonceLength + tagLength then .error .tooShort
  else
    match Gcm.decrypt? c.key (sealed.take nonceLength) (sealed.drop nonceLength) with
    | none => .error .forged
    | some plain =>
      match String.fromUTF8? ⟨plain.toArray⟩ with
      | some s => .ok s
      | none => .error .notText

/-- The plaintext of a presented reference, after trimming blanks. -/
def decrypt (c : Cipher) (presented : String) : Except Refusal String :=
  match Base64Url.decode? (trim presented) with
  | none => .error .malformed
  | some sealed => c.openBytes sealed

end Cipher

-- ============================================================ the payload

/-- The payload that a reference seals for a token of a subject. -/
def payload (tokenId subject : String) : String := tokenId ++ ":" ++ subject

/-- The token id and subject of a payload: exactly two nonempty parts
    around one colon. -/
def parsePayload? (p : String) : Option (String × String) :=
  match p.toList.splitOn ':' with
  | [a, b] => if a.isEmpty || b.isEmpty then none else some (String.ofList a, String.ofList b)
  | _ => none

end Warden.Token
