/-!
# Base64url without padding

The URL-safe base64 alphabet (`A`–`Z`, `a`–`z`, `0`–`9`, `-`, `_`) carries six
bits per character. Three bytes become four characters; a last group of one
or two bytes becomes two or three characters, and no `=` is written.

Reading is strict, so that each byte string has exactly one text:

* a character outside the alphabet (`=`, `+`, `/`, a space) is refused;
* a text whose length leaves a remainder of one modulo four is refused;
* in a short last group the bits below the last whole byte must be zero.

Main statement: `decode? (encode b) = some b` (`decode?_encode`).
-/

namespace Warden.Text.Base64Url

-- ============================================================ the alphabet

/-- The character for a six-bit value. -/
def sextetChar (n : Nat) : Char :=
  if n < 26 then Char.ofNat (65 + n)
  else if n < 52 then Char.ofNat (97 + (n - 26))
  else if n < 62 then Char.ofNat (48 + (n - 52))
  else if n = 62 then '-'
  else '_'

/-- The six-bit value of an alphabet character, or `none` outside it. -/
def sextetOf? (c : Char) : Option Nat :=
  let n := c.toNat
  if 65 ≤ n ∧ n ≤ 90 then some (n - 65)
  else if 97 ≤ n ∧ n ≤ 122 then some (n - 97 + 26)
  else if 48 ≤ n ∧ n ≤ 57 then some (n - 48 + 52)
  else if c = '-' then some 62
  else if c = '_' then some 63
  else none

/-- Every six-bit value reads back from its character. -/
theorem sextetOf?_sextetChar : ∀ n, n < 64 → sextetOf? (sextetChar n) = some n := by
  decide

-- ============================================================ writing

/-- The characters of a byte string. -/
def encodeChars : List UInt8 → List Char
  | a :: b :: c :: rest =>
    let v := a.toNat * 65536 + b.toNat * 256 + c.toNat
    sextetChar (v / 262144) :: sextetChar (v / 4096 % 64) ::
      sextetChar (v / 64 % 64) :: sextetChar (v % 64) :: encodeChars rest
  | [a, b] =>
    let v := a.toNat * 256 + b.toNat
    [sextetChar (v / 1024), sextetChar (v / 16 % 64), sextetChar (v % 16 * 4)]
  | [a] => [sextetChar (a.toNat / 4), sextetChar (a.toNat % 4 * 16)]
  | [] => []

/-- The text of a byte string. -/
def encode (b : List UInt8) : String :=
  String.ofList (encodeChars b)

/-- Four characters per three bytes, rounded up, with no padding. -/
theorem length_encodeChars : ∀ b : List UInt8,
    (encodeChars b).length = (4 * b.length + 2) / 3
  | a :: b :: c :: rest => by
    simp only [encodeChars, List.length_cons, length_encodeChars rest]
    omega
  | [_, _] => by simp [encodeChars]
  | [_] => by simp [encodeChars]
  | [] => rfl

-- ============================================================ reading

/-- The bytes of a text's characters, or `none` when the text is no
    strict base64url text. -/
def decodeChars? : List Char → Option (List UInt8)
  | c1 :: c2 :: c3 :: c4 :: rest => do
    let n1 ← sextetOf? c1
    let n2 ← sextetOf? c2
    let n3 ← sextetOf? c3
    let n4 ← sextetOf? c4
    let v := ((n1 * 64 + n2) * 64 + n3) * 64 + n4
    let tail ← decodeChars? rest
    pure (UInt8.ofNat (v / 65536) :: UInt8.ofNat (v / 256 % 256) :: UInt8.ofNat (v % 256) :: tail)
  | [c1, c2, c3] => do
    let n1 ← sextetOf? c1
    let n2 ← sextetOf? c2
    let n3 ← sextetOf? c3
    if n3 % 4 = 0 then
      let v := (n1 * 64 + n2) * 16 + n3 / 4
      pure [UInt8.ofNat (v / 256), UInt8.ofNat (v % 256)]
    else none
  | [c1, c2] => do
    let n1 ← sextetOf? c1
    let n2 ← sextetOf? c2
    if n2 % 16 = 0 then pure [UInt8.ofNat (n1 * 4 + n2 / 16)] else none
  | [_] => none
  | [] => some []

/-- The bytes of a text, or `none` when it is no strict base64url text. -/
def decode? (s : String) : Option (List UInt8) :=
  decodeChars? s.toList

-- ============================================================ round trip

private theorem ofNat_eq {n : Nat} {a : UInt8} (h : n = a.toNat) : UInt8.ofNat n = a := by
  subst h
  exact UInt8.ofNat_toNat

theorem decodeChars?_encodeChars : ∀ b : List UInt8, decodeChars? (encodeChars b) = some b
  | a :: b :: c :: rest => by
    have ha := a.toNat_lt
    have hb := b.toNat_lt
    have hc := c.toNat_lt
    simp only [encodeChars, decodeChars?]
    rw [sextetOf?_sextetChar _ (by omega), sextetOf?_sextetChar _ (by omega),
      sextetOf?_sextetChar _ (by omega), sextetOf?_sextetChar _ (by omega),
      decodeChars?_encodeChars rest]
    simp only [Option.bind_eq_bind, Option.bind_some, Option.pure_def]
    rw [ofNat_eq (a := a) (by omega), ofNat_eq (a := b) (by omega), ofNat_eq (a := c) (by omega)]
  | [a, b] => by
    have ha := a.toNat_lt
    have hb := b.toNat_lt
    simp only [encodeChars, decodeChars?]
    rw [sextetOf?_sextetChar _ (by omega), sextetOf?_sextetChar _ (by omega),
      sextetOf?_sextetChar _ (by omega)]
    simp only [Option.bind_eq_bind, Option.bind_some, Option.pure_def]
    rw [if_pos (by omega), ofNat_eq (a := a) (by omega), ofNat_eq (a := b) (by omega)]
  | [a] => by
    have ha := a.toNat_lt
    simp only [encodeChars, decodeChars?]
    rw [sextetOf?_sextetChar _ (by omega), sextetOf?_sextetChar _ (by omega)]
    simp only [Option.bind_eq_bind, Option.bind_some, Option.pure_def]
    rw [if_pos (by omega), ofNat_eq (a := a) (by omega)]
  | [] => rfl

/-- Reading a written text gives the bytes back. -/
theorem decode?_encode (b : List UInt8) : decode? (encode b) = some b := by
  simp [decode?, encode, decodeChars?_encodeChars]

end Warden.Text.Base64Url
