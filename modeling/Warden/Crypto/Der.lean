import Warden.Crypto.Bytes
/-!
# DER

Keys are stored as DER: each element is a tag byte, a length, and that many
content bytes; a `SEQUENCE` holds elements one after another. DER admits
one encoding per value, and the reader here refuses the others:

* a length below 128 takes one byte; a longer one takes the fewest bytes
  after a `0x80 + k` byte, and the indefinite form is refused;
* an `INTEGER` has at least one content byte and no redundant leading byte;
  the keys here hold no negative integers, so a set top bit is refused.

Reading a sequence consumes its content exactly (`Element.children?`).
-/

namespace Warden.Crypto.Der

/-- The tag of an `INTEGER`. -/
def tagInteger : UInt8 := 0x02

/-- The tag of an `OCTET STRING`. -/
def tagOctetString : UInt8 := 0x04

/-- The tag of a `NULL`. -/
def tagNull : UInt8 := 0x05

/-- The tag of an `OBJECT IDENTIFIER`. -/
def tagObjectId : UInt8 := 0x06

/-- The tag of a `SEQUENCE`. -/
def tagSequence : UInt8 := 0x30

/-- An element: its tag and its content. -/
structure Element where
  tag : UInt8
  content : List UInt8
  deriving DecidableEq, Repr

/-- A length in its shortest form, and the bytes after it. -/
def readLength : List UInt8 → Option (Nat × List UInt8)
  | [] => none
  | b :: rest =>
    if b < 0x80 then some (b.toNat, rest)
    else
      let k := (b - 0x80).toNat
      let digits := rest.take k
      let n := Bytes.toNatBE digits
      if k == 0 || k > 4 || digits.length < k || digits.head? == some 0 || n < 128 then none
      else some (n, rest.drop k)

/-- The first element of some bytes, and the bytes after it. -/
def readElement : List UInt8 → Option (Element × List UInt8)
  | [] => none
  | tag :: rest => do
    let (len, body) ← readLength rest
    if body.length < len then none
    else some (⟨tag, body.take len⟩, body.drop len)

/-- Elements one after another until the bytes end; each element takes at
    least two bytes, so the byte count bounds the steps. -/
def elements : Nat → List UInt8 → Option (List Element)
  | _, [] => some []
  | 0, _ :: _ => none
  | fuel + 1, bs => do
    let (e, rest) ← readElement bs
    return e :: (← elements fuel rest)

/-- The one element that some bytes hold, with nothing after it. -/
def readOnly (bs : List UInt8) : Option Element := do
  let (e, rest) ← readElement bs
  if rest.isEmpty then some e else none

namespace Element

/-- The elements of a sequence. -/
def children? (e : Element) : Option (List Element) :=
  if e.tag == tagSequence then elements e.content.length e.content else none

/-- The value of a non-negative integer in its shortest form. -/
def natural? (e : Element) : Option Nat :=
  if e.tag != tagInteger then none
  else
    match e.content with
    | [] => none
    | [b] => if b ≥ 0x80 then none else some b.toNat
    | b :: c :: rest =>
      if b ≥ 0x80 || (b == 0 && c < 0x80) then none
      else some (Bytes.toNatBE (b :: c :: rest))

/-- The bytes of an octet string. -/
def octets? (e : Element) : Option (List UInt8) :=
  if e.tag == tagOctetString then some e.content else none

end Element

end Warden.Crypto.Der
