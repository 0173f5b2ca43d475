/-!
# Decimal integers of a fixed width

A signed decimal is an optional `+` or `-` followed by one or more ASCII
digits; leading zeros are allowed and nothing else is. The value must fit
the width: for 32 bits, from `-2³¹` to `2³¹ - 1`.
-/

namespace Warden.Text.Integer

/-- The value of a nonempty run of ASCII digits. -/
def digitsValue? (cs : List Char) : Option Nat :=
  if cs.isEmpty then none
  else cs.foldl (fun acc c => acc.bind fun n =>
    if c.isDigit then some (10 * n + (c.toNat - 48)) else none) (some 0)

/-- A signed decimal, of any size. -/
def signed? (s : String) : Option Int :=
  match s.toList with
  | '+' :: rest => (digitsValue? rest).map Int.ofNat
  | '-' :: rest => (digitsValue? rest).map fun n => -Int.ofNat n
  | cs => (digitsValue? cs).map Int.ofNat

/-- A signed decimal that fits 32 bits. -/
def int32? (s : String) : Option Int :=
  (signed? s).bind fun v => if -2147483648 ≤ v ∧ v ≤ 2147483647 then some v else none

/-- An unsigned decimal with no sign, of any size. -/
def natural? (s : String) : Option Nat :=
  digitsValue? s.toList

end Warden.Text.Integer
