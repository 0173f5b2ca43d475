/-!
# Binary64 values

An IEEE 754 double is kept by its 64 bits; its value is read off the bits as
a significand and a binary exponent, `m · 2^e`. Arithmetic here is exact
arithmetic on naturals followed by one rounding: `Binary64.ofRatio?` gives
the double nearest to a ratio of naturals, a tie going to the even
significand, and `none` when the ratio is too large for any finite double.
Products and quotients of doubles are that rounding of the exact product or
quotient, as IEEE 754 prescribes.

Reading a decimal number with a 64-bit significand follows the common fast
rule (`Binary64.ofDecimal?`): the significand is rounded to a double, then
scaled by one correctly rounded power of ten, or by `1e308` steps when the
exponent is beyond the table. Each step rounds, so the result may differ in
the last bit from the decimal's nearest double; a product that overflows
has no value.
-/

namespace Warden.Number

/-- An IEEE 754 double, by its bits. -/
structure Binary64 where
  bits : UInt64
  deriving DecidableEq, Repr

namespace Binary64

/-- Positive zero. -/
def zero : Binary64 := ⟨0⟩

/-- The sign bit is set. -/
def negative (x : Binary64) : Bool := x.bits >>> 63 == 1

/-- The stored exponent, 0 to 2047. -/
def biasedExponent (x : Binary64) : Nat := ((x.bits >>> 52) &&& 0x7FF).toNat

/-- The stored fraction, below `2^52`. -/
def fraction (x : Binary64) : Nat := (x.bits &&& 0xFFFFFFFFFFFFF).toNat

/-- The value is a number: neither infinite nor NaN. -/
def isFinite (x : Binary64) : Bool := x.biasedExponent != 2047

/-- The value is zero, of either sign. -/
def isZero (x : Binary64) : Bool := x.biasedExponent == 0 && x.fraction == 0

/-- The significand `m` of the magnitude `m · 2^e`. -/
def significand (x : Binary64) : Nat :=
  if x.biasedExponent == 0 then x.fraction else x.fraction + Nat.pow 2 52

/-- The exponent `e` of the magnitude `m · 2^e`. -/
def exponent (x : Binary64) : Int :=
  if x.biasedExponent == 0 then -1074 else (x.biasedExponent : Int) - 1075

/-- The same magnitude with the other sign. -/
def negate (x : Binary64) : Binary64 := ⟨x.bits ^^^ ((1 : UInt64) <<< 63)⟩

-- ============================================================ rounding

/-- `num / den` rounded to an integer, a half going to the even neighbour. -/
def roundHalfEven (num den : Nat) : Nat :=
  let q := num / den
  let r := num % den
  if 2 * r > den || (2 * r == den && q % 2 == 1) then q + 1 else q

/-- `num / (den · 2^e)` rounded half to even, for an exponent of either sign. -/
def roundScaled (num den : Nat) (e : Int) : Nat :=
  if 0 ≤ e then roundHalfEven num (den * Nat.pow 2 e.toNat)
  else roundHalfEven (num * Nat.pow 2 e.natAbs) den

/-- The binary exponent of a positive ratio: `2^b ≤ num / den < 2^(b+1)`. -/
def binade (num den : Nat) : Int :=
  let l : Int := (Nat.log2 num : Int) - Nat.log2 den
  let atLeast := if 0 ≤ l then den * Nat.pow 2 l.toNat ≤ num else den ≤ num * Nat.pow 2 l.natAbs
  if atLeast then l else l - 1

/-- The double from a significand `q` of at most 53 bits at the exponent `e`
    of its last bit; `none` when the exponent is too large. -/
def ofScaled? (q : Nat) (e : Int) : Option Binary64 :=
  -- a carry to 2^53 moves to the next binade
  let (q, e) := if q = Nat.pow 2 53 then (Nat.pow 2 52, e + 1) else (q, e)
  if q < Nat.pow 2 52 then some ⟨q.toUInt64⟩
  else
    let biased := e + 1075
    if biased ≥ 2047 then none
    else some ⟨(biased.toNat * Nat.pow 2 52 + (q - Nat.pow 2 52)).toUInt64⟩

/-- The double nearest to `num / den`, a tie going to the even significand;
    `none` when the ratio is beyond the largest finite double. -/
def ofRatio? (num den : Nat) : Option Binary64 :=
  if num = 0 ∨ den = 0 then some zero
  else
    let e := max (binade num den - 52) (-1074)
    ofScaled? (roundScaled num den e) e

/-- The magnitude `m · 2^e` as a ratio of naturals. -/
def ratio (x : Binary64) : Nat × Nat :=
  if 0 ≤ x.exponent then (x.significand * Nat.pow 2 x.exponent.toNat, 1)
  else (x.significand, Nat.pow 2 x.exponent.natAbs)

/-- The nearest double to a natural number, or `none` past the largest. -/
def ofNat? (n : Nat) : Option Binary64 := ofRatio? n 1

/-- The rounded product of two magnitudes; `none` when it overflows. -/
def mul? (x y : Binary64) : Option Binary64 :=
  let (a, b) := x.ratio
  let (c, d) := y.ratio
  ofRatio? (a * c) (b * d)

/-- The rounded quotient of two magnitudes; `none` when it overflows. -/
def div? (x y : Binary64) : Option Binary64 :=
  let (a, b) := x.ratio
  let (c, d) := y.ratio
  ofRatio? (a * d) (b * c)

/-- The correctly rounded `10^k`, for `k ≤ 308`. -/
def pow10 (k : Nat) : Binary64 := (ofRatio? (Nat.pow 10 k) 1).getD zero

/-- Scales `f` by `10^exp`, one rounding per step, as a decimal reader does:
    a power in the table is one step; beyond it a zero stays zero, a large
    exponent overflows, and a small one divides by `1e308` and tries again.
    Each division by `1e308` brings a value below `2^64` at least 300 binary
    orders down, so four steps reach zero or the table: the fuel is ample. -/
def scaleByTen (fuel : Nat) (f : Binary64) (exp : Int) : Option Binary64 :=
  match fuel with
  | 0 => some zero
  | fuel + 1 =>
    if exp.natAbs ≤ 308 then
      if 0 ≤ exp then mul? f (pow10 exp.toNat) else div? f (pow10 exp.natAbs)
    else if f.isZero then some f
    else if 0 ≤ exp then none
    else do scaleByTen fuel (← div? f (pow10 308)) (exp + 308)

/-- The magnitude a decimal reader gives `significand · 10^exp`: the
    significand rounded to a double, then scaled by powers of ten. -/
def ofDecimal? (significand : Nat) (exp : Int) : Option Binary64 := do
  scaleByTen 8 (← ofNat? significand) exp

-- ============================================================ small facts

theorem roundHalfEven_le (num den : Nat) : roundHalfEven num den ≤ num / den + 1 := by
  simp only [roundHalfEven]
  split <;> omega

end Binary64

end Warden.Number
