import Warden.Number.Binary64
/-!
# The shortest decimal text of a double

Every finite double has a set of reals that round to it: the interval
halfway to each neighbour, its ends included when the significand is even.
The shortest decimal of a double is the decimal with the fewest significant
digits in that interval; of two with as few digits, the one nearer the
double wins, and of two equally near, the one with the even last digit.

`Binary64.shortest` finds it by trying 1, 2, … 17 significant digits: on the
grid of decimals with `k` digits only the two grid points around the double
can be the nearest in the interval, so each `k` tests two candidates, in
exact arithmetic on naturals. Seventeen digits always suffice.

`Binary64.render` writes the digits in a `Layout`: positionally in a range
of exponents, otherwise as a mantissa and an exponent.
-/

namespace Warden.Number

namespace Binary64

-- ============================================================ exact comparison

/-- Compares `a · 10^p` with `b · 2^e` exactly. -/
def compareDecBin (a : Nat) (p : Int) (b : Nat) (e : Int) : Ordering :=
  compare (a * Nat.pow 10 p.toNat * Nat.pow 2 (-e).toNat) (b * Nat.pow 2 e.toNat * Nat.pow 10 (-p).toNat)

/-- `⌊b · 2^e / 10^p⌋`. -/
def floorOnGrid (b : Nat) (e p : Int) : Nat :=
  (b * Nat.pow 2 e.toNat * Nat.pow 10 (-p).toNat) / (Nat.pow 2 (-e).toNat * Nat.pow 10 p.toNat)

-- ============================================================ the interval

/-- The interval of reals that round to a positive double, in units of
    `2^(e-2)`: its low end, its centre and its high end, and whether the ends
    belong to it. The gap below is half as wide at the bottom of a binade. -/
structure Interval where
  low : Nat
  centre : Nat
  high : Nat
  unit : Int
  closed : Bool

/-- The rounding interval of a positive finite double. -/
def interval (x : Binary64) : Interval :=
  let m := x.significand
  let lowGap := if x.fraction == 0 && x.biasedExponent > 1 then 1 else 2
  { low := 4 * m - lowGap, centre := 4 * m, high := 4 * m + 2, unit := x.exponent - 2,
    closed := m % 2 == 0 }

/-- The decimal `c · 10^p` lies in the interval. -/
def Interval.holds (i : Interval) (c : Nat) (p : Int) : Bool :=
  let lo := compareDecBin c p i.low i.unit
  let hi := compareDecBin c p i.high i.unit
  if i.closed then lo != .lt && hi != .gt else lo == .gt && hi == .lt

-- ============================================================ the search

/-- `⌊log₁₀ v⌋` for the double's value `v = m · 2^e`, found from an estimate
    by comparing with powers of ten. -/
def decimalExponent (x : Binary64) : Int :=
  let m := x.significand
  let e := x.exponent
  let estimate : Int := ((Nat.log2 m : Int) + e) * 78913 / 262144
  -- the estimate is off by at most one either way
  let up (k : Int) := if compareDecBin 1 (k + 1) m e != .gt then k + 1 else k
  let down (k : Int) := if compareDecBin 1 k m e == .gt then k - 1 else k
  down (down (up (up estimate)))

/-- The decimal with `k` significant digits nearest to the double within its
    interval, if the interval holds one. -/
def candidate (x : Binary64) (i : Interval) (k : Nat) : Option (Nat × Int) :=
  let p := decimalExponent x - k + 1
  let c := floorOnGrid x.significand x.exponent p
  let inLow := i.holds c p
  let inHigh := i.holds (c + 1) p
  if inLow && inHigh then
    -- compare the double with the midpoint of the two grid points
    match compareDecBin (2 * c + 1) p (2 * x.significand) x.exponent with
    | .lt => some (c + 1, p)
    | .gt => some (c, p)
    | .eq => if c % 2 == 0 then some (c, p) else some (c + 1, p)
  else if inLow then some (c, p)
  else if inHigh then some (c + 1, p)
  else none

/-- The first of 1, 2, … digit counts whose grid meets the interval. -/
def search (x : Binary64) (i : Interval) : Nat → Nat → Nat × Int
  | 0, _ => (x.significand, x.exponent)
  | fuel + 1, k =>
    match candidate x i k with
    | some r => r
    | none => search x i fuel (k + 1)

/-- Drops trailing zeros of the digits into the exponent. -/
def stripZeros : Nat → Nat → Int → Nat × Int
  | 0, c, p => (c, p)
  | fuel + 1, c, p => if c != 0 && c % 10 == 0 then stripZeros fuel (c / 10) (p + 1) else (c, p)

/-- The shortest decimal `c · 10^p` that rounds to a positive finite double,
    with no trailing zero in `c`. -/
def shortest (x : Binary64) : Nat × Int :=
  let (c, p) := search x x.interval 17 1
  stripZeros 20 c p

-- ============================================================ the text

/-- The decimal digits of a natural number. -/
def digits (n : Nat) : String := toString n

/-- `n` zeros. -/
def zeros (n : Nat) : String := String.ofList (List.replicate n '0')

/-- How a decimal is laid out as text: positionally when the exponent of
    its first digit is at least `plainFrom` and below `plainBelow` (a whole
    number then ends in `.0`), otherwise as one digit, the other digits
    after a point, `e` and the exponent, which has at least `exponentWidth`
    digits and, when `signedExponent`, a `+` before a positive one. -/
structure Layout where
  plainFrom : Int
  plainBelow : Int
  signedExponent : Bool
  exponentWidth : Nat

/-- The exponent part after `e`. -/
def Layout.exponent (l : Layout) (e : Int) : String :=
  let ds := toString e.natAbs
  let ds := zeros (l.exponentWidth - ds.length) ++ ds
  (if e < 0 then "-" else if l.signedExponent then "+" else "") ++ ds

/-- The text of a finite double in a layout: the sign, then the shortest
    digits. Zero is `0.0`. -/
def render (l : Layout) (x : Binary64) : String :=
  let sign := if x.negative then "-" else ""
  if x.isZero then sign ++ "0.0"
  else
    let (c, p) := x.shortest
    let ds := digits c
    let len : Int := ds.length
    -- the exponent of the first digit is `kk - 1`
    let kk := len + p
    let body :=
      if kk - 1 < l.plainFrom || l.plainBelow ≤ kk - 1 then
        let mantissa := if ds.length == 1 then ds
          else String.ofList (ds.toList.take 1) ++ "." ++ String.ofList (ds.toList.drop 1)
        mantissa ++ "e" ++ l.exponent (kk - 1)
      else if 0 ≤ p then ds ++ zeros p.toNat ++ ".0"
      else if 0 < kk then
        String.ofList (ds.toList.take kk.toNat) ++ "." ++ String.ofList (ds.toList.drop kk.toNat)
      else "0." ++ zeros kk.natAbs ++ ds
    sign ++ body

end Binary64

end Warden.Number
