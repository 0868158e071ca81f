/-!
# Binary64 numbers in exact arithmetic

A finite IEEE 754 binary64 number is kept as its three fields, and every operation on it is done
in exact integer arithmetic followed by one rounding to the nearest representable number, ties to
the even significand. That is the rounding the standard prescribes for `×` and `÷`, so the results
are those of the hardware operations, and they can be reasoned about.

* `round`: the nearest binary64 to a positive rational `num · 2^e / den`, or none when it is
  beyond the largest finite number;
* `mul`, `div`: the rounded product and quotient of magnitudes;
* `ofNat`, `pow10`: the nearest binary64 to a natural number and to a power of ten.

Powers are written `Nat.pow`, the power of the core library, so that a definition here denotes
the same term whichever algebraic instances are in scope where it is read.
-/

namespace DataProduct

/-- A finite binary64 number: its sign, its biased exponent field (`0` for zero and subnormal
numbers, below `2047`) and its 52-bit fraction field. -/
structure Binary64 where
  negative : Bool
  exponent : Nat
  fraction : Nat
  deriving DecidableEq, Repr

namespace Binary64

/-- Positive zero. -/
def zero : Binary64 := ⟨false, 0, 0⟩

/-- The integer significand `m` with `|x| = m · 2^q`: the fraction, with the hidden bit unless the
number is subnormal. -/
def significand (x : Binary64) : Nat :=
  if x.exponent = 0 then x.fraction else x.fraction + Nat.pow 2 52

/-- The power `q` with `|x| = m · 2^q`. -/
def power (x : Binary64) : Int :=
  if x.exponent = 0 then -1074 else (x.exponent : Int) - 1075

/-- Whether the number is a zero of either sign. -/
def isZero (x : Binary64) : Bool := x.exponent == 0 && x.fraction == 0

/-- The number with its sign changed. -/
def neg (x : Binary64) : Binary64 := { x with negative := !x.negative }

/-- The largest `k` with `2^k ≤ num · 2^e / den`, for positive `num` and `den`. -/
def floorLog2 (num den : Nat) (e : Int) : Int :=
  let l : Int := (Nat.log2 num : Int) - (Nat.log2 den : Int)
  let atLeast : Bool :=
    if 0 ≤ l then decide (den * Nat.pow 2 l.toNat ≤ num)
    else decide (den ≤ num * Nat.pow 2 (-l).toNat)
  (if atLeast then l else l - 1) + e

/-- `num · 2^s / den` divided out: quotient and remainder of the two integers it stands for. -/
def divScaled (num den : Nat) (s : Int) : Nat × Nat × Nat :=
  let n := if 0 ≤ s then num * Nat.pow 2 s.toNat else num
  let d := if 0 ≤ s then den else den * Nat.pow 2 (-s).toNat
  (n / d, n % d, d)

/-- The nearest binary64 to the positive rational `num · 2^e / den`, ties to an even significand;
none when the nearest is beyond the largest finite number. Zero when `num` is zero. -/
def round (num den : Nat) (e : Int) : Option Binary64 :=
  if num = 0 ∨ den = 0 then some zero
  else
    -- the power of the last significand bit: 52 below the leading bit, and never below -1074
    let k := max (floorLog2 num den e - 52) (-1074)
    let (quo, rem, d) := divScaled num den (e - k)
    let up := 2 * rem > d ∨ (2 * rem = d ∧ quo % 2 = 1)
    let m := if up then quo + 1 else quo
    let (m, k) := if m = Nat.pow 2 53 then (Nat.pow 2 52, k + 1) else (m, k)
    if m < Nat.pow 2 52 then some ⟨false, 0, m⟩
    else if k + 1075 ≥ 2047 then none
    else some ⟨false, (k + 1075).toNat, m - Nat.pow 2 52⟩

/-- The rounded product of the magnitudes of two numbers, positive; none on overflow. -/
def mul (x y : Binary64) : Option Binary64 :=
  round (x.significand * y.significand) 1 (x.power + y.power)

/-- The rounded quotient of the magnitudes of two numbers, positive; `y` is not zero. -/
def div (x y : Binary64) : Binary64 :=
  (round x.significand y.significand (x.power - y.power)).getD zero

/-- The nearest binary64 to a natural number below `2^1024`. -/
def ofNat (n : Nat) : Binary64 := (round n 1 0).getD zero

/-- The nearest binary64 to `10^k`, for `k ≤ 308`. -/
def pow10 (k : Nat) : Binary64 := (round (Nat.pow 5 k) 1 k).getD zero

end Binary64

end DataProduct
