import DataProduct.Number.Binary64

/-!
# Shortest decimal text of a binary64 number

Every finite binary64 number stands for the interval of reals that round to it (ends included
exactly when its significand is even). Its shortest decimal is the decimal with the fewest
significant digits in that interval, and of two such the one nearer the number, an exact tie going
to the even digit string. It is found grid by grid: if a multiple of `10^s` lies in the interval,
so does one of the number's two neighbours on that grid, so each grid needs two tests in exact
integer arithmetic, from the coarsest grid down.

The text then follows one style (`DecimalStyle.standard`): positional notation with a `.0` when
the number is an integer of at most sixteen digits, or is below one with at most four zeros after
the point; otherwise scientific notation with a signed exponent (`1e+30`, `1.5e-7`).

* `shortest`: the digits and their exponent;
* `Binary64.toText`: the text.
-/

namespace DataProduct

namespace Binary64

/-- The interval of reals that round to a positive number, as numerators over one denominator:
the number, the low end and the high end, the denominator, and whether the ends belong to it. -/
def interval (x : Binary64) : Nat × Nat × Nat × Nat × Bool :=
  let m := x.significand
  let t := x.power - 2
  -- the gap below is half as wide at the bottom of a binade
  let lowGap := if x.fraction = 0 ∧ x.exponent > 1 then 1 else 2
  let scale := if 0 ≤ t then Nat.pow 2 t.toNat else 1
  let den := if 0 ≤ t then 1 else Nat.pow 2 (-t).toNat
  (4 * m * scale, (4 * m - lowGap) * scale, (4 * m + 2) * scale, den, m % 2 == 0)

/-- The largest `E` with `10^E ≤ num / den`, for positive `num` and `den`. -/
def floorLog10 (num den : Nat) : Int :=
  let log10 (n : Nat) : Int := ((Nat.toDigits 10 n).length : Int) - 1
  if den ≤ num then log10 (num / den)
  else -(log10 ((den - 1) / num) + 1)

/-- The decimal `c · 10^s` with the trailing zeros of `c` moved into the exponent. -/
def trim (c : Nat) (s : Int) : Nat × Int :=
  if h : c ≠ 0 ∧ c % 10 = 0 then trim (c / 10) (s + 1) else (c, s)
termination_by c
decreasing_by omega

/-- On the grid of spacing `10^s`, the neighbour of the number that lies in its interval, the
nearer one if both do and the even one on a tie, as the multiple `c` of `10^s`. -/
def onGrid (x : Binary64) (s : Int) : Option Nat :=
  let (v, lo, hi, den, closed) := x.interval
  -- compare `c · 10^s` with `n / den` as `c * a` against `scaled n`
  let a := if 0 ≤ s then den * Nat.pow 10 s.toNat else den
  let scaled (n : Nat) : Nat := if 0 ≤ s then n else n * Nat.pow 10 (-s).toNat
  let inside (c : Nat) : Bool :=
    if closed then scaled lo ≤ c * a ∧ c * a ≤ scaled hi
    else scaled lo < c * a ∧ c * a < scaled hi
  let c0 := scaled v / a
  let c1 := c0 + 1
  match inside c0 && c0 ≠ 0, inside c1 with
  | true, true =>
    let below := scaled v - c0 * a
    let above := c1 * a - scaled v
    if below < above then some c0
    else if above < below then some c1
    else if c0 % 2 = 0 then some c0 else some c1
  | true, false => some c0
  | false, true => some c1
  | false, false => none

/-- The shortest decimal of a positive number: digits `d` and exponent `k` with value `d · 10^k`,
`d` without trailing zeros. -/
def shortest (x : Binary64) : Nat × Int :=
  let (v, _, _, den, _) := x.interval
  let top := floorLog10 v den + 1
  let grids := (List.range 19).map fun (i : Nat) => top - (i : Int)
  match grids.findSome? fun s => (x.onGrid s).map fun c => (c, s) with
  | some (c, s) => trim c s
  | none => (x.significand, x.power)

end Binary64

/-- Where positional notation ends. -/
structure DecimalStyle where
  /-- The most digits before the point in positional notation. -/
  maxIntegerDigits : Nat
  /-- The most zeros between the point and the first digit of a number below one. -/
  maxLeadingZeros : Nat
  /-- Whether a positive exponent is written with a `+`. -/
  plusExponent : Bool

/-- The style of numbers in documents and messages: sixteen integer digits, four leading zeros,
and a `+` on positive exponents. -/
def DecimalStyle.standard : DecimalStyle := ⟨16, 4, true⟩

/-- The decimal digits of a natural number. -/
def decimalDigits (n : Nat) : List Char := (Nat.toDigits 10 n)

/-- The text of digits `d` times `10^k`, `d` positive, in a style. -/
def DecimalStyle.render (st : DecimalStyle) (d : Nat) (k : Int) : String :=
  let ds := decimalDigits d
  let len : Int := ds.length
  -- the position of the point, counted from the first digit
  let kk := len + k
  if 0 ≤ k ∧ kk ≤ st.maxIntegerDigits then
    String.ofList (ds ++ List.replicate k.toNat '0' ++ ['.', '0'])
  else if 0 < kk ∧ kk ≤ st.maxIntegerDigits then
    String.ofList (ds.take kk.toNat ++ ['.'] ++ ds.drop kk.toNat)
  else if -(st.maxLeadingZeros : Int) - 1 < kk ∧ kk ≤ 0 then
    String.ofList (['0', '.'] ++ List.replicate (-kk).toNat '0' ++ ds)
  else
    let e := kk - 1
    let sign := if e < 0 then "-" else if st.plusExponent then "+" else ""
    let expText := sign ++ String.ofList (decimalDigits e.natAbs)
    match ds with
    | [c] => String.ofList [c] ++ "e" ++ expText
    | c :: rest => String.ofList (c :: '.' :: rest) ++ "e" ++ expText
    | [] => "0e" ++ expText

/-- The text of a number: its sign, then `0.0` for zero or its shortest decimal in the standard
style. -/
def Binary64.toText (x : Binary64) : String :=
  let sign := if x.negative then "-" else ""
  if x.isZero then sign ++ "0.0"
  else
    let (d, k) := x.shortest
    sign ++ DecimalStyle.standard.render d k

end DataProduct
