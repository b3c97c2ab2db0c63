import Phrasebook.Number.Numeral
import Phrasebook.Number.Binary64

set_option autoImplicit false

/-! # Decimal digits of a double

`shortest` finds the fewest decimal digits that read back as the same double, the nearest such
decimal if there are several. `significant` rounds the exact value to a number of digits and
`places` to a number of decimal places, both with ties to even. A result `(n, k)` stands for
`n * 10 ^ k`. -/

namespace Phrasebook.Number

/-- The number of decimal digits of `n`, less one. -/
def log10 (n : Nat) : Nat := (decimal n).length - 1

/-- Drops trailing zeros of `n`, counting them in the exponent. -/
def stripZeros : Nat → Nat → Int → Nat × Int
  | 0, n, k => (n, k)
  | fuel + 1, n, k => if n % 10 = 0 && n != 0 then stripZeros fuel (n / 10) (k + 1) else (n, k)

/-- Whether `n * 10 ^ k` rounds to the double `m * 2 ^ e`: it lies between the midpoints to the
neighbouring doubles, ends included when `m` is even. Below a power of two the neighbour is at
half the distance. -/
def readsBack (m : Nat) (e : Int) (n : Nat) (k : Int) : Bool :=
  -- Everything is multiplied by four, so that the midpoints are whole multiples of `2 ^ e`.
  let v := Ratio.scale (Ratio.scale ⟨4 * n, 1⟩ 10 k) 2 (-e)
  let low := if m = 0x10000000000000 && e > Binary64.minExponent then 4 * m - 1 else 4 * m - 2
  let high := 4 * m + 2
  if m % 2 = 0 then low * v.den ≤ v.num && v.num ≤ high * v.den
  else low * v.den < v.num && v.num < high * v.den

/-- Searches grids of `count, count + 1, …` digits, at most `fuel` of them, for the first one
with a decimal that reads back; of two such decimals the nearer, and the upper one at a tie. `top`
is the power of ten just above the value. -/
def searchShortest (m : Nat) (e : Int) (top : Int) : Nat → Nat → Nat × Int
  | 0, count => (0, top - count)
  | fuel + 1, count =>
      let k := top - count
      let v := Ratio.scale (Binary64.magnitude m e) 10 (-k)
      let n := v.num / v.den
      let down := readsBack m e n k
      let up := readsBack m e (n + 1) k
      if down && up then (if 2 * (v.num % v.den) < v.den then (n, k) else (n + 1, k))
      else if down then (n, k)
      else if up then (n + 1, k)
      else searchShortest m e top fuel (count + 1)

/-- The fewest digits that read back as `m * 2 ^ e`. -/
def shortest (m : Nat) (e : Int) : Nat × Int :=
  if m = 0 then (0, 0)
  else
    let top := (Binary64.magnitude m e).floorLog 10 log10 + 1
    let (n, k) := searchShortest m e top 17 1
    stripZeros 17 n k

/-- The value rounded to `count + 1` significant digits. -/
def significant (m : Nat) (e : Int) (count : Nat) : Nat × Int :=
  if m = 0 then (0, -(count : Int))
  else
    let k := (Binary64.magnitude m e).floorLog 10 log10 - count
    let n := (Ratio.scale (Binary64.magnitude m e) 10 (-k)).round
    if n = Nat.pow 10 (count + 1) then (Nat.pow 10 count, k + 1) else (n, k)

/-- The value rounded to `count` decimal places, in units of the last place. -/
def places (m : Nat) (e : Int) (count : Nat) : Nat :=
  (Ratio.scale (Binary64.magnitude m e) 10 count).round

/-- A natural in units of `10 ^ -count`, written with `count` decimal places. -/
def withPoint (n : Nat) (count : Nat) : List Char :=
  if count = 0 then decimal n
  else
    let ds := decimal n
    let ds := List.replicate (count + 1 - ds.length) '0' ++ ds
    ds.take (ds.length - count) ++ '.' :: ds.drop (ds.length - count)

/-- `n * 10 ^ k` written without an exponent. -/
def positional (n : Nat) (k : Int) : List Char :=
  match k with
  | .ofNat k => decimal (n * Nat.pow 10 k)
  | .negSucc k => withPoint n (k + 1)

/-- `n * 10 ^ k` written with one digit before the point and an exponent after `mark`. -/
def exponential (mark : Char) (n : Nat) (k : Int) : List Char :=
  match decimal n with
  | [] => []
  | [d] => d :: mark :: decimalInt k
  | d :: ds => d :: '.' :: (ds ++ mark :: decimalInt (k + ds.length))

/-- A natural written with an exponent and no trailing zeros in its mantissa. -/
def exponentialNat (mark : Char) (n : Nat) : List Char :=
  let (n, k) := stripZeros (log10 n + 1) n 0
  exponential mark n k

end Phrasebook.Number
