set_option autoImplicit false

/-! # Double-precision numbers

A double is a sign and a value `mantissa * 2 ^ exponent` with a mantissa below `2 ^ 53` and an
exponent from `-1074` to `971`, or an infinity, or not a number. Everything about them is exact
arithmetic on naturals: `ofRatio` rounds a ratio to the nearest double, a tie to the even one. -/

namespace Phrasebook.Number

/-- A double-precision number. -/
inductive Binary64 where
  | nan
  | infinite (negative : Bool)
  | finite (negative : Bool) (mantissa : Nat) (exponent : Int)
  deriving DecidableEq

/-- A non-negative ratio of naturals. -/
structure Ratio where
  num : Nat
  den : Nat

namespace Ratio

/-- `r * base ^ k`. -/
def scale (r : Ratio) (base : Nat) (k : Int) : Ratio :=
  match k with
  | .ofNat k => ⟨r.num * Nat.pow base k, r.den⟩
  | .negSucc k => ⟨r.num, r.den * Nat.pow base (k + 1)⟩

/-- The nearest natural to `r`, a tie going to the even one. -/
def round (r : Ratio) : Nat :=
  let q := r.num / r.den
  let twice := 2 * (r.num % r.den)
  if twice > r.den || (twice == r.den && q % 2 == 1) then q + 1 else q

/-- The greatest `k` with `base ^ k ≤ r`, given a logarithm that is right on naturals. -/
def floorLog (r : Ratio) (base : Nat) (log : Nat → Nat) : Int :=
  let k : Int := (log r.num : Int) - (log r.den : Int)
  let s := r.scale base (-k)
  if s.den ≤ s.num then k else k - 1

end Ratio

namespace Binary64

/-- The least exponent of a double. -/
def minExponent : Int := -1074

/-- The greatest exponent of a double. -/
def maxExponent : Int := 971

/-- The double nearest to a ratio, a tie going to the even mantissa. -/
def ofRatio (negative : Bool) (r : Ratio) : Binary64 :=
  if r.num = 0 then .finite negative 0 minExponent
  else
    let e := max minExponent (r.floorLog 2 Nat.log2 - 52)
    let m := (r.scale 2 (-e)).round
    let (m, e) := if m = 0x20000000000000 then (0x10000000000000, e + 1) else (m, e)
    if e > maxExponent then .infinite negative else .finite negative m e

/-- The double nearest to `± digits * 10 ^ exponent`. Exponents that no double can reach are
decided without computing the power. -/
def ofDecimal (negative : Bool) (digits : Nat) (count : Nat) (exponent : Int) : Binary64 :=
  if digits = 0 then .finite negative 0 minExponent
  else if exponent > 400 then .infinite negative
  else if exponent + count < -400 then .finite negative 0 minExponent
  else ofRatio negative (Ratio.scale ⟨digits, 1⟩ 10 exponent)

/-- The exact magnitude of a finite double. -/
def magnitude (mantissa : Nat) (exponent : Int) : Ratio := Ratio.scale ⟨mantissa, 1⟩ 2 exponent

/-- Whether the sign bit is set; a number that is none has no sign. -/
def isNegative : Binary64 → Bool
  | .nan => false
  | .infinite negative => negative
  | .finite negative _ _ => negative

end Binary64

end Phrasebook.Number
