import Phrasebook.Number.Numeral
import Phrasebook.Number.Binary64

set_option autoImplicit false

/-! # Reading numbers

Integers are an optional sign and decimal digits. Doubles are an optional sign and either a
decimal with an optional point and exponent, digits standing on at least one side of the point,
or one of the words `inf`, `infinity` and `nan` in any case. -/

namespace Phrasebook.Number

/-- An optional sign: whether it is a minus, and the rest. -/
def readSign : List Char → Bool × List Char
  | '-' :: cs => (true, cs)
  | '+' :: cs => (false, cs)
  | cs => (false, cs)

/-- A row of decimal digits, not empty. -/
def readNat? (cs : List Char) : Option Nat :=
  if cs.isEmpty || !cs.all Char.isDigit then none else some (valueOf cs)

/-- A signed decimal integer. -/
def readInt? (cs : List Char) : Option Int :=
  let (negative, cs) := readSign cs
  (readNat? cs).map fun n => if negative then -(n : Int) else n

/-- The number fits 128 bits, one of them for the sign. -/
def fits128 (n : Int) : Bool :=
  -0x80000000000000000000000000000000 ≤ n && n < 0x80000000000000000000000000000000

/-- A signed decimal integer that fits 128 bits. -/
def readInt128? (cs : List Char) : Option Int :=
  match readInt? cs with
  | some n => if fits128 n then some n else none
  | none => none

/-- An optional exponent: `e` or `E` and an integer. Nothing may follow it. -/
def readExponent? : List Char → Option Int
  | [] => some 0
  | c :: cs => if c = 'e' || c = 'E' then readInt? cs else none

/-- A decimal with an optional point and exponent. -/
def readDecimal? (negative : Bool) (cs : List Char) : Option Binary64 :=
  let (whole, rest) := spanDigits cs
  let (fraction, rest) := match rest with
    | '.' :: rest => spanDigits rest
    | rest => ([], rest)
  if whole.isEmpty && fraction.isEmpty then none
  else
    (readExponent? rest).map fun k =>
      let ds := whole ++ fraction
      .ofDecimal negative (valueOf ds) ds.length (k - fraction.length)

/-- A double. -/
def readBinary64? (cs : List Char) : Option Binary64 :=
  let (negative, cs) := readSign cs
  match String.ofList (cs.map Char.toLower) with
  | "inf" => some (.infinite negative)
  | "infinity" => some (.infinite negative)
  | "nan" => some .nan
  | _ => readDecimal? negative cs

end Phrasebook.Number
