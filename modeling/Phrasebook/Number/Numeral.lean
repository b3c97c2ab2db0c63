set_option autoImplicit false

/-! # Numerals

The digits of a natural number in a base, and the value of a row of decimal digits. -/

namespace Phrasebook.Number

/-- The sixteen digits, in lower or upper case. -/
def digitChar (uppercase : Bool) (d : Nat) : Char :=
  if d < 10 then Char.ofNat (48 + d)
  else Char.ofNat ((if uppercase then 55 else 87) + d)

/-- The digits of `n` in base `b + 2`, most significant first, without leading zeros; zero is a
single digit. -/
def digits (b : Nat) (uppercase : Bool) (n : Nat) : List Char :=
  if n < b + 2 then [digitChar uppercase n]
  else digits b uppercase (n / (b + 2)) ++ [digitChar uppercase (n % (b + 2))]
termination_by n
decreasing_by exact Nat.div_lt_self (by omega) (by omega)

/-- The decimal numeral of `n`. -/
def decimal (n : Nat) : List Char := digits 8 false n

/-- The decimal numeral of an integer, with a minus sign when negative. -/
def decimalInt : Int → List Char
  | .ofNat n => decimal n
  | .negSucc n => '-' :: decimal (n + 1)

/-- The value of a decimal digit. -/
def digitValue (c : Char) : Nat := c.toNat - 48

/-- The value of a row of decimal digits. -/
def valueOf (ds : List Char) : Nat := ds.foldl (fun n c => 10 * n + digitValue c) 0

/-- The value of a digit, letters being the digits from ten on. -/
def digitIn? (base : Nat) (c : Char) : Option Nat :=
  let d := if c.isDigit then c.toNat - 48
    else if 'a' ≤ c && c ≤ 'f' then c.toNat - 87
    else if 'A' ≤ c && c ≤ 'F' then c.toNat - 55
    else base
  if d < base then some d else none

/-- The value of a row of digits in a base. -/
def valueIn? (base : Nat) (ds : List Char) : Option Nat :=
  ds.foldl (fun n c => do return base * (← n) + (← digitIn? base c)) (some 0)

/-- Splits off the decimal digits at the front of a text. -/
def spanDigits (cs : List Char) : List Char × List Char :=
  (cs.takeWhile Char.isDigit, cs.dropWhile Char.isDigit)

end Phrasebook.Number
