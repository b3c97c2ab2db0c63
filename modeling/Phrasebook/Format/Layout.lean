import Phrasebook.Format.Spec
import Phrasebook.Format.Value

set_option autoImplicit false

/-! # Values laid out by a directive

`Spec.apply` writes a value in the form a directive asks for: its digits in the kind's base or
with an exponent, its sign, and padding to the width. A directive may ask for more than there can
be: doubles are rounded to at most `maxPlaces` digits, and no text has more than `maxTextSize`
bytes. There is no text beyond these limits. -/

namespace Phrasebook.Format

open Number

/-- The most digits after the point that a double is rounded to. -/
def maxPlaces : Nat := 0xFFFF

/-- The most bytes of a text. -/
def maxTextSize : Nat := 0x7FFFFFFFFFFFFFFF

/-- A double without its sign, rounded to a number of decimal places. -/
def fixedFloat (count : Nat) (x : Binary64) : Option (List Char) :=
  if maxPlaces < count then none
  else some (match x with
    | .nan => "NaN".toList
    | .infinite _ => "inf".toList
    | .finite _ m e => withPoint (places m e count) count)

/-- A double without its sign, with an exponent: shortest digits, or rounded to a number of digits
after the first. -/
def exponentFloat (mark : Char) (count : Option Nat) (x : Binary64) : Option (List Char) :=
  if maxPlaces < count.getD 0 then none
  else some (match x with
    | .nan => "NaN".toList
    | .infinite _ => "inf".toList
    | .finite _ m e =>
        match count with
        | none => let (n, k) := shortest m e; exponential mark n k
        | some count =>
            if m = 0 then withPoint 0 count ++ [mark, '0']
            else let (n, k) := significant m e count; exponential mark n k)

namespace Spec

/-- The sign of a number that is not negative. -/
def plusSign (s : Spec) : List Char := if s.plus then ['+'] else []

/-- What stands between the sign and the digits of an integer. -/
def radixMark (s : Spec) : List Char :=
  if s.alternate then (s.kind.radixMark?.getD "").toList else []

/-- Digits of an integer in a base other than ten: the 64-bit pattern of a number that fits one,
signed or unsigned, and else its plain decimal. -/
def patternDigits (base : Nat) (uppercase : Bool) (n : Int) : List Char :=
  if -0x8000000000000000 ≤ n && n < 0x10000000000000000 then
    digits (base - 2) uppercase (n % 0x10000000000000000).toNat
  else decimalInt n

/-- Sign and digits of an integer. -/
def integerParts (s : Spec) (n : Int) : List Char × List Char :=
  let sign := if n < 0 then ['-'] else s.plusSign
  match s.kind with
  | .display => (sign, decimal n.natAbs)
  | .lowerExp => (sign, exponentialNat 'e' n.natAbs)
  | .upperExp => (sign, exponentialNat 'E' n.natAbs)
  | .lowerHex => (s.plusSign, patternDigits 16 false n)
  | .upperHex => (s.plusSign, patternDigits 16 true n)
  | .octal => (s.plusSign, patternDigits 8 false n)
  | .binary => (s.plusSign, patternDigits 2 false n)

/-- Digits of a double. -/
def floatDigits (s : Spec) (x : Binary64) : Option (List Char) :=
  match s.kind, s.precision with
  | .lowerExp, count => exponentFloat 'e' count x
  | .upperExp, count => exponentFloat 'E' count x
  | _, some count => fixedFloat count x
  | _, none => some (unsignedFloat x)

/-- Sign and digits of a double. What is no number has neither, whatever the directive asks for. -/
def floatParts (s : Spec) (x : Binary64) : Option (List Char × List Char) :=
  if x = .nan then some ([], "NaN".toList)
  else
    let sign := if x.isNegative then ['-'] else s.plusSign
    (s.floatDigits x).map fun digits => (sign, digits)

/-- Padding before and after a text, of `total` characters in all. -/
def sides (total : Nat) : Align → Nat × Nat
  | .left => (0, total)
  | .right => (total, 0)
  | .center => (total / 2, total - total / 2)

/-- A text can be padded with `missing` characters `fill`; if there are none it stays as it is. -/
def hasRoom (body : List Char) (missing : Nat) (fill : Char) : Bool :=
  missing == 0 || (String.ofList body).utf8ByteSize + missing * fill.utf8Size ≤ maxTextSize

/-- Pads a text to the width with the fill character. -/
def pad (s : Spec) (side : Align) (body : List Char) : Option (List Char) :=
  let missing := s.width.getD 0 - body.length
  let fill := s.fill.getD ' '
  if hasRoom body missing fill then
    let (before, after) := sides missing (s.align.getD side)
    some (List.replicate before fill ++ body ++ List.replicate after fill)
  else none

/-- Pads a number: with zeros after the sign and the base's mark, or like a text. -/
def padNumber (s : Spec) (sign mark digits : List Char) : Option (List Char) :=
  let body := sign ++ mark ++ digits
  if s.zero then
    let missing := s.width.getD 0 - body.length
    if hasRoom body missing '0' then
      some (sign ++ mark ++ List.replicate missing '0' ++ digits)
    else none
  else s.pad .right body

/-- A text cut to the precision. -/
def cut (s : Spec) (t : String) : List Char :=
  match s.precision with
  | some count => t.toList.take count
  | none => t.toList

/-- A value in the form a directive asks for. -/
def apply (s : Spec) : Value → Option (List Char)
  | .integer n => let (sign, digits) := s.integerParts n; s.padNumber sign s.radixMark digits
  | .float x => do
      let (sign, digits) ← s.floatParts x
      s.padNumber sign [] digits
  | .text t => s.pad .left (s.cut t)
  | .display t => s.pad .left (s.cut t)

end Spec

end Phrasebook.Format
