import Phrasebook.Text.Blank

set_option autoImplicit false

/-! # Base 64

Bytes written as text: four digits stand for three bytes. The last group is filled up with `=`, and
the bits that it does not need are zero. Blanks among the digits mean nothing. -/

namespace Phrasebook.Data.Base64

/-- The value of a digit. -/
def digit? (c : Char) : Option Nat :=
  if c.isUpper then some (c.toNat - 65)
  else if c.isLower then some (c.toNat - 71)
  else if c.isDigit then some (c.toNat + 4)
  else if c = '+' then some 62
  else if c = '/' then some 63
  else none

/-- The bytes of groups of four digits. -/
def bytes? : List Char → Option (List UInt8)
  | [] => some []
  | [a, b, '=', '='] => do
      let x := 64 * (← digit? a) + (← digit? b)
      if x % 16 = 0 then some [(x / 16).toUInt8] else none
  | [a, b, c, '='] => do
      let x := 4096 * (← digit? a) + 64 * (← digit? b) + (← digit? c)
      if x % 4 = 0 then some [(x / 1024).toUInt8, (x / 4).toUInt8] else none
  | a :: b :: c :: d :: rest => do
      let x := 262144 * (← digit? a) + 4096 * (← digit? b) + 64 * (← digit? c) + (← digit? d)
      return (x / 65536).toUInt8 :: (x / 256).toUInt8 :: x.toUInt8 :: (← bytes? rest)
  | _ => none

/-- The text whose bytes are written. -/
def text? (s : String) : Option String := do
  let bytes ← bytes? (s.toList.filter fun c => !Text.isBlank c)
  String.fromUTF8? ⟨bytes.toArray⟩

end Phrasebook.Data.Base64
