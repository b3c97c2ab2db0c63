import Phrasebook.Message.Basic
import Phrasebook.Number.Shortest

set_option autoImplicit false

/-! # Argument values -/

namespace Phrasebook.Format

open Number

/-- The value of an argument. `display` is the text of a value that renders itself. -/
inductive Value where
  | text (text : String)
  | integer (n : Int)
  | float (x : Binary64)
  | display (text : String)
  deriving DecidableEq

/-- A double without its sign, shortest digits, never with an exponent. -/
def unsignedFloat : Binary64 → List Char
  | .nan => "NaN".toList
  | .infinite _ => "inf".toList
  | .finite _ m e => let (n, k) := shortest m e; positional n k

/-- The minus sign of a negative double; zero has one too. -/
def minusOf (x : Binary64) : List Char := if x.isNegative then ['-'] else []

namespace Value

/-- The name of the kind of a value. -/
def kind : Value → String
  | .text _ => "text"
  | .integer _ => "integer"
  | .float _ => "float"
  | .display _ => "display"

/-- The plain text of a value. -/
def plainText : Value → String
  | .text s => s
  | .display s => s
  | .integer n => String.ofList (decimalInt n)
  | .float x => String.ofList (minusOf x ++ unsignedFloat x)

/-- Whether an argument of a type takes the value. Arguments that only have to be displayable take
any. -/
def suits : Value → ArgType → Bool
  | .text _, .text => true
  | .integer _, .integer => true
  | .float _, .float => true
  | _, .display => true
  | _, .custom _ => true
  | _, _ => false

end Value

end Phrasebook.Format
