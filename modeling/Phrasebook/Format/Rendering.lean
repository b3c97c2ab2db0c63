import Phrasebook.Capability
import Phrasebook.Format.Layout

set_option autoImplicit false

/-! # How an argument becomes text

A directive decides, and without one the type does. The same `Rendering` is carried out on values
(`Rendering.render?`) and written as code. -/

namespace Phrasebook.Format

/-- How an argument becomes text. -/
inductive Rendering where
  | passThrough
  | integerToText
  | fixedFloat (places : Nat)
  | pattern (spec : Spec)
  | display
  deriving DecidableEq

/-- Decimal places of a float without a directive. -/
def defaultPlaces : Nat := 6

namespace Rendering

/-- What the code of a rendering relies on. -/
def capability : Rendering → Capability
  | .passThrough => .textBuffer
  | .integerToText => .integerToText
  | .fixedFloat _ => .floatToText
  | .pattern _ => .patternFormat
  | .display => .display

/-- The rendering of a type without a directive. -/
def ofType : ArgType → Rendering
  | .text => .passThrough
  | .integer => .integerToText
  | .float => .fixedFloat defaultPlaces
  | .display => .display
  | .custom _ => .display

/-- The rendering of an argument of a type under a directive, which has to suit it. -/
def resolve (type : ArgType) : Option String → Except Fault Rendering
  | none => .ok (ofType type)
  | some directive => do
      let spec ← Spec.parse directive.toList
      spec.check type
      return .pattern spec

/-- The text of a value. -/
def render? : Rendering → Value → Option String
  | .fixedFloat count, .float x =>
      (Format.fixedFloat count x).map fun digits => String.ofList (minusOf x ++ digits)
  | .pattern spec, v => (spec.apply v).map String.ofList
  | _, v => some v.plainText

end Rendering

end Phrasebook.Format
