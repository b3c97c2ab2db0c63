set_option autoImplicit false

/-! # Capabilities of the generated code

What a generated function relies on beyond plain text. A language's code collects the
capabilities it needs; some of them bring an import. -/

namespace Phrasebook

/-- Something a generated function relies on. -/
inductive Capability where
  | textBuffer
  | integerToText
  | floatToText
  | patternFormat
  | display
  deriving DecidableEq

namespace Capability

/-- All capabilities, in the order in which they are listed. -/
def all : List Capability := [.textBuffer, .integerToText, .floatToText, .patternFormat, .display]

def name : Capability → String
  | .textBuffer => "text-buffer"
  | .integerToText => "integer-to-text"
  | .floatToText => "float-to-text"
  | .patternFormat => "pattern-format"
  | .display => "display"

/-- Whether the code writes through the formatting machinery. -/
def writes : Capability → Bool
  | .textBuffer => false
  | .integerToText => false
  | _ => true

end Capability

/-- The path that code has to import to write formatted text into a buffer. -/
def formatImport : String := "::core::fmt::Write"

/-- A set of capabilities. It only grows. -/
structure Capabilities where
  holds : Capability → Bool

namespace Capabilities

def empty : Capabilities := ⟨fun _ => false⟩

def contains (s : Capabilities) (c : Capability) : Bool := s.holds c

/-- The set with one more member. -/
def insert (s : Capabilities) (c : Capability) : Capabilities := ⟨fun d => s.holds d || d == c⟩

def ofList (cs : List Capability) : Capabilities := cs.foldl insert empty

/-- The members, in the order in which capabilities are listed. -/
def toList (s : Capabilities) : List Capability := Capability.all.filter s.holds

def size (s : Capabilities) : Nat := s.toList.length

def isEmpty (s : Capabilities) : Bool := s.toList.isEmpty

/-- The paths to import. -/
def imports (s : Capabilities) : List String :=
  if s.toList.any Capability.writes then [formatImport] else []

end Capabilities

end Phrasebook
