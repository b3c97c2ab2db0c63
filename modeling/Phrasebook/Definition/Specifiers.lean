import Phrasebook.Message.Basic
import Phrasebook.Text.Blank

set_option autoImplicit false

/-! # Specifiers

A specifier is the character by which a definition gives the type of an argument. -/

namespace Phrasebook.Definition

/-- The type with a name: one of the four that have one, or else a type of the program. -/
def typeNamed (raw : String) : ArgType :=
  match String.ofList (Text.trim raw.toList) with
  | "text" => .text
  | "integer" => .integer
  | "float" => .float
  | "display" => .display
  | path => .custom path

/-- The types of specifiers; of several for one character the first counts. -/
structure Specifiers where
  types : List (Char × ArgType) :=
    [('s', .text), ('d', .integer), ('f', .float), ('v', .display)]
  deriving DecidableEq

namespace Specifiers

def get? (s : Specifiers) (c : Char) : Option ArgType := s.types.lookup c

def insert (s : Specifiers) (c : Char) (t : ArgType) : Specifiers :=
  { types := (c, t) :: s.types }

end Specifiers

end Phrasebook.Definition
