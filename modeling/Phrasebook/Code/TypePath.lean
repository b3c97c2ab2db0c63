import Phrasebook.Code.Reading.Expression

set_option autoImplicit false

/-! # Type paths

The path of a type of the program that localizers are generated for: names separated by `::`, each
with type arguments if need be. -/

namespace Phrasebook.Code

/-- A type path that was read. -/
structure TypePath where
  code : Fragment
  /-- It can stand where a type is expected. -/
  isType : Bool

namespace TypePath

/-- A path whose first name is the reserved word `try` is one, but it does not start a type. -/
def ofPath (p : Path) : TypePath where
  code := p.code false
  isType := p.leading || (p.segments.head?.map (·.name)) != some "try"

/-- The type path that a text is. -/
def read? (s : String) : Option TypePath := do
  let tokens ← Token.tokens? s
  let (p, rest) ← (Grammar.level (2 * tokens.length + 2)).path.run tokens
  if rest.isEmpty then some (ofPath p) else none

end TypePath

end Phrasebook.Code
