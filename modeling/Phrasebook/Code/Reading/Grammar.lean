import Phrasebook.Code.Expression
import Phrasebook.Code.Reader

set_option autoImplicit false

/-! # The parts of a grammar

Types, expressions, patterns and blocks contain each other. Readers for one of them are therefore
given readers for what is one level deeper. -/

namespace Phrasebook.Code

/-- A pattern that was read. -/
structure PatternCode where
  code : Fragment
  /-- A literal, or the pattern for anything. -/
  isSmall : Bool := false

/-- Readers for what may be nested. -/
structure Grammar where
  /-- A type; the argument tells whether bounds joined by `+` are one. -/
  type : Bool → Reader TypeCode
  /-- A path of a type. -/
  path : Reader Path
  /-- An expression; the argument tells whether a structure value may start it. -/
  expression : Bool → Reader Expression
  /-- An expression without operators of two operands. -/
  operand : Bool → Reader Expression
  /-- The operators after an expression that bind at least as tightly as a given number. -/
  operators : Expression → Bool → Nat → Reader Expression
  /-- A pattern without alternatives. -/
  pattern : Reader PatternCode
  block : Reader BlockCode

namespace Grammar

/-- No level is left. -/
def empty : Grammar where
  type _ := failure
  path := failure
  expression _ := failure
  operand _ := failure
  operators _ _ _ := failure
  pattern := failure
  block := failure

end Grammar

namespace Reader

/-- Numbers can have a sign. -/
def isNumber (s : String) : Bool := s.toList.head?.any Char.isDigit

/-- Literals of which several stand on a line of an array: whole numbers, characters and bytes. -/
def isSimpleLiteral (s : String) : Bool :=
  let cs := s.toList
  match cs with
  | '\'' :: _ | 'b' :: '\'' :: _ => true
  | _ => isNumber s && (Literal.afterFloat cs).isNone

/-- A literal, if one is next, and whether it is simple. The sign of a number belongs to it if
`signed`. -/
def literal? (signed : Bool) : Reader (Option (Fragment × Bool)) := do
  match ← get with
  | .literal s :: rest => set rest; return some (.ofToken (.literal s), isSimpleLiteral s)
  | .word "true" :: rest => set rest; return some (.word "true", true)
  | .word "false" :: rest => set rest; return some (.word "false", true)
  | .mark '-' _ :: .literal s :: rest =>
      if signed && isNumber s then
        set rest
        return some (⟨[.mark '-' false, .literal s], [.word ("-" ++ s)]⟩, isSimpleLiteral s)
      else return none
  | _ => return none

end Reader

end Phrasebook.Code
