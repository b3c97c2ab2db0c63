import Phrasebook.Text.RangeSet

set_option autoImplicit false

/-! # Regular expressions as they are written

The tree of a regular expression, before flags are applied and names of characters are looked up. -/

namespace Phrasebook.Pattern

open Text

/-- A flag, which changes the meaning of what follows it. -/
inductive Flag where
  | ignoreCase
  | multiLine
  | dotAll
  | swapGreed
  /-- Characters are those of all scripts, not only of ASCII. -/
  | wide
  /-- A carriage return ends a line as well. -/
  | crlf
  /-- Blanks and comments mean nothing. -/
  | spaced
  deriving DecidableEq

/-- The flag of a letter. -/
def Flag.ofLetter? : Char → Option Flag
  | 'i' => some .ignoreCase
  | 'm' => some .multiLine
  | 's' => some .dotAll
  | 'U' => some .swapGreed
  | 'u' => some .wide
  | 'R' => some .crlf
  | 'x' => some .spaced
  | _ => none

/-- Flags that are set or cleared. -/
abbrev FlagChanges := List (Flag × Bool)

/-- A character as it is written. -/
structure Literal where
  char : Char
  /-- It is written as two hexadecimal digits, which may stand for a byte. -/
  isByte : Bool := false

/-- The classes with a letter of their own. -/
inductive Shorthand where
  | digit
  | space
  | word

/-- A class that a property of characters gives. -/
inductive PropertyQuery where
  | named (name : String)
  | valued (name value : String)

/-- A place in a text. -/
inductive Place where
  | lineStart
  | lineEnd
  | textStart
  | textEnd
  | wordBoundary
  | notWordBoundary
  | wordStart
  | wordEnd
  | wordStartHalf
  | wordEndHalf

/-- An operation on sets. -/
inductive SetOperation where
  | inter
  | diff
  | symmDiff

/-- A class in brackets. -/
inductive ClassSet where
  | empty
  | literal (l : Literal)
  | range (first last : Literal)
  | ascii (negated : Bool) (s : RangeSet)
  | shorthand (negated : Bool) (s : Shorthand)
  | property (negated : Bool) (q : PropertyQuery)
  | bracketed (negated : Bool) (c : ClassSet)
  | union (items : List ClassSet)
  | operation (o : SetOperation) (left right : ClassSet)

/-- A regular expression. -/
inductive Expression where
  | empty
  /-- Flags for all that follows in the same group. -/
  | flags (changes : FlagChanges)
  | literal (l : Literal)
  | dot
  | place (p : Place)
  | shorthand (negated : Bool) (s : Shorthand)
  | property (negated : Bool) (q : PropertyQuery)
  | bracketed (negated : Bool) (c : ClassSet)
  | times (e : Expression) (least : Nat) (most : Option Nat) (greedy : Bool)
  /-- A group whose match is kept under a number. -/
  | kept (number : Nat) (e : Expression)
  /-- A group with flags of its own. -/
  | group (changes : FlagChanges) (e : Expression)
  | alternatives (es : List Expression)
  | sequence (es : List Expression)

/-! ## Depth -/

namespace ClassSet

/-- A union of items; one item stands for itself. -/
def ofItems : List ClassSet → ClassSet
  | [] => .empty
  | [i] => i
  | items => .union items

mutual

/-- How deep brackets, unions and operations are nested. -/
def depth : ClassSet → Nat
  | .bracketed _ c => c.depth + 1
  | .union items => depthAll items + 1
  | .operation _ l r => max l.depth r.depth + 1
  | _ => 0

def depthAll : List ClassSet → Nat
  | [] => 0
  | c :: cs => max c.depth (depthAll cs)

end

end ClassSet

namespace Expression

/-- A sequence; one item stands for itself. -/
def ofItems : List Expression → Expression
  | [] => .empty
  | [e] => e
  | es => .sequence es

/-- Alternatives; one stands for itself. -/
def ofAlternatives : List Expression → Expression
  | [] => .empty
  | [e] => e
  | es => .alternatives es

mutual

/-- How deep an expression is nested. -/
def depth : Expression → Nat
  | .bracketed _ c => c.depth + 1
  | .times e _ _ _ => e.depth + 1
  | .kept _ e => e.depth + 1
  | .group _ e => e.depth + 1
  | .alternatives es => depthAll es + 1
  | .sequence es => depthAll es + 1
  | _ => 0

def depthAll : List Expression → Nat
  | [] => 0
  | e :: es => max e.depth (depthAll es)

end

end Expression

end Phrasebook.Pattern
