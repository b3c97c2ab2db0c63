import Phrasebook.Text.RangeSet

set_option autoImplicit false

/-! # Regular expressions by their meaning -/

namespace Phrasebook.Pattern

open Text

/-- A condition on the characters before and after a place. -/
inductive Condition where
  | textStart
  | textEnd
  /-- The start of a line, which a carriage return may end as well. -/
  | lineStart (crlf : Bool)
  | lineEnd (crlf : Bool)
  | wordBoundary
  | notWordBoundary
  | wordStart
  | wordEnd
  | wordStartHalf
  | wordEndHalf
  deriving DecidableEq

namespace Condition

/-- Whether the condition holds between two characters; at either end of the text there is none.
Words are made of the characters in `word`. -/
def holds (word : RangeSet) (a : Condition) (before after : Option Char) : Bool :=
  let inBefore := before.any word.contains
  let inAfter := after.any word.contains
  match a with
  | .textStart => before.isNone
  | .textEnd => after.isNone
  | .lineStart false => before.all (· = '\n')
  | .lineEnd false => after.all (· = '\n')
  | .lineStart true => before.all fun c => c = '\n' || (c = '\r' && after ≠ some '\n')
  | .lineEnd true => after.all fun c => c = '\r' || (c = '\n' && before ≠ some '\r')
  | .wordBoundary => inBefore != inAfter
  | .notWordBoundary => inBefore == inAfter
  | .wordStart => !inBefore && inAfter
  | .wordEnd => inBefore && !inAfter
  | .wordStartHalf => !inBefore
  | .wordEndHalf => !inAfter

end Condition

/-- A regular expression. Of the ways in which it can match, those listed first are preferred. -/
inductive Regex where
  | empty
  | set (s : RangeSet)
  | check (word : RangeSet) (a : Condition)
  /-- A group whose match is kept under a number. -/
  | group (number : Nat) (r : Regex)
  | seq (r s : Regex)
  | alt (r s : Regex)
  /-- At least `least` and at most `most` times, as often as possible or as rarely. -/
  | times (r : Regex) (least : Nat) (most : Option Nat) (greedy : Bool)

namespace Regex

/-- Every text that matches has a character. -/
def isNonempty : Regex → Bool
  | .empty => false
  | .set s => !s.isEmpty
  | .check _ _ => false
  | .group _ r => r.isNonempty
  | .seq r s => r.isNonempty || s.isNonempty
  | .alt r s => r.isNonempty && s.isNonempty
  | .times r least _ _ => 0 < least && r.isNonempty

/-- No text that matches has a character. -/
def isBlank : Regex → Bool
  | .empty => true
  | .set _ => false
  | .check _ _ => true
  | .group _ r => r.isBlank
  | .seq r s => r.isBlank && s.isBlank
  | .alt r s => r.isBlank && s.isBlank
  | .times r _ most _ => most = some 0 || r.isBlank

/-- The greatest number of a group. -/
def lastGroup : Regex → Nat
  | .group n r => max n r.lastGroup
  | .seq r s => max r.lastGroup s.lastGroup
  | .alt r s => max r.lastGroup s.lastGroup
  | .times r _ _ _ => r.lastGroup
  | _ => 0

/-- One expression after another. -/
def followedBy : Regex → Regex → Regex
  | .empty, s => s
  | r, .empty => r
  | r, s => .seq r s

/-- A repetition. What has no characters is not repeated, what is repeated no times is nothing, and
what is repeated once is itself. -/
def repeated (r : Regex) (least : Nat) (most : Option Nat) (greedy : Bool) : Regex :=
  let (least, most) :=
    if r.isBlank then (min least 1, some (most.elim 1 (min · 1))) else (least, most)
  if least = 0 && most = some 0 then .empty
  else if least = 1 && most = some 1 then r
  else .times r least most greedy

end Regex

end Phrasebook.Pattern
