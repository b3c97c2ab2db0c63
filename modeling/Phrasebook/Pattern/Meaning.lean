import Phrasebook.Pattern.Expression
import Phrasebook.Pattern.Regex
import Phrasebook.Text.Property
import Phrasebook.Text.Property.Folding

set_option autoImplicit false

/-! # The meaning of regular expressions

Flags are applied, and classes become sets of characters. Where characters are those of ASCII, a
class that holds others could cut a character in two, and has no meaning. -/

namespace Phrasebook.Pattern

open Text

/-- The flags in force. -/
structure Flags where
  ignoreCase : Bool := false
  multiLine : Bool := false
  dotAll : Bool := false
  swapGreed : Bool := false
  wide : Bool := true
  crlf : Bool := false

namespace Flags

def set (f : Flags) : Flag → Bool → Flags
  | .ignoreCase, v => { f with ignoreCase := v }
  | .multiLine, v => { f with multiLine := v }
  | .dotAll, v => { f with dotAll := v }
  | .swapGreed, v => { f with swapGreed := v }
  | .wide, v => { f with wide := v }
  | .crlf, v => { f with crlf := v }
  | .spaced, _ => f

def change (f : Flags) (changes : FlagChanges) : Flags :=
  changes.foldl (fun f (flag, v) => f.set flag v) f

/-! ## Sets -/

/-- A set as the flag for case asks. -/
def folded (f : Flags) (s : RangeSet) : RangeSet :=
  if !f.ignoreCase then s
  else if f.wide then Folding.close s
  else Folding.closeAscii s

/-- A set or what is not in it. Case is ignored first. -/
def foldedOrNot (f : Flags) (negated : Bool) (s : RangeSet) : Option RangeSet :=
  let s := f.folded s
  let s := if negated then s.compl else s
  if f.wide || s.isAscii then some s else none

def asciiDigit : RangeSet := .range 0x30 0x39

def asciiSpace : RangeSet := .ofRanges [(0x09, 0x0D), (0x20, 0x20)]

def asciiWord : RangeSet := .ofRanges [(0x30, 0x39), (0x41, 0x5A), (0x5F, 0x5F), (0x61, 0x7A)]

/-- The characters of words. -/
def word (f : Flags) : RangeSet := if f.wide then BinaryProperty.word else asciiWord

/-- The characters of a class with a letter of its own. -/
def shorthand (f : Flags) : Shorthand → RangeSet
  | .digit => if f.wide then Category.set .decimalNumber else asciiDigit
  | .space => if f.wide then ListedProperty.set .whiteSpace else asciiSpace
  | .word => f.word

def shorthand? (f : Flags) (negated : Bool) (s : Shorthand) : Option RangeSet :=
  if !negated then some (f.shorthand s)
  else if f.wide then some (f.shorthand s).compl
  else none

/-- The characters with a property. -/
def property? (f : Flags) (negated : Bool) (q : PropertyQuery) : Option RangeSet := do
  if !f.wide then none
  let s ← match q with
    | .named name => Property.ofName? name
    | .valued name value => Property.ofValue? name value
  f.foldedOrNot negated s

/-- A character. One that is written as a byte has to be of ASCII where all are. -/
def char? (f : Flags) (l : Literal) : Option Char :=
  if !f.wide && l.isByte && l.char.toNat ≥ 0x80 then none else some l.char

/-- A character in a class. -/
def classChar? (f : Flags) (l : Literal) : Option Char :=
  if !f.wide && l.char.toNat ≥ 0x80 then none else some l.char

end Flags

def SetOperation.apply : SetOperation → RangeSet → RangeSet → RangeSet
  | .inter => RangeSet.inter
  | .diff => RangeSet.diff
  | .symmDiff => RangeSet.symmDiff

namespace ClassSet

mutual

/-- The characters of a class. -/
def chars? (f : Flags) : ClassSet → Option RangeSet
  | .empty => some .empty
  | .literal l => do return .singleton (← f.classChar? l)
  | .range a b => do return .range (← f.classChar? a).toNat (← f.classChar? b).toNat
  | .ascii negated s => f.foldedOrNot negated s
  | .shorthand negated s => f.shorthand? negated s
  | .property negated q => f.property? negated q
  | .bracketed negated c => do f.foldedOrNot negated (← c.chars? f)
  | .union items => charsAll? f items
  | .operation o l r => do return o.apply (f.folded (← l.chars? f)) (f.folded (← r.chars? f))

def charsAll? (f : Flags) : List ClassSet → Option RangeSet
  | [] => some .empty
  | c :: cs => do return (← c.chars? f).union (← charsAll? f cs)

end

end ClassSet

namespace Flags

/-- What a dot stands for. -/
def dot? (f : Flags) : Option RangeSet :=
  if !f.wide then none
  else if f.dotAll then some .all
  else if f.crlf then some (RangeSet.ofRanges [(0x0A, 0x0A), (0x0D, 0x0D)]).compl
  else some (RangeSet.singleton '\n').compl

/-- The condition of a place. -/
def condition (f : Flags) : Place → Condition
  | .lineStart => if f.multiLine then .lineStart f.crlf else .textStart
  | .lineEnd => if f.multiLine then .lineEnd f.crlf else .textEnd
  | .textStart => .textStart
  | .textEnd => .textEnd
  | .wordBoundary => .wordBoundary
  | .notWordBoundary => .notWordBoundary
  | .wordStart => .wordStart
  | .wordEnd => .wordEnd
  | .wordStartHalf => .wordStartHalf
  | .wordEndHalf => .wordEndHalf

end Flags

namespace Expression

mutual

/-- The meaning of an expression under flags, and the flags after it. -/
def meaning? (f : Flags) : Expression → Option (Regex × Flags)
  | .empty => some (.empty, f)
  | .flags changes => some (.empty, f.change changes)
  | .literal l => do
      let s := f.folded (.singleton (← f.char? l))
      return (.set s, f)
  | .dot => do return (.set (← f.dot?), f)
  | .place p => some (.check f.word (f.condition p), f)
  | .shorthand negated s => do return (.set (← f.shorthand? negated s), f)
  | .property negated q => do return (.set (← f.property? negated q), f)
  | .bracketed negated c => do return (.set (← f.foldedOrNot negated (← c.chars? f)), f)
  | .times e least most greedy => do
      let (r, f) ← e.meaning? f
      return (r.repeated least most (greedy != f.swapGreed), f)
  | .kept n e => do
      let (r, _) ← e.meaning? f
      return (.group n r, f)
  | .group changes e => do
      let (r, _) ← e.meaning? (f.change changes)
      return (r, f)
  | .alternatives es => alternatives? f es
  | .sequence es => sequence? f es

def sequence? (f : Flags) : List Expression → Option (Regex × Flags)
  | [] => some (.empty, f)
  | e :: es => do
      let (r, f) ← e.meaning? f
      let (s, f) ← sequence? f es
      return (r.followedBy s, f)

def alternatives? (f : Flags) : List Expression → Option (Regex × Flags)
  | [] => some (.empty, f)
  | [e] => e.meaning? f
  | e :: es => do
      let (r, f) ← e.meaning? f
      let (s, f) ← alternatives? f es
      return (.alt r s, f)

end

end Expression

end Phrasebook.Pattern
