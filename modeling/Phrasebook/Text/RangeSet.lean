import Phrasebook.Text.CharSet

set_option autoImplicit false

/-! # Sets of code points as ranges

A set of code points, kept as ranges in rising order that neither overlap nor touch. With the
complement and the union, all other operations on sets are given. -/

namespace Phrasebook.Text

/-- A set of code points; each range is given by its first and its last one. -/
structure RangeSet where
  ranges : List (Nat × Nat)
  deriving DecidableEq, Repr

namespace RangeSet

/-- The greatest code point. -/
def maxCode : Nat := 0x10FFFF

def empty : RangeSet := ⟨[]⟩

def range (first last : Nat) : RangeSet := ⟨[(first, last)]⟩

def all : RangeSet := range 0 maxCode

/-- The code points that are no characters but halves of pairs. -/
def surrogates : RangeSet := range 0xD800 0xDFFF

def singleton (c : Char) : RangeSet := range c.toNat c.toNat

def isEmpty (s : RangeSet) : Bool := s.ranges.isEmpty

def containsCode (s : RangeSet) (n : Nat) : Bool := s.ranges.any fun (a, b) => a ≤ n && n ≤ b

def contains (s : RangeSet) (c : Char) : Bool := s.containsCode c.toNat

/-- Joins ranges in the order of their first code points: the range `(a, b)` is taken together with
all that start in it or next to it. -/
def joined (a b : Nat) : List (Nat × Nat) → List (Nat × Nat)
  | [] => [(a, b)]
  | (c, d) :: rs => if c ≤ b + 1 then joined a (max b d) rs else (a, b) :: joined c d rs

/-- The set of the code points in any of some ranges. -/
def ofRanges (rs : List (Nat × Nat)) : RangeSet :=
  match rs.mergeSort fun r s => r.1 ≤ s.1 with
  | [] => empty
  | (a, b) :: rs => ⟨joined a b rs⟩

def union (s t : RangeSet) : RangeSet := ofRanges (s.ranges ++ t.ranges)

/-- The gaps between ranges, from a code point on. -/
def gaps (start : Nat) : List (Nat × Nat) → List (Nat × Nat)
  | [] => if start ≤ maxCode then [(start, maxCode)] else []
  | (a, b) :: rs => if start < a then (start, a - 1) :: gaps (b + 1) rs else gaps (b + 1) rs

def compl (s : RangeSet) : RangeSet := ⟨gaps 0 s.ranges⟩

def inter (s t : RangeSet) : RangeSet := (s.compl.union t.compl).compl

def diff (s t : RangeSet) : RangeSet := s.inter t.compl

def symmDiff (s t : RangeSet) : RangeSet := (s.diff t).union (t.diff s)

/-- Every code point of the set is one of ASCII. -/
def isAscii (s : RangeSet) : Bool := s.ranges.all fun (_, b) => b < 0x80

/-! ## Tables -/

/-- The ranges of a span. -/
def spanRanges (s : Span) : List (Nat × Nat) :=
  if s.step ≤ 1 then [(s.first, s.last)]
  else
    (List.range ((s.last - s.first) / s.step + 1)).map fun k =>
      (s.first + k * s.step, s.first + k * s.step)

/-- The set whose spans are written in the rows of a table. -/
def ofNotation (rows : List String) : RangeSet :=
  ofRanges ((CharSet.ofNotation rows).spans.flatMap spanRanges)

end RangeSet

end Phrasebook.Text
