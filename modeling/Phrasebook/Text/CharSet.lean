set_option autoImplicit false

/-! # Sets and maps of characters

Properties of characters are given by tables of *spans*, as numbers or in a short notation: `a-b` is
every code point from `a` to `b`, `a-b/k` every `k`-th of them, a single number itself; all numbers
are hexadecimal. A case table adds the image of the first code point of its span; the others move
along with it. -/

namespace Phrasebook.Text

/-- The code points `first, first + step, …` up to `last`. -/
structure Span where
  first : Nat
  last : Nat
  step : Nat := 1

/-- The value of a hexadecimal numeral. -/
def hexValue (digits : String) : Nat :=
  digits.toList.foldl (fun n c => 16 * n + (if c.isDigit then c.toNat - 48 else c.toNat - 55)) 0

namespace Span

def contains (s : Span) (n : Nat) : Bool :=
  s.first ≤ n && n ≤ s.last && (n - s.first) % s.step == 0

/-- Reads `a`, `a-b` or `a-b/k`. -/
def ofNotation (text : String) : Span :=
  let (range, step) := match text.splitOn "/" with
    | [range, step] => (range, hexValue step)
    | _ => (text, 1)
  match range.splitOn "-" with
  | [first, last] => ⟨hexValue first, hexValue last, step⟩
  | _ => ⟨hexValue range, hexValue range, step⟩

end Span

/-- The entries of a table. -/
def entries (rows : List String) : List String := rows.flatMap fun row => row.splitOn " "

/-- A set of characters, as a list of spans. -/
structure CharSet where
  spans : List Span

namespace CharSet

def contains (s : CharSet) (c : Char) : Bool := s.spans.any (·.contains c.toNat)

/-- The set of all characters between the bounds of a range, which belong to it. -/
def ofRanges (ranges : List (Nat × Nat)) : CharSet :=
  ⟨ranges.map fun (first, last) => ⟨first, last, 1⟩⟩

/-- The set whose spans are written in the rows of a table, one blank apart. -/
def ofNotation (rows : List String) : CharSet := ⟨(entries rows).map Span.ofNotation⟩

end CharSet

/-- A map on characters that shifts each of its spans as a whole. -/
structure CaseMap where
  shifts : List (Span × Nat)

namespace CaseMap

/-- The image of `c`, or `c` itself when no span holds it. -/
def apply (m : CaseMap) (c : Char) : Char :=
  match m.shifts.find? (fun (s, _) => s.contains c.toNat) with
  | some (s, target) => Char.ofNat (target + (c.toNat - s.first))
  | none => c

/-- The map that takes the first code point of each span to `target`. -/
def ofShifts (shifts : List (Nat × Nat × Nat × Nat)) : CaseMap :=
  ⟨shifts.map fun (first, last, step, target) => (⟨first, last, step⟩, target)⟩

/-- The map whose shifts `span:target` are written in the rows of a table, one blank apart. -/
def ofNotation (rows : List String) : CaseMap :=
  ⟨(entries rows).map fun entry =>
    match entry.splitOn ":" with
    | [span, target] => (Span.ofNotation span, hexValue target)
    | _ => (⟨0, 0, 1⟩, 0)⟩

/-- Mappings `c:t,u,…` of one character to several, one blank apart. -/
def expansionsOfNotation (rows : List String) : List (Char × List Char) :=
  (entries rows).map fun entry =>
    match entry.splitOn ":" with
    | [source, targets] =>
        (Char.ofNat (hexValue source), (targets.splitOn ",").map fun t => Char.ofNat (hexValue t))
    | _ => (Char.ofNat 0, [])

end CaseMap

end Phrasebook.Text
