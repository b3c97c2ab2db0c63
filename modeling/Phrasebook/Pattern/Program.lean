import Phrasebook.Pattern.Footprint

set_option autoImplicit false

/-! # Matching regular expressions

A regular expression is laid out as a program of steps, and a text is matched by following all ways
through the program side by side, the preferred ones first. So of all matches the leftmost is
found, and among those the one that is preferred at every choice. -/

namespace Phrasebook.Pattern

open Text

/-- A step of a program; steps name those that follow by their numbers. -/
inductive Step where
  | take (s : RangeSet) (next : Nat)
  | check (word : RangeSet) (a : Condition) (next : Nat)
  /-- Goes both ways, preferring the first. -/
  | split (first second : Nat)
  /-- Keeps the place under a number. -/
  | mark (slot next : Nat)
  | accept

/-- A program and the step with which it starts. -/
structure Program where
  steps : Array Step
  start : Nat

/-! ## Layout -/

/-- What is laid out so far, and the step at which what was laid out last starts. -/
structure Layout where
  steps : Array Step
  entry : Nat

namespace Layout

def push (l : Layout) (s : Step) : Layout :=
  let here := l.steps.size
  { steps := l.steps.push s, entry := here }

/-- A way that prefers one step to another. -/
def choice (l : Layout) (greedy : Bool) (inner after : Nat) : Layout :=
  l.push (if greedy then .split inner after else .split after inner)

/-- Lays out a part that is repeated once or more. -/
def oneOrMore (greedy : Bool) (body : Layout → Layout) (l : Layout) : Layout :=
  let here := l.steps.size
  let after := l.entry
  let inner := body { steps := l.steps.push .accept, entry := here }
  let entry := inner.entry
  let back := if greedy then Step.split entry after else .split after entry
  { steps := inner.steps.setIfInBounds here back, entry }

/-- Lays out a part that is repeated any number of times. A part that may match nothing is entered
at most once without a character. -/
def zeroOrMore (greedy nonempty : Bool) (body : Layout → Layout) (l : Layout) : Layout :=
  let here := l.steps.size
  let after := l.entry
  let inner := oneOrMore greedy body l
  if nonempty then { inner with entry := here }
  else inner.choice greedy inner.entry after

/-- Lays out a part `n` times. -/
def repeated (body : Layout → Layout) : Nat → Layout → Layout
  | 0, l => l
  | n + 1, l => repeated body n (body l)

/-- Lays out a part that is repeated up to `n` times; each time the rest may be left out. -/
def upTo (greedy : Bool) (body : Layout → Layout) (after : Nat) : Nat → Layout → Layout
  | 0, l => l
  | n + 1, l =>
      let inner := body l
      upTo greedy body after n (inner.choice greedy inner.entry after)

end Layout

namespace Regex

/-- Lays out an expression before what is laid out already. -/
def layout : Regex → Layout → Layout
  | .empty, l => l
  | .set s, l => l.push (.take s l.entry)
  | .check w a, l => l.push (.check w a l.entry)
  | .group n r, l =>
      let inner := r.layout (l.push (.mark (2 * n + 1) l.entry))
      inner.push (.mark (2 * n) inner.entry)
  | .seq r s, l => r.layout (s.layout l)
  | .alt r s, l =>
      let after := l.entry
      let second := s.layout l
      let start := second.entry
      let first := r.layout { second with entry := after }
      first.push (.split first.entry start)
  | .times r 0 none greedy, l => l.zeroOrMore greedy r.isNonempty r.layout
  | .times r (n + 1) none greedy, l => .repeated r.layout n (l.oneOrMore greedy r.layout)
  | .times r least (some most) greedy, l =>
      .repeated r.layout least (l.upTo greedy r.layout l.entry (most - least))

/-- The program of an expression, unless its automata are too large. -/
def program? (r : Regex) : Option Program :=
  if r.isSmall then
    let l := r.layout { steps := #[.accept], entry := 0 }
    some { steps := l.steps, start := l.entry }
  else none

end Regex

/-! ## Matching -/

/-- The places kept on a way, the latest first. -/
abbrev Marks := List (Nat × Nat)

/-- A way through the program: the step it has come to, and the places kept. -/
structure Way where
  step : Nat
  marks : Marks := []

namespace Program

/-- The steps that ways lead to without a character, each step once. `reached` says which have been
reached. -/
def close (p : Program) (before after : Option Char) (place : Nat) :
    Nat → Array Bool → List Way → List Way
  | 0, _, _ => []
  | _ + 1, _, [] => []
  | fuel + 1, reached, w :: ws =>
      if (reached[w.step]?).getD true then p.close before after place fuel reached ws
      else
        let go := p.close before after place fuel (reached.setIfInBounds w.step true)
        match p.steps[w.step]? with
        | some (.check c a next) =>
            if a.holds c before after then go ({ w with step := next } :: ws) else go ws
        | some (.split first second) =>
            go ({ w with step := first } :: { w with step := second } :: ws)
        | some (.mark slot next) => go ({ step := next, marks := (slot, place) :: w.marks } :: ws)
        | some _ => w :: go ws
        | none => go ws

/-- Closes ways from a state in which nothing has been reached. Each step leads on to two others
at most, so that this many are met. -/
def closeAll (p : Program) (before after : Option Char) (place : Nat) (ws : List Way) : List Way :=
  p.close before after place (2 * p.steps.size + ws.length + 1)
    (Array.replicate p.steps.size false) ws

/-- Takes a character on all ways. A way that is accepted ends those after it, and its marks are
given. -/
def advance (p : Program) (c : Option Char) : List Way → List Way × Option Marks
  | [] => ([], none)
  | w :: ws =>
      match p.steps[w.step]? with
      | some .accept => ([], some w.marks)
      | some (.take k next) =>
          let (rest, found) := p.advance c ws
          if c.any k.contains then ({ w with step := next } :: rest, found) else (rest, found)
      | _ => p.advance c ws

/-- Follows ways through a text. As long as nothing is found, a match may start at any place. -/
def search (p : Program) (before : Option Char) (place : Nat) (ways : List Way)
    (found : Option Marks) : List Char → Option Marks
  | [] =>
      let ways := if found.isSome then ways else ways ++ [{ step := p.start }]
      ((p.advance none (p.closeAll before none place ways)).2).or found
  | c :: cs =>
      let ways := if found.isSome then ways else ways ++ [{ step := p.start }]
      let (ways, now) := p.advance (some c) (p.closeAll before (some c) place ways)
      p.search (some c) (place + 1) ways (now.or found) cs

/-- The places kept in the match of a text. -/
def matchText (p : Program) (cs : List Char) : Option Marks := p.search none 0 [] none cs

end Program

/-- The text of a group in a match. -/
def groupText? (cs : List Char) (m : Marks) (number : Nat) : Option String := do
  let first ← m.lookup (2 * number)
  let last ← m.lookup (2 * number + 1)
  return String.ofList ((cs.take last).drop first)

end Phrasebook.Pattern
