import Phrasebook.Pattern.Regex

set_option autoImplicit false

/-! # The size of an automaton

How much room the automaton of a regular expression takes, over the bytes of texts, for matching
forwards and for matching backwards. Expressions whose automata are too large are refused.

An automaton is built state by state. A state takes 32 units, each of its transitions over a range
of bytes 8 more, and each of its ways to other states without a byte 4 more. -/

namespace Phrasebook.Pattern

open Text

/-! ## Bytes -/

/-- The bytes of a code point. -/
def codeBytes (n : Nat) : List Nat :=
  if n < 0x80 then [n]
  else if n < 0x800 then [0xC0 + n / 0x40, 0x80 + n % 0x40]
  else if n < 0x10000 then [0xE0 + n / 0x1000, 0x80 + n / 0x40 % 0x40, 0x80 + n % 0x40]
  else
    [0xF0 + n / 0x40000, 0x80 + n / 0x1000 % 0x40, 0x80 + n / 0x40 % 0x40, 0x80 + n % 0x40]

/-- A row of ranges of bytes. -/
abbrev ByteRow := List (Nat × Nat)

/-- Code points at which a range is cut: around the surrogates, and where the number of bytes
changes. -/
def lengthLimits : List Nat := [0x80, 0x800, 0x10000]

/-- Where a range of code points with equally many bytes has to be cut, so that each part is a row
of ranges of bytes: the first code point of the second part. -/
def cut? (a b : Nat) : List Nat → Option Nat
  | [] => none
  | m :: ms =>
      if a / m = b / m then cut? a b ms
      else if a % m ≠ 0 then some ((a / m + 1) * m)
      else if b % m ≠ m - 1 then some (b / m * m)
      else cut? a b ms

/-- The rows of bytes of the code points from `a` to `b`. -/
def byteRows : Nat → Nat → Nat → List ByteRow
  | 0, _, _ => []
  | fuel + 1, a, b =>
      if b < a then []
      else if a < 0xE000 && 0xD800 ≤ b then
        (if a < 0xD800 then byteRows fuel a 0xD7FF else []) ++
          (if 0xE000 ≤ b then byteRows fuel 0xE000 b else [])
      else match lengthLimits.find? fun m => a < m && m ≤ b with
        | some m => byteRows fuel a (m - 1) ++ byteRows fuel m b
        | none =>
            if b < 0x80 then [[(a, b)]]
            else match cut? a b [0x40, 0x1000, 0x40000] with
              | some m => byteRows fuel a (m - 1) ++ byteRows fuel m b
              | none => [(codeBytes a).zip (codeBytes b)]

/-- The rows of bytes of a set. -/
def setRows (s : RangeSet) : List ByteRow := s.ranges.flatMap fun (a, b) => byteRows 64 a b

/-! ## Building -/

/-- What has been built: the number of states, and the room for their transitions and ways. -/
structure Footprint where
  states : Nat := 0
  links : Nat := 0

namespace Footprint

def size (f : Footprint) : Nat := 32 * f.states + f.links

/-- The greatest size of an automaton. -/
def maxSize : Nat := 10 * 1024 * 1024

/-- Building; `none` if the automaton gets too large. -/
abbrev Builder := StateT Footprint Option

/-- Adds a state with the given number of transitions over bytes; its number. -/
def addState (transitions : Nat) : Builder Nat := do
  let f ← get
  let f' : Footprint := { states := f.states + 1, links := f.links + 8 * transitions }
  if maxSize < f'.size then failure
  set f'
  return f.states

/-- Leads on from a state; from a branching one this takes a way more. -/
def lead (branching : Bool) : Builder Unit := do
  if branching then
    let f ← get
    let f' : Footprint := { f with links := f.links + 4 }
    if maxSize < f'.size then failure
    set f'

/-- A part of an automaton: its first and its last state, and whether the last one branches. -/
structure Piece where
  first : Nat
  last : Nat
  branching : Bool := false

/-- One state that is first and last. -/
def single (branching : Bool) : Builder Piece := do
  let n ← addState 0
  return ⟨n, n, branching⟩

/-- A row of bytes, one after another. -/
def byteStates : Nat → Builder Piece
  | 0 => single false
  | n + 1 => do
      let p ← single false
      if n = 0 then return p
      let q ← byteStates n
      return ⟨p.first, q.last, false⟩

/-! ## Sets of characters -/

/-- The number of a place in a table that keeps what was built, found by mixing numbers. -/
def slot (size : Nat) (key : List Nat) : Nat :=
  let mixed := key.foldl (fun (h : UInt64) n => (h ^^^ n.toUInt64) * 1099511628211)
    14695981039346656037
  mixed.toNat % size

/-- A table that keeps what was built, one key for each place. -/
abbrev Memo := Array (Option (List Nat × Nat))

namespace Memo

def empty (size : Nat) : Memo := Array.replicate size none

def get? (m : Memo) (key : List Nat) : Option Nat :=
  match m[slot m.size key]? with
  | some (some (k, n)) => if k = key then some n else none
  | _ => none

def set (m : Memo) (key : List Nat) (n : Nat) : Memo :=
  m.setIfInBounds (slot m.size key) (some (key, n))

end Memo

/-- A range of bytes that leads to a state. -/
structure Arrow where
  low : Nat
  high : Nat
  target : Nat

/-- A state with given arrows; one that has been built already is used again. -/
def shared (m : Memo) (arrows : List Arrow) : Builder (Nat × Memo) := do
  let key := arrows.flatMap fun a => [a.low, a.high, a.target]
  match m.get? key with
  | some n => return (n, m)
  | none =>
      let n ← addState arrows.length
      return (n, m.set key n)

/-- A state that is not built yet: its arrows, and the range of the one whose target is open. -/
structure Open where
  arrows : List Arrow := []
  last : Option (Nat × Nat) := none

/-- The open arrow leads to a state. -/
def Open.close (o : Open) (target : Nat) : List Arrow :=
  match o.last with
  | some (low, high) => o.arrows ++ [⟨low, high, target⟩]
  | none => o.arrows

/-- Builds the states of a path, the deepest first, until `keep` are left; the deepest of them gets
its target. -/
def buildPath (keep : Nat) : Nat → List Open → Nat → Memo → Builder (List Open × Memo)
  | 0, path, _, m => return (path, m)
  | fuel + 1, path, target, m =>
      match path with
      | [] => return ([], m)
      | o :: outer => do
          if outer.length ≥ keep then
            let (n, m) ← shared m (o.close target)
            buildPath keep fuel outer n m
          else return ({ arrows := o.close target, last := none } :: outer, m)

/-- The number of ranges that a row has in common with the open arrows of a path. -/
def common : ByteRow → List Open → Nat
  | r :: row, o :: path => if o.last = some r then common row path + 1 else 0
  | _, _ => 0

/-- Adds a row to a path, the deepest state of which is the first. -/
def addRow (target : Nat) (path : List Open) (m : Memo) (row : ByteRow) :
    Builder (List Open × Memo) := do
  let n := common row path.reverse
  let (path, m) ← buildPath (n + 1) (path.length + 1) path target m
  match row.drop n, path with
  | r :: more, o :: outer =>
      let path := { o with last := some r } :: outer
      return (more.foldl (fun path r => { last := some r } :: path) path, m)
  | _, _ => return (path, m)

/-- A set, for matching forwards: rows with equal ends share states. -/
def forwardSet (s : RangeSet) : Builder Piece := do
  let target ← addState 0
  let (path, m) ← (setRows s).foldlM
    (fun (path, m) row => addRow target path m row) ([{}], Memo.empty 10000)
  let (path, m) ← buildPath 1 (path.length + 1) path target m
  let (first, _) ← shared m (path.head?.elim [] (·.arrows))
  return ⟨first, target, false⟩

/-- A set, for matching backwards: each row is a way of its own, and rows with equal starts share
states as long as they are kept. -/
def backwardSet (s : RangeSet) : Builder Piece := do
  let branch ← addState 0
  let target ← addState 0
  let _ ← (setRows s).foldlM (addWay target) (Memo.empty 1000)
  return ⟨branch, target, false⟩
where
  /-- A row as a way to the target, from its last byte to its first. -/
  addWay (target : Nat) (m : Memo) (row : ByteRow) : Builder Memo := do
    let (_, m) ← row.foldlM addByte (target, m)
    lead true
    return m
  addByte (reached : Nat × Memo) (r : Nat × Nat) : Builder (Nat × Memo) := do
    let key := [reached.1, r.1, r.2]
    match reached.2.get? key with
    | some n => return (n, reached.2)
    | none =>
        let n ← addState 0
        return (n, reached.2.set key n)

/-- A set of characters. One character is a row of bytes; a set of ASCII needs one state. -/
def setPiece (backward : Bool) (s : RangeSet) : Builder Piece :=
  match s.ranges with
  | [(a, b)] =>
      if a = b then byteStates (codeBytes a).length else general
  | _ => general
where
  general : Builder Piece := do
    if s.isAscii then
      let last ← addState 0
      let first ← addState s.ranges.length
      return ⟨first, last, false⟩
    else if backward then backwardSet s
    else forwardSet s

/-! ## Expressions -/

/-- A part built as often as given, after another piece. -/
def severalAfter (body : Builder Piece) : Nat → Piece → Builder Piece
  | 0, p => return p
  | n + 1, p => do
      let q ← body
      lead p.branching
      severalAfter body n ⟨p.first, q.last, q.branching⟩

/-- A part built as often as given, one after another. -/
def several (body : Builder Piece) : Nat → Builder Piece
  | 0 => single false
  | n + 1 => do severalAfter body n (← body)

/-- A part that is repeated once or more. -/
def oneOrMore (body : Builder Piece) : Builder Piece := do
  let p ← body
  let branch ← addState 0
  lead p.branching
  lead true
  return ⟨p.first, branch, true⟩

/-- A part that is repeated any number of times. -/
def zeroOrMore (nonempty : Bool) (body : Builder Piece) : Builder Piece := do
  if nonempty then
    let branch ← addState 0
    let p ← body
    lead true
    lead p.branching
    return ⟨branch, branch, true⟩
  else
    let p ← body
    let _ ← addState 0
    lead p.branching
    lead true
    let entry ← addState 0
    let last ← addState 0
    lead true
    lead true
    lead true
    return ⟨entry, last, false⟩

/-- A part that is repeated up to `n` times, after a state. -/
def optional (body : Builder Piece) : Nat → Piece → Builder Piece
  | 0, before => do
      lead before.branching
      return before
  | n + 1, before => do
      let branch ← addState 0
      let p ← body
      lead before.branching
      lead true
      lead true
      optional body n ⟨branch, p.last, p.branching⟩

/-- Builds an expression. -/
def build (backward : Bool) : Regex → Builder Piece
  | .empty => single false
  | .set s => setPiece backward s
  | .check _ _ => single false
  | .group _ r => do
      if backward then build backward r
      else
        let first ← addState 0
        let p ← build backward r
        let last ← addState 0
        lead p.branching
        return ⟨first, last, false⟩
  | .seq r s => do
      let (p, q) ←
        if backward then do
          let p ← build backward s
          pure (p, ← build backward r)
        else do
          let p ← build backward r
          pure (p, ← build backward s)
      lead p.branching
      return ⟨p.first, q.last, q.branching⟩
  | .alt r s => do
      let first ← addState 0
      let p ← build backward r
      let q ← build backward s
      let last ← addState 0
      lead true
      lead true
      lead p.branching
      lead q.branching
      return ⟨first, last, false⟩
  | .times r least none _ =>
      match least with
      | 0 => zeroOrMore r.isNonempty (build backward r)
      | 1 => oneOrMore (build backward r)
      | n + 2 => do
          let p ← several (build backward r) (n + 1)
          let q ← oneOrMore (build backward r)
          lead p.branching
          return ⟨p.first, q.last, true⟩
  | .times r least (some most) _ => do
      let p ← several (build backward r) least
      if most ≤ least then return p
      let last ← addState 0
      let _ ← optional (build backward r) (most - least) p
      return ⟨p.first, last, false⟩

/-- The automaton of an expression that is to be matched in one direction fits. -/
def fits (backward : Bool) (r : Regex) : Bool :=
  ((do
    let _ ← addState 0
    let _ ← build backward (.group 0 r)
    addState 0 : Builder Nat) {}).isSome

end Footprint

/-- The automata of an expression are not too large. -/
def Regex.isSmall (r : Regex) : Bool := Footprint.fits false r && Footprint.fits true r

end Phrasebook.Pattern
