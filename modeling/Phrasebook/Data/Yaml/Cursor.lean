set_option autoImplicit false

/-! # A place in a text

A cursor is what is left of a text together with its line and column. Lines end with a line feed;
`Cursor.start` turns every other form of line end into one. -/

namespace Phrasebook.Data.Yaml

def isSpace (c : Char) : Bool := c = ' ' || c = '\t'

def isBreak (c : Char) : Bool := c = '\n'

/-- The marks that flow collections are made of. -/
def isFlowMark (c : Char) : Bool := c ∈ [',', '[', ']', '{', '}']

/-- What is next is a blank, a line end or the end of the text. -/
def isBlankOrEnd : Option Char → Bool
  | none => true
  | some c => isSpace c || isBreak c

/-- What is next is a line end or the end of the text. -/
def isLineEnd : Option Char → Bool
  | none => true
  | some c => isBreak c

/-- A place in a text. -/
structure Cursor where
  rest : List Char
  /-- The number of characters that are left. -/
  left : Nat
  line : Nat := 0
  column : Nat := 0
  index : Nat := 0
  /-- Only blanks stand before it on its line. -/
  fresh : Bool := true

namespace Cursor

/-- The text with every line end written as a line feed. -/
def unified : List Char → List Char
  | '\r' :: '\n' :: cs => '\n' :: unified cs
  | '\r' :: cs => '\n' :: unified cs
  | c :: cs => c :: unified cs
  | [] => []

/-- The start of a text; a mark of byte order in front is left out, and a null character ends it. -/
def start (s : String) : Cursor :=
  let cs := (unified s.toList).takeWhile (· ≠ '\x00')
  let rest := if cs.head? = some '\ufeff' then cs.drop 1 else cs
  { rest, left := rest.length }

def peek (c : Cursor) : Option Char := c.rest.head?

def peekSecond (c : Cursor) : Option Char := c.rest.tail.head?

def atEnd (c : Cursor) : Bool := c.rest.isEmpty

/-- The next character is `x`. -/
def isAt (c : Cursor) (x : Char) : Bool := c.peek = some x

/-- One character further. -/
def next (c : Cursor) : Cursor :=
  match c.rest with
  | [] => c
  | x :: rest =>
      if isBreak x then
        { rest, left := c.left - 1, line := c.line + 1, column := 0, index := c.index + 1,
          fresh := true }
      else
        { rest, left := c.left - 1, line := c.line, column := c.column + 1,
          index := c.index + 1, fresh := c.fresh && isSpace x }

/-- Characters as long as they satisfy `p`, and the place after them. -/
def span (p : Char → Bool) (c : Cursor) : List Char × Cursor := go p c c.rest
where
  go (p : Char → Bool) (c : Cursor) : List Char → List Char × Cursor
    | [] => ([], c)
    | x :: xs =>
        if p x then
          let (taken, c) := go p c.next xs
          (x :: taken, c)
        else ([], c)

def skipWhile (p : Char → Bool) (c : Cursor) : Cursor := (c.span p).2

/-- `n` characters further. -/
def advance (c : Cursor) : Nat → Cursor
  | 0 => c
  | n + 1 => c.next.advance n

/-- A marker of the given character stands here, alone in its line or followed by a blank. -/
def atMarker (mark : Char) (c : Cursor) : Bool :=
  c.rest.take 3 == [mark, mark, mark] && isBlankOrEnd (c.rest.drop 3).head?

/-- A marker that starts or ends a document stands here. -/
def atDocumentMarker (c : Cursor) : Bool :=
  c.column == 0 && (c.atMarker '-' || c.atMarker '.')

/-- Blanks and a comment up to the end of the line left out. A comment needs a blank before it. -/
def skipToLineEnd (c : Cursor) : Option Cursor :=
  let (blanks, c') := c.span isSpace
  if c'.isAt '#' then
    if blanks.isEmpty then none else some (c'.skipWhile (!isBreak ·))
  else some c'

end Cursor

end Phrasebook.Data.Yaml
