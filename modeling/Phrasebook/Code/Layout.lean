set_option autoImplicit false

/-! # Breaking lines

Code to be laid out is a list of words, possible line ends and boxes of these. A box whose text
does not fit in the space that is left of its line is opened. In an opened box of the consistent
kind every possible line end is taken; in the other kind only those are, after which the text up
to the next one would not fit. Widths are counted in bytes of UTF-8. -/

namespace Phrasebook.Code

/-- A place where a line may end. -/
structure Break where
  /-- Blanks written when the line does not end here. -/
  blank : Nat := 0
  /-- Added to the indentation of the next line. -/
  offset : Int := 0
  /-- Written before the line end. -/
  before : String := ""
  /-- Written at the start of the next line. -/
  after : String := ""
  /-- Written when the line does not end here. -/
  unbroken : String := ""
  /-- The line never ends here. -/
  never : Bool := false
  /-- Dropped at the end of a box. -/
  ifFollowed : Bool := false

/-- Text to be laid out. -/
inductive Doc where
  | word (text : String)
  | brk (b : Break)
  | box (offset : Int) (consistent : Bool) (content : List Doc)
  /-- Nothing, but no line has room for it. -/
  | strut

namespace Doc

/-- The number of columns of a line. -/
def margin : Int := 89

/-- The space that is granted however deep the indentation is. -/
def leastSpace : Int := 60

/-- Columns of one level of indentation. -/
def indentStep : Int := 4

/-- The blanks that no line has room for: such a line end is always taken. -/
def forced : Nat := 65535

mutual

/-- The width of a document on one line. -/
def width : Doc → Nat
  | .word text => text.utf8ByteSize
  | .brk b => b.blank
  | .box _ _ content => widths content
  | .strut => forced

/-- The width of a row of documents on one line. -/
def widths : List Doc → Nat
  | [] => 0
  | d :: ds => width d + widths ds

end

/-- The width of what follows on the line: up to the next possible line end of the row, or all of
the row and what follows it, `beyond`. -/
def following (beyond : Nat) : List Doc → Nat
  | [] => beyond
  | .brk _ :: _ => 0
  | d :: ds => width d + following beyond ds

/-- How an enclosing box is laid out. -/
inductive Mode where
  | flat
  | consistent
  | filling

/-- A page being written: the text so far, blanks owed before the next word, the indentation of
new lines and the space left on this one. -/
structure Page where
  text : String := ""
  owed : Nat := 0
  indent : Int := 0
  space : Int := margin

namespace Page

/-- The page with one more word. -/
def write (p : Page) (s : String) : Page :=
  { p with
    text := p.text ++ String.ofList (List.replicate p.owed ' ') ++ s
    owed := 0
    space := p.space - s.utf8ByteSize }

/-- The page after a line that does not end at `b`. -/
def pass (p : Page) (b : Break) : Page :=
  { p with
    text := p.text ++ b.unbroken
    owed := p.owed + b.blank
    space := p.space - b.blank - b.unbroken.utf8ByteSize }

/-- The page after a line that ends at `b`. -/
def newline (p : Page) (b : Break) : Page :=
  let p := if b.before.isEmpty then p else p.write b.before
  let indent := p.indent + b.offset
  let p := { p with
    text := p.text.push '\n'
    owed := indent.toNat
    space := max (margin - indent) leastSpace }
  if b.after.isEmpty then p else p.write b.after

end Page

mutual

/-- Writes a document inside a box laid out as `mode`, with `beyond` columns to follow it. -/
def put (mode : Mode) (beyond : Nat) (p : Page) : Doc → Page
  | .word text => p.write text
  | .brk b =>
      let fits := b.never || match mode with
        | .flat => true
        | .consistent => false
        | .filling => (b.blank + beyond : Nat) ≤ p.space
      if fits then p.pass b else p.newline b
  | .box offset consistent content =>
      if (widths content + beyond : Nat) ≤ p.space then puts .flat beyond p content
      else
        let inner := puts (if consistent then .consistent else .filling) beyond
          { p with indent := p.indent + offset } content
        { inner with indent := p.indent }
  | .strut => p

/-- Writes a row of documents. -/
def puts (mode : Mode) (beyond : Nat) (p : Page) : List Doc → Page
  | [] => p
  | d :: ds => puts mode beyond (put mode (following beyond ds) p d) ds

end

/-- The text of a row of documents. -/
def render (ds : List Doc) : String := (puts .filling 0 {} ds).text

/-! ## Building documents -/

/-- Drops a last line end that has nothing after it. -/
def closed (ds : List Doc) : List Doc :=
  match ds.getLast? with
  | some (.brk b) => if b.ifFollowed then ds.dropLast else ds
  | _ => ds

/-- A box. One that holds nothing but a possible line end is nothing. -/
def boxed (offset : Int) (consistent : Bool) (ds : List Doc) : List Doc :=
  match ds with
  | [.brk _] => []
  | ds => [.box offset consistent (closed ds)]

def together (offset : Int) (ds : List Doc) : List Doc := boxed offset true ds
def filled (offset : Int) (ds : List Doc) : List Doc := boxed offset false ds

/-- A box that is opened if it is wider than `limit`, even where there is room for it. -/
def narrow (offset : Int) (limit : Nat) (ds : List Doc) : List Doc :=
  together offset (if widths ds > limit then .strut :: ds else ds)

/-- A blank, or a line end. -/
def blank : Doc := .brk { blank := 1 }

/-- Nothing, or a line end. -/
def gap : Doc := .brk {}

/-- Keeps what is around it on one line. -/
def tight : Doc := .brk { never := true }

/-- A line end. -/
def newline : Doc := .brk { blank := forced }

/-- A line end that starts the content of a block. -/
def opening : Doc := .brk { blank := forced, ifFollowed := true }

/-- The same row, its last line end moved by `offset`. -/
def lastOffset (offset : Int) (ds : List Doc) : List Doc :=
  match ds.getLast? with
  | some (.brk b) => ds.dropLast ++ [.brk { b with offset := b.offset + offset }]
  | _ => ds

/-- Items after each of which a comma stands; after the last only if the line ends there. -/
def commaSeparated : List (List Doc) → List Doc
  | [] => []
  | [d] => d ++ [.brk { before := "," }]
  | d :: ds => d ++ [.word ",", blank] ++ commaSeparated ds

/-- Items in brackets: on one line, or each on a line of its own, one level deeper. -/
def bracketed (left right : String) (items : List (List Doc)) : List Doc :=
  [.word left] ++
  together indentStep (lastOffset (-indentStep) ([gap] ++ commaSeparated items)) ++
  [.word right]

end Doc

end Phrasebook.Code
