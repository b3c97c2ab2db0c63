import Phrasebook.Code.Layout
import Phrasebook.Code.Token.Lexer
import Phrasebook.Text.Compact

set_option autoImplicit false

/-! # Pieces of code

A piece of code has two forms: the tokens it consists of, and a document that says where its lines
may be broken. The two differ in commas: a document drops one that ends a list, unless the list is
broken over lines. -/

namespace Phrasebook.Code

/-- A piece of code. -/
structure Fragment where
  tokens : List Token
  doc : List Doc

namespace Fragment

def empty : Fragment := ⟨[], []⟩

def append (a b : Fragment) : Fragment := ⟨a.tokens ++ b.tokens, a.doc ++ b.doc⟩

instance : Append Fragment := ⟨append⟩

def join (fs : List Fragment) : Fragment :=
  ⟨(fs.map (·.tokens)).flatten, (fs.map (·.doc)).flatten⟩

/-- Text that stays on one line. -/
def word (s : String) : Fragment := ⟨Token.spelled s, [.word s]⟩

/-- One token. -/
def ofToken (t : Token) : Fragment := ⟨[t], [.word t.text]⟩

/-- Tokens that the document does not show. -/
def hidden (s : String) : Fragment := ⟨Token.spelled s, []⟩

/-- Text of the document that is no token. -/
def shown (s : String) : Fragment := ⟨[], [.word s]⟩

/-- A document element without a token. -/
def spacing (d : Doc) : Fragment := ⟨[], [d]⟩

/-- The same tokens, the document in a box of which all lines end, or none. -/
def together (offset : Int) (f : Fragment) : Fragment := ⟨f.tokens, Doc.together offset f.doc⟩

/-- The same tokens, the document in a box that is filled line by line. -/
def filled (offset : Int) (f : Fragment) : Fragment := ⟨f.tokens, Doc.filled offset f.doc⟩

/-- The line after the last line end is one level less deep. -/
def outdented (f : Fragment) : Fragment := ⟨f.tokens, Doc.lastOffset (-Doc.indentStep) f.doc⟩

/-- Tokens with a comma between any two pieces. -/
def commaTokens (fs : List Fragment) : List Token :=
  (fs.map (·.tokens)).intersperse [.mark ',' false] |>.flatten

/-- Pieces separated by commas, and how they may be broken over lines. If `trailing`, the last one
has a comma too, which a document shows only at the end of a line. -/
def listed (fs : List Fragment) (trailing : Bool) : Fragment :=
  ⟨commaTokens fs ++ (if trailing then [.mark ',' false] else []),
    Doc.gap :: Doc.commaSeparated (fs.map (·.doc))⟩

/-- Pieces in brackets, separated by commas; `trailing` tells whether a comma ends them. -/
def inBrackets (left right : String) (fs : List Fragment) (trailing : Bool) : Fragment :=
  word left ++ (listed fs trailing).outdented.together Doc.indentStep ++ word right

/-- Pieces in brackets with a comma between any two. -/
def bracketed (left right : String) (fs : List Fragment) : Fragment :=
  inBrackets left right fs false

/-- The tokens as one text, without the blanks between them. -/
def tokenText (f : Fragment) : String := Text.compact (Token.shown f.tokens)

end Fragment

end Phrasebook.Code
