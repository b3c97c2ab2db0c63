set_option autoImplicit false

/-! # Tokens of Rust code

Generated code is a list of tokens. Brackets nest, and a punctuation mark knows whether it makes
one operator with the mark after it. `Token.shown` writes tokens as one text, with blanks between
them. -/

namespace Phrasebook.Code

/-- The brackets that tokens nest in. -/
inductive Bracket where
  | round
  | square
  | curly
  deriving DecidableEq

namespace Bracket

def left : Bracket → String
  | .round => "("
  | .square => "["
  | .curly => "\x7b"

def right : Bracket → String
  | .round => ")"
  | .square => "]"
  | .curly => "\x7d"

end Bracket

/-- A token. A punctuation mark is joint if the next one belongs to it. -/
inductive Token where
  | word (text : String)
  | lifetime (text : String)
  | literal (text : String)
  | mark (c : Char) (joint : Bool)
  | left (b : Bracket)
  | right (b : Bracket)
  deriving DecidableEq

namespace Token

def text : Token → String
  | .word s | .lifetime s | .literal s => s
  | .mark c _ => String.singleton c
  | .left b => b.left
  | .right b => b.right

/-- A blank stands between two tokens, unless the first is a joint mark or one of them is a round
or square bracket that has the other inside. -/
def apart : Token → Token → Bool
  | .left b, _ => b = .curly
  | _, .right b => b = .curly
  | .mark _ joint, _ => !joint
  | _, _ => true

/-- Texts of tokens and of the blanks between them. -/
def pieces : List Token → List String
  | [] => []
  | [t] => [t.text]
  | t :: u :: ts => t.text :: (if t.apart u then " " else "") :: pieces (u :: ts)

/-- Tokens as one text. -/
def shown (ts : List Token) : String := String.join (pieces ts)

/-- The tokens of an operator: marks that belong together. -/
def operator : List Char → List Token
  | [] => []
  | [c] => [.mark c false]
  | c :: cs => .mark c true :: operator cs

end Token

end Phrasebook.Code
