import Phrasebook.Code.Token
import Phrasebook.Code.Token.Literal
import Phrasebook.Text.Blank
import Phrasebook.Text.Literal

set_option autoImplicit false

/-! # Reading tokens

Blanks and comments separate tokens; a documentation comment stands for the tokens of an
attribute. A mark that starts a text of tokens and only tells its byte order is skipped. -/

namespace Phrasebook.Code.Token

/-! ## Comments -/

/-- The text of a comment after its opening in which `depth` more are open, and the rest. -/
def comment : Nat → List Char → Option (List Char × List Char)
  | _, [] => none
  | 0, '*' :: '/' :: cs => some ([], cs)
  | d + 1, '*' :: '/' :: cs => (comment d cs).map fun (s, r) => ('*' :: '/' :: s, r)
  | d, '/' :: '*' :: cs => (comment (d + 1) cs).map fun (s, r) => ('/' :: '*' :: s, r)
  | d, c :: cs => (comment d cs).map fun (s, r) => (c :: s, r)

/-- The rest of a line, and what is left. -/
def lineEnd : List Char → List Char × List Char
  | [] => ([], [])
  | '\n' :: cs => ([], '\n' :: cs)
  | '\r' :: '\n' :: cs => ([], '\n' :: cs)
  | c :: cs => let (line, rest) := lineEnd cs; (c :: line, rest)

/-- A carriage return stands only at line ends. -/
def returnsEndLines : List Char → Bool
  | [] => true
  | '\r' :: '\n' :: cs => returnsEndLines cs
  | '\r' :: _ => false
  | _ :: cs => returnsEndLines cs

/-- The tokens of an attribute that documents what follows it, or what it is in if `inner`. -/
def docTokens (inner : Bool) (value : String) : List Token :=
  [.mark '#' false] ++ (if inner then [.mark '!' false] else []) ++
    [.left .square, .word "doc", .mark '=' false, .literal value, .right .square]

/-- Reads a documentation comment: its tokens and the rest. -/
def documentation? (cs : List Char) : Option (List Token × List Char) :=
  let give (inner : Bool) (text rest : List Char) :=
    if returnsEndLines text then
      some (docTokens inner (Text.literal (String.ofList text)), rest)
    else none
  match cs with
  | '/' :: '/' :: '!' :: cs => let (text, rest) := lineEnd cs; give true text rest
  | '/' :: '*' :: '!' :: cs => (comment 0 cs).bind fun (text, rest) => give true text rest
  | '/' :: '/' :: '/' :: cs =>
      if cs.head? == some '/' then none else let (text, rest) := lineEnd cs; give false text rest
  | '/' :: '*' :: '*' :: cs =>
      if cs.head? == some '*' || cs.head? == some '/' then none
      else (comment 0 cs).bind fun (text, rest) => give false text rest
  | _ => none

/-- The rest after a comment that documents nothing. -/
def afterComment? (cs : List Char) : Option (List Char) :=
  match cs with
  | '/' :: '/' :: '!' :: _ | '/' :: '*' :: '!' :: _ => none
  | '/' :: '/' :: '/' :: '/' :: cs => some (lineEnd cs).2
  | '/' :: '/' :: '/' :: _ => none
  | '/' :: '/' :: cs => some (lineEnd cs).2
  | '/' :: '*' :: '*' :: '/' :: cs => some cs
  | '/' :: '*' :: '*' :: '*' :: cs => (comment 0 ('*' :: '*' :: cs)).map (·.2)
  | '/' :: '*' :: '*' :: _ => none
  | '/' :: '*' :: cs => (comment 0 cs).map (·.2)
  | _ => none

/-! ## Single tokens -/

/-- Blanks between tokens; the marks of writing direction are among them. -/
def isSpace (c : Char) : Bool := Text.isBlank c || c = '\u200e' || c = '\u200f'

/-- The punctuation marks. -/
def marks : List Char :=
  ['~', '!', '@', '#', '$', '%', '^', '&', '*', '-', '=', '+', '|', ';', ':', ',', '<', '.',
    '>', '/', '?', '\'']

/-- A punctuation mark is next, and not a comment. -/
def atMark : List Char → Bool
  | '/' :: '/' :: _ | '/' :: '*' :: _ => false
  | c :: _ => marks.contains c
  | [] => false

/-- Words that may not be written with `r#`. -/
def neverRaw : List String := ["_", "super", "self", "Self", "crate"]

/-- The longest word at the front. -/
def plainWord? : List Char → Option (String × List Char)
  | [] => none
  | c :: cs =>
      if Text.isIdentifierStart c then
        let (w, rest) := cs.span Text.isIdentifierContinue
        some (String.ofList (c :: w), rest)
      else none

/-- A word at the front; `r#` before it lets it be a reserved one. -/
def anyWord? : List Char → Option (String × List Char)
  | 'r' :: '#' :: cs => do
      let (w, rest) ← plainWord? cs
      if neverRaw.contains w then none else some ("r#" ++ w, rest)
  | cs => plainWord? cs

/-- How a text starts that is no word, since a literal starts so. -/
def literalStarts : List String :=
  ["r\"", "r#\"", "r##", "b\"", "b'", "br\"", "br#", "c\"", "cr\"", "cr#"]

/-- What starts with an apostrophe and is not a character: a lifetime. -/
def lifetime? (cs : List Char) : Option (Token × List Char) := do
  let (w, rest) ← anyWord? cs
  let raw := "r#".toList.isPrefixOf cs
  if rest.head? == some '\'' || rest.head? == some '#' && !raw then none
  else some (.lifetime ("'" ++ w), rest)

/-- A mark that a failed reading leaves in a list of tokens. -/
def faultMark : String := "(/*ERROR*/)"

def bracket? : Char → Option Token
  | '(' => some (.left .round)
  | '[' => some (.left .square)
  | '\x7b' => some (.left .curly)
  | ')' => some (.right .round)
  | ']' => some (.right .square)
  | '\x7d' => some (.right .curly)
  | _ => none

/-- One token at the front of `cs`. -/
def next? (cs : List Char) : Option (Token × List Char) :=
  if faultMark.toList.isPrefixOf cs then some (.literal faultMark, cs.drop faultMark.length)
  else match cs.head?.bind bracket? with
    | some t => some (t, cs.tail)
    | none =>
        match Literal.after cs with
        | some rest => some (.literal (String.ofList (cs.take (cs.length - rest.length))), rest)
        | none =>
            match cs with
            | '\'' :: cs => lifetime? cs
            | c :: rest =>
                if atMark cs then some (.mark c (atMark rest), rest)
                else if literalStarts.any fun s => s.toList.isPrefixOf cs then none
                else (anyWord? cs).map fun (w, rest) => (.word w, rest)
            | [] => none

/-- The brackets that are open after a token, innermost first. -/
def opened (t : Token) (bs : List Bracket) : Option (List Bracket) :=
  match t, bs with
  | .left b, bs => some (b :: bs)
  | .right b, c :: bs => if b = c then some bs else none
  | .right _, [] => none
  | _, bs => some bs

/-- The tokens of `cs` inside the brackets `bs`, in at most `fuel` steps. -/
def tokensFrom : Nat → List Bracket → List Char → Option (List Token)
  | 0, _, _ => none
  | fuel + 1, bs, cs =>
      match cs with
      | [] => if bs.isEmpty then some [] else none
      | c :: rest =>
          if isSpace c then tokensFrom fuel bs rest
          else match afterComment? cs, documentation? cs with
            | some rest, _ => tokensFrom fuel bs rest
            | none, some (ts, rest) => (tokensFrom fuel bs rest).map (ts ++ ·)
            | none, none => do
                let (t, rest) ← next? cs
                let bs ← opened t bs
                return t :: (← tokensFrom fuel bs rest)

/-- The tokens of a text, or nothing if it is not made of tokens. -/
def tokens? (s : String) : Option (List Token) :=
  let cs := s.toList
  let cs := if cs.head? == some '\ufeff' then cs.tail else cs
  tokensFrom (cs.length + 1) [] cs

/-! ## Spelled tokens -/

/-- Operators of more than one mark, long ones first. -/
def operators : List String :=
  ["..=", "...", "<<=", ">>=", "::", "->", "=>", "==", "!=", "<=", ">=", "&&", "||", "..", "<<",
    ">>", "+=", "-=", "*=", "/=", "%=", "^=", "&=", "|="]

/-- The tokens that `cs` spells, in at most `fuel` steps. Marks are joint only within an
operator. -/
def spelledFrom : Nat → List Char → List Token
  | 0, _ => []
  | fuel + 1, cs =>
      match cs with
      | [] => []
      | c :: rest =>
          if isSpace c then spelledFrom fuel rest
          else match operators.find? fun o => o.toList.isPrefixOf cs with
            | some o => operator o.toList ++ spelledFrom fuel (cs.drop o.length)
            | none =>
                match next? cs with
                | some (.mark c _, rest) => .mark c false :: spelledFrom fuel rest
                | some (t, rest) => t :: spelledFrom fuel rest
                | none => [.literal (String.ofList cs)]

/-- The tokens that a piece of code spells. -/
def spelled (s : String) : List Token := spelledFrom (s.length + 1) s.toList

end Phrasebook.Code.Token

namespace Phrasebook.Code

/-- A word that may name something. -/
def isName (w : String) : Bool := Text.isIdentifier w || "r#".toList.isPrefixOf w.toList

/-- The identifier a text consists of, without the blanks and comments around it. -/
def readName? (s : String) : Option String :=
  match Token.tokens? s with
  | some [.word w] => if isName w then some w else none
  | _ => none

end Phrasebook.Code
