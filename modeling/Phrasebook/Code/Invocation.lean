import Phrasebook.Code.Fragment

set_option autoImplicit false

/-! # Calls of macros

What is in the brackets of such a call is a list of tokens without a grammar of its own. Blanks
are put between them by what usually stands beside each other: a name and its arguments, a comma
after an item, a dot within a chain. -/

namespace Phrasebook.Code.Invocation

/-- What was just written. -/
inductive Place where
  | start
  | dollar
  | dollarGroup
  | dollarSeparator
  | pound
  | poundBang
  | dot
  | colon
  | colons
  | name
  | nameBang
  | group
  | other
  deriving DecidableEq

/-- Reserved words, after which an argument list is not taken for that of a call. -/
def reserved : List String :=
  ["as", "async", "await", "box", "break", "const", "continue", "crate", "dyn", "else", "enum",
    "extern", "fn", "for", "if", "impl", "in", "let", "loop", "macro", "match", "mod", "move",
    "mut", "pub", "ref", "return", "static", "struct", "trait", "type", "unsafe", "use", "where",
    "while", "yield"]

namespace Place

/-- The place after a word or lifetime. -/
def ofWord (w : String) : Place := if reserved.contains w then .other else .name

/-- Whether a blank goes before a token, and the place after it. -/
def before (t : Token) (p : Place) : Bool × Place :=
  match p, t with
  | .dollar, .word _ => (false, .other)
  | .dollarGroup, .word _ | .dollarGroup, .literal _ => (false, .dollarSeparator)
  | .dollarGroup, .lifetime _ => (false, .dollarSeparator)
  | .dollarGroup, .mark _ true => (false, .dollarGroup)
  | .dollarGroup, .mark c false =>
      (false, if c = '+' || c = '*' || c = '?' then .other else .dollarSeparator)
  | .dollarSeparator, .mark '+' _ | .dollarSeparator, .mark '*' _ => (false, .other)
  | .pound, .mark '!' _ => (false, .poundBang)
  | .dollar, .left .round => (false, .dollarGroup)
  | .pound, .left .square | .poundBang, .left .square => (false, .other)
  | .name, .left .round | .name, .left .square => (false, .group)
  | .name, .mark '!' false => (false, .nameBang)
  | .nameBang, .left .round | .nameBang, .left .square => (false, .other)
  | .colon, .mark ':' _ => (false, .colons)
  | _, .left .curly => (true, .other)
  | _, .left _ => (true, .group)
  | p, .word w => match ofWord w with
      | .name => (p != .dot && p != .colons, .name)
      | _ => (true, .other)
  | p, .literal _ => (p != .dot, .name)
  | _, .lifetime w => (true, ofWord (String.ofList (w.toList.drop 1)))
  | _, .mark ',' _ | _, .mark ';' _ => (false, .other)
  | p, .mark '.' _ => (p != .name && p != .group, .dot)
  | p, .mark ':' true => (p != .name, .colon)
  | _, .mark '$' _ => (true, .dollar)
  | _, .mark '#' _ => (true, .pound)
  | _, _ => (true, .other)

end Place

/-- The document for tokens, given the places after the brackets that are open, the place before
the tokens and whether no blank can be there. -/
def laidOut (after : List Place) (place : Place) (joint : Bool) : List Token → List Doc
  | [] => []
  | .right b :: ts =>
      (if b = .curly && place != .start then [Doc.blank] else []) ++ .word b.right ::
        laidOut after.tail (after.head?.getD .other) false ts
  | t :: ts =>
      let (apart, next) := place.before t
      let lead : List Doc :=
        if joint then [] else if apart then [Doc.blank]
        else match t with
          | .mark '.' _ => [Doc.gap]
          | _ => []
      lead ++ .word t.text :: match t with
        | .left b =>
            (if b = .curly && ts.head? != some (.right .curly) then [Doc.blank] else []) ++
              laidOut (next :: after) .start true ts
        | .mark c together => laidOut after next (together || c = '$') ts
        | _ => laidOut after next false ts

/-- The code of a call: what is called, the brackets and the tokens in them. -/
def code (path : Fragment) (b : Bracket) (tokens : List Token) : Fragment :=
  let edge := if b = .curly then Doc.newline else Doc.gap
  let content : Fragment := ⟨tokens, Doc.filled 0 (laidOut [] .start true tokens)⟩
  let content := if tokens.isEmpty then .empty
    else (.spacing edge ++ content ++ .spacing edge : Fragment).outdented.together Doc.indentStep
  path ++ .word "!" ++ .word ((if b = .curly then " " else "") ++ b.left) ++ content ++
    .word b.right

end Phrasebook.Code.Invocation
