import Phrasebook.Text.Blank

set_option autoImplicit false

/-! # Comparing generated code regardless of layout

`compact` drops every blank outside double-quoted literals, so that two spellings of the same
tokens agree. A literal ends at the first quote that no backslash escapes. -/

namespace Phrasebook.Text

/-- Where a reader of code stands. -/
inductive Position where
  | code
  | literal
  | escaped
  deriving DecidableEq

namespace Position

/-- The position after the character `c`. -/
def after (c : Char) : Position → Position
  | .code => if c = '"' then .literal else .code
  | .literal => if c = '\\' then .escaped else if c = '"' then .code else .literal
  | .escaped => .literal

end Position

/-- Drops the blanks outside literals, from a given position on. -/
def compactFrom : Position → List Char → List Char
  | _, [] => []
  | p, c :: cs =>
      if p = .code && isBlank c then compactFrom p cs else c :: compactFrom (p.after c) cs

/-- The code without the blanks outside literals. -/
def compact (code : String) : String := String.ofList (compactFrom .code code.toList)

/-- The text after the first line end, if there is one. -/
def afterLine : List Char → Option (List Char)
  | [] => none
  | c :: cs => if c = '\n' then some cs else afterLine cs

/-- How the first line of a generated file starts. -/
def headerMark : String := "// Code generated by"

/-- The text without its generated-file header line, if it has one. -/
def withoutHeader (text : String) : String :=
  let mark := headerMark.toList
  if mark.isPrefixOf text.toList then
    match afterLine (text.toList.drop mark.length) with
    | some rest => String.ofList rest
    | none => text
  else text

end Phrasebook.Text
