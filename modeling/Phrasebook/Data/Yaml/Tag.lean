import Phrasebook.Data.Yaml.Cursor
import Phrasebook.Number.Numeral

set_option autoImplicit false

/-! # Tags of YAML

A tag before a node says what kind of data the node is. It is written in full between `!<` and `>`,
or as a handle (`!`, `!!` or `!name!`) that stands for the front of its name, and a suffix. -/

namespace Phrasebook.Data.Yaml

/-- What a tag says of the node after it. -/
inductive Tag where
  | null
  | integer
  | float
  | boolean
  | text
  | binary
  | list
  | table
  | angle
  /-- The tag `!`, which says that a scalar is what it looks like: a text. -/
  | unspecific
  /-- A tag that says nothing. -/
  | other
  deriving DecidableEq

namespace Tag

/-- What the names of the standard tags start with. -/
def standard : String := "tag:yaml.org,2002:"

/-- The name without what marks it as standard or as local. -/
def baseName (name : String) : Option String :=
  [standard, "!!", "!"].findSome? fun front =>
    if name.startsWith front then some (String.ofList (name.toList.drop front.length)) else none

/-- The tag of a name. -/
def ofName (name : String) : Tag :=
  if name = "!" then .unspecific
  else match baseName name with
    | some "null" => .null
    | some "int" => .integer
    | some "float" => .float
    | some "bool" => .boolean
    | some "str" => .text
    | some "binary" => .binary
    | some "seq" => .list
    | some "map" => .table
    | some "degrees" => .angle
    | some "radians" => .angle
    | _ => .other

end Tag

/-! ## Names of tags -/

/-- A character of handles. -/
def isHandleChar (c : Char) : Bool := c.isAlphanum || c = '_' || c = '-'

/-- A character of names written in full. -/
def isUriChar (c : Char) : Bool := c.isAlphanum || c ∈ "-#;/?:@&=+$,_.!~*'()[]%".toList

/-- A character of suffixes. -/
def isTagChar (c : Char) : Bool := isUriChar c && !isFlowMark c && c ≠ '!'

/-- How many bytes a character has whose first byte is given. -/
def byteCount? (byte : Nat) : Option Nat :=
  if byte < 0x80 then some 1
  else if 0xC0 ≤ byte && byte < 0xE0 then some 2
  else if 0xE0 ≤ byte && byte < 0xF0 then some 3
  else if 0xF0 ≤ byte && byte < 0xF8 then some 4
  else none

/-- A byte written as `%` and two hexadecimal digits. -/
def escapedByte (c : Cursor) : Option (Nat × Cursor) :=
  match c.rest with
  | '%' :: a :: b :: _ => (Number.valueIn? 16 [a, b]).map fun v => (v, c.advance 3)
  | _ => none

/-- The given number of further bytes; the bytes are the digits of a number to the base 256. -/
def furtherBytes : Nat → Nat → Cursor → Option (Nat × Cursor)
  | 0, code, c => some (code, c)
  | n + 1, code, c => do
      let (byte, c) ← escapedByte c
      if 0x80 ≤ byte && byte < 0xC0 then furtherBytes n (256 * code + byte) c else none

/-- A character written as escaped bytes. -/
def escapedChar (c : Cursor) : Option (Char × Cursor) := do
  let (byte, c) ← escapedByte c
  let n ← byteCount? byte
  let (code, c) ← furtherBytes (n - 1) byte c
  if code < 0xD800 || (0xE000 ≤ code && code < 0x110000) then some (Char.ofNat code, c) else none

/-- Characters as long as they satisfy `p`, escapes resolved. -/
def uriText (p : Char → Bool) : Nat → Cursor → Option (List Char × Cursor)
  | 0, c => some ([], c)
  | fuel + 1, c =>
      match c.peek with
      | some x =>
          if !p x then some ([], c)
          else do
            let (x, c) ← if x = '%' then escapedChar c else some (x, c.next)
            let (s, c) ← uriText p fuel c
            return (x :: s, c)
      | none => some ([], c)

/-- A handle, at whose exclamation mark the cursor stands, or the front of a name if no second mark
ends it. -/
def handleText (c : Cursor) : Option (List Char × Cursor) :=
  if c.isAt '!' then
    let (s, c) := c.next.span isHandleChar
    if c.isAt '!' then some ('!' :: s ++ ['!'], c.next) else some ('!' :: s, c)
  else none

/-- A tag, at whose exclamation mark the cursor stands: its handle and its suffix. A tag written in
full has no handle, and neither has `!`. -/
def tagName (c : Cursor) : Option (String × String × Cursor) := do
  let fuel := c.left + 1
  if c.peekSecond = some '<' then
    let (name, c) ← uriText isUriChar fuel (c.advance 2)
    if c.isAt '>' then some ("", String.ofList name, c.next) else none
  else
    let (handle, c) ← handleText c
    let (suffix, c) ← uriText isTagChar fuel c
    if handle.length ≥ 2 && handle.getLast? = some '!' then
      if suffix.isEmpty then none
      else some (String.ofList handle, String.ofList suffix, c)
    else
      let suffix := handle.drop 1 ++ suffix
      if suffix.isEmpty then some ("", "!", c) else some ("!", String.ofList suffix, c)

/-! ## Directives -/

/-- A line that starts with a percent sign. -/
inductive Directive where
  | version
  /-- What a handle stands for. -/
  | handle (handle standsFor : String)
  | unknown
  deriving DecidableEq

/-- Digits of a version, nine at most. -/
def versionNumber (c : Cursor) : Option Cursor :=
  let (ds, c) := c.span Char.isDigit
  if ds.isEmpty || ds.length > 9 then none else some c

/-- What a handle stands for: the front of a local or of a global name. -/
def handleMeaning (c : Cursor) : Option (List Char × Cursor) :=
  match c.peek with
  | some x =>
      if x = '!' || isTagChar x then uriText isUriChar (c.left + 1) c else none
  | none => none

/-- A directive, at whose percent sign the cursor stands, without the end of its line. -/
def directiveLine (c : Cursor) : Option (Directive × Cursor) := do
  let (name, c) := c.next.span isHandleChar
  if name.isEmpty || !isBlankOrEnd c.peek then none
  let (d, c) ← match String.ofList name with
    | "YAML" => do
        let c ← versionNumber (c.skipWhile isSpace)
        if !c.isAt '.' then none
        let c ← versionNumber c.next
        some (Directive.version, c)
    | "TAG" => do
        let (handle, c) ← handleText (c.skipWhile isSpace)
        if handle ≠ ['!'] && !(handle.length ≥ 2 && handle.getLast? = some '!') then none
        let (meaning, c) ← handleMeaning (c.skipWhile isSpace)
        if !isBlankOrEnd c.peek then none
        some (Directive.handle (String.ofList handle) (String.ofList meaning), c)
    | _ => some (Directive.unknown, c.skipWhile (!isBreak ·))
  let c ← c.skipToLineEnd
  if isLineEnd c.peek then some (d, c) else none

end Phrasebook.Data.Yaml
