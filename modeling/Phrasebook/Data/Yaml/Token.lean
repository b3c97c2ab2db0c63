import Phrasebook.Data.Yaml.Scalar
import Phrasebook.Data.Yaml.Tag

set_option autoImplicit false

/-! # Tokens of YAML

A text as a row of tokens in which indentation has become explicit: a block collection is opened
and closed by tokens of its own, and a `key` token stands before each key, also where only the
colon after it shows that it is one. For that a place is remembered, one for each level of
brackets, at which a key may have started. -/

namespace Phrasebook.Data.Yaml

/-- How a scalar is written. -/
inductive Style where
  | plain
  | quoted
  | block
  deriving DecidableEq

/-- A token. -/
inductive Token where
  | directive (d : Directive)
  | documentStart
  | documentEnd
  | blockList
  | blockTable
  | blockEnd
  | flowList
  | flowListEnd
  | flowTable
  | flowTableEnd
  | entry
  | comma
  | key
  | value
  | alias (name : String)
  | anchor (name : String)
  | tag (handle suffix : String)
  | scalar (style : Style) (text : String)
  deriving DecidableEq

/-- A place at which a key may have started. -/
structure KeyPlace where
  line : Nat
  column : Nat
  index : Nat
  /-- The number of tokens before it. -/
  position : Nat
  /-- What starts there can only be a key. -/
  required : Bool

/-- A level of indentation: the one outside of it, and whether a block ends with it. -/
structure Level where
  outer : Int
  isBlock : Bool

/-- The state of reading tokens. -/
structure Scan where
  cursor : Cursor
  indent : Int := -1
  levels : List Level := []
  /-- The brackets that are open, innermost first; `true` for those of a list. -/
  brackets : List Bool := []
  /-- Where a key may have started, for each open bracket and outside of them. -/
  keys : List (Option KeyPlace) := [none]
  keyAllowed : Bool := true
  /-- The place at which a colon needs no blank after it. -/
  adjacent : Nat := 0
  tokens : Array Token := #[]

namespace Scan

def inFlow (s : Scan) : Bool := !s.brackets.isEmpty

def push (t : Token) (s : Scan) : Scan := { s with tokens := s.tokens.push t }

/-- A token put at a position among those already read. -/
def insert (position : Nat) (t : Token) (s : Scan) : Scan :=
  { s with
    tokens := s.tokens.extract 0 position ++ #[t] ++ s.tokens.extract position s.tokens.size }

def skip (s : Scan) : Scan := { s with cursor := s.cursor.next }

def allowKey (allowed : Bool) (s : Scan) : Scan := { s with keyAllowed := allowed }

def skipToLineEnd (s : Scan) : Option Scan :=
  s.cursor.skipToLineEnd.map fun c => { s with cursor := c }

/-! ## Indentation -/

/-- Closes what is indented deeper than a column. -/
def closeTo (column : Int) (s : Scan) : Scan :=
  if s.inFlow then s else go s.levels s.indent s.tokens
where
  go : List Level → Int → Array Token → Scan
    | [], indent, tokens => { s with indent, tokens, levels := [] }
    | l :: ls, indent, tokens =>
        if column < indent then go ls l.outer (if l.isBlock then tokens.push .blockEnd else tokens)
        else { s with indent, tokens, levels := l :: ls }

/-- Leaves levels that are no blocks. -/
def leaveInner (s : Scan) : Scan := go s.levels s.indent
where
  go : List Level → Int → Scan
    | [], indent => { s with indent, levels := [] }
    | l :: ls, indent =>
        if l.isBlock then { s with indent, levels := l :: ls } else go ls l.outer

/-- Opens a block at a column, if that is deeper; its token is put at `position`. -/
def openBlock (column position : Nat) (t : Token) (s : Scan) : Scan :=
  if s.inFlow then s
  else
    let s := match s.levels with
      | l :: ls =>
          if s.indent ≤ (column : Int) && !l.isBlock then
            { s with indent := l.outer, levels := ls }
          else s
      | [] => s
    if s.indent < (column : Int) then
      { s with indent := (column : Int), levels := ⟨s.indent, true⟩ :: s.levels }.insert position t
    else s

/-- Asks what follows in a block to be indented by one column. -/
def openInner (s : Scan) : Scan :=
  match s.levels with
  | l :: _ =>
      if !s.inFlow && l.isBlock then
        { s with indent := s.indent + 1, levels := ⟨s.indent, false⟩ :: s.levels }
      else s
  | [] => s

/-! ## Places of keys -/

/-- Remembers that a key may start here. -/
def markKey (s : Scan) : Scan :=
  if s.keyAllowed then
    let required :=
      !s.inFlow && s.indent == (s.cursor.column : Int) && s.levels.head?.any (·.isBlock)
    let place : KeyPlace :=
      { line := s.cursor.line, column := s.cursor.column, index := s.cursor.index,
        position := s.tokens.size, required }
    { s with keys := some place :: s.keys.drop 1 }
  else s

/-- Forgets the place of a key; there is none to forget where a key is required. -/
def forgetKey (s : Scan) : Option Scan :=
  match s.keys with
  | some k :: ks => if k.required then none else some { s with keys := none :: ks }
  | _ => some s

/-- Outside of brackets a key ends on its line, and is not longer than 1024 characters. -/
def isStale (c : Cursor) (k : KeyPlace) : Bool := k.line < c.line || k.index + 1024 < c.index

/-- Forgets places from which no key can come any more. -/
def forgetStale (s : Scan) : Option Scan :=
  if s.inFlow then some s
  else if s.keys.any fun k => k.any fun k => isStale s.cursor k && k.required then none
  else some { s with keys := s.keys.map fun k => k.filter fun k => !isStale s.cursor k }

/-! ## The tokens -/

/-- Leaves out blanks, comments and line ends. After a line end outside of brackets a key may
start. Inside a block, a tab does not indent. -/
def skipToToken : Nat → Scan → Option Scan
  | 0, s => some s
  | fuel + 1, s =>
      match s.cursor.peek with
      | some '\t' =>
          if !s.levels.isEmpty && s.cursor.fresh && (s.cursor.column : Int) < s.indent then do
            let s ← s.skipToLineEnd
            if isLineEnd s.cursor.peek then skipToToken fuel s else none
          else skipToToken fuel s.skip
      | some ' ' => skipToToken fuel s.skip
      | some '\n' => skipToToken fuel (s.skip.allowKey (s.keyAllowed || !s.inFlow))
      | some '#' =>
          skipToToken fuel { s with cursor := s.cursor.skipWhile (!isBreak ·) }
      | _ => some s

/-- How deep brackets may be nested. -/
def maxBrackets : Nat := 255

def flowStart (isList : Bool) (s : Scan) : Option Scan := do
  if s.brackets.length ≥ maxBrackets then none
  let s := s.markKey.openInner
  let s := { s with brackets := isList :: s.brackets, keys := none :: s.keys, keyAllowed := true }
  let s ← s.skip.skipToLineEnd
  return s.push (if isList then .flowList else .flowTable)

/-- A closing bracket, which has to match the one that is open. -/
def flowEnd (isList : Bool) (s : Scan) : Option Scan := do
  if s.brackets.head? ≠ some isList then none
  let s ← s.forgetKey
  let s := { s with brackets := s.brackets.drop 1, keys := s.keys.drop 1 }
  let s ← (s.allowKey false).skip.skipToLineEnd
  let s := if s.inFlow then { s with adjacent := s.cursor.index } else s
  return s.push (if isList then .flowListEnd else .flowTableEnd)

def comma (s : Scan) : Option Scan := do
  let s ← s.forgetKey
  let s ← (s.allowKey true).skip.skipToLineEnd
  return s.push .comma

/-- An entry of a block list, at whose dash the cursor stands. -/
def blockEntry (s : Scan) : Option Scan := do
  if s.inFlow || !s.keyAllowed then none
  let s := s.skip.openBlock s.cursor.column s.tokens.size .blockList
  let (blanks, _) := s.cursor.span isSpace
  let s ← s.skipToLineEnd
  if '\t' ∈ blanks && s.cursor.isAt '-' && isBlankOrEnd s.cursor.peekSecond then none
  let s := if s.cursor.peek.any fun c => isBreak c || isFlowMark c then s.openInner else s
  let s ← s.forgetKey
  return (s.allowKey true).push .entry

/-- Leaves out blanks other than tabs, comments and line ends after the mark of an explicit key. -/
def skipAfterKey : Nat → Scan → Scan
  | 0, s => s
  | fuel + 1, s =>
      match s.cursor.peek with
      | some ' ' => skipAfterKey fuel s.skip
      | some '\n' => skipAfterKey fuel (s.skip.allowKey (s.keyAllowed || !s.inFlow))
      | some '#' => skipAfterKey fuel { s with cursor := s.cursor.skipWhile (!isBreak ·) }
      | _ => s

/-- An explicit key, at whose question mark the cursor stands. -/
def explicitKey (s : Scan) : Option Scan := do
  if !s.inFlow && !s.keyAllowed then none
  let s := s.openBlock s.cursor.column s.tokens.size .blockTable
  let s ← s.forgetKey
  let s := (s.allowKey !s.inFlow).skip
  if s.cursor.atEnd then none
  let s := skipAfterKey (s.cursor.left + 1) s
  if s.cursor.isAt '\t' then none
  return s.push .key

/-- A value, at whose colon the cursor stands. If a key may have started before, it has. -/
def value (s : Scan) : Option Scan := do
  let start := s.cursor
  let s := s.skip
  let (blanks, after) := s.cursor.span isSpace
  let s ← if s.cursor.isAt '\t' then
      if ' ' ∉ blanks && after.peek.any fun c => c.isAlphanum || c = '_' || c = '-' then none
      else s.skipToLineEnd
    else some s
  match s.keys with
  | some k :: ks =>
      if s.brackets.head? = some true && k.line < start.line then none
      let s := (s.insert k.position .key).openBlock k.column k.position .blockTable
      return { s.openInner with keys := none :: ks, keyAllowed := false }.push .value
  | _ =>
      if s.inFlow then return (s.allowKey false).push .value
      if !s.keyAllowed then none
      let s := s.openBlock start.column s.tokens.size .blockTable
      return (s.openInner.allowKey true).push .value

/-- A value inside of brackets whose colon is not followed by a blank. -/
def flowValue (s : Scan) : Option Scan :=
  if s.cursor.index ≠ s.adjacent && s.cursor.peekSecond.any (fun c => c = '[' || c = '{') then none
  else s.value

/-- An alias or an anchor. -/
def named (make : String → Token) (s : Scan) : Option Scan :=
  let s := s.markKey.allowKey false
  let (name, c) := s.cursor.next.span fun c =>
    !isSpace c && !isBreak c && !isFlowMark c && c ≠ '\ufeff'
  if name.isEmpty then none else some ({ s with cursor := c }.push (make (String.ofList name)))

def tag (s : Scan) : Option Scan := do
  let s := s.markKey.allowKey false
  let (handle, suffix, c) ← tagName s.cursor
  if isBlankOrEnd c.peek || (s.inFlow && c.peek.any isFlowMark) then
    return { s with cursor := c }.push (.tag handle suffix)
  else none

def quoted (s : Scan) : Option Scan := do
  let s := s.markKey.allowKey false
  let (text, c) ← quotedScalar s.inFlow s.indent s.cursor
  let s ← skipToToken (c.left + 1) { s with cursor := c }
  return { s with adjacent := s.cursor.index }.push (.scalar .quoted text)

def plain (s : Scan) : Option Scan := do
  let s := (s.markKey.allowKey false).leaveInner
  let (text, c) ← plainScalar s.inFlow (s.indent + 1) s.cursor
  return { s with cursor := c, keyAllowed := c.fresh }.push (.scalar .plain text)

def block (literal : Bool) (s : Scan) : Option Scan := do
  let s := (s.markKey.allowKey true).leaveInner
  let (text, c) ← blockScalar literal s.indent s.cursor
  return { s with cursor := c }.push (.scalar .block text)

/-- What stands between documents closes all blocks. -/
def boundary (t : Token) (s : Scan) : Option Scan := do
  let s ← (s.closeTo (-1)).forgetKey
  return (s.allowKey false).push t

def directive (s : Scan) : Option Scan := do
  let (d, c) ← directiveLine s.cursor
  let s ← s.boundary (.directive d)
  return { s with cursor := c }

def documentMarker (t : Token) (s : Scan) : Option Scan := do
  let s ← s.boundary t
  let s := { s with cursor := s.cursor.advance 3 }
  if t = .documentEnd then
    let s ← s.skipToLineEnd
    if isLineEnd s.cursor.peek then some s else none
  else some s

/-- The token at the cursor. -/
def token (s : Scan) : Option Scan :=
  let c := s.cursor
  let blankNext := isBlankOrEnd c.peekSecond
  if c.column = 0 && c.isAt '%' then s.directive
  else if c.column = 0 && c.atMarker '-' then s.documentMarker .documentStart
  else if c.column = 0 && c.atMarker '.' then s.documentMarker .documentEnd
  else if (c.column : Int) < s.indent && !(s.inFlow && c.peek.any (· ∈ [']', '}', ','])) then none
  else match c.peek with
    | none => none
    | some '[' => s.flowStart true
    | some '{' => s.flowStart false
    | some ']' => s.flowEnd true
    | some '}' => s.flowEnd false
    | some ',' => s.comma
    | some '*' => s.named .alias
    | some '&' => s.named .anchor
    | some '!' => s.tag
    | some '\'' => s.quoted
    | some '"' => s.quoted
    | some x =>
        if x = '-' && blankNext then s.blockEntry
        else if x = '?' && blankNext then s.explicitKey
        else if x = ':' && blankNext then s.value
        else if x = ':' && s.inFlow && (c.peekSecond.any isFlowMark || c.index = s.adjacent) then
          s.flowValue
        else if (x = '|' || x = '>') && !s.inFlow then s.block (x = '|')
        else if x ∈ ['%', '@', '\x60'] then none
        else s.plain

/-- The end of the text closes all blocks. It is a fault where a key is required or a bracket is
open. -/
def finish (s : Scan) : Option Scan :=
  if s.inFlow || s.keys.any fun k => k.any (·.required) then none
  else some (s.closeTo (-1))

/-- The tokens that are settled at a fault: those before the first place at which a key may have
started, since a token that tells so may still come in between. -/
def settled (s : Scan) : Array Token :=
  s.tokens.extract 0 (s.keys.foldl (fun n k => min n (k.elim n (·.position))) s.tokens.size)

/-- The tokens from here on, and whether they reach the end of the text. -/
def run : Nat → Scan → Array Token × Bool
  | 0, s => (s.settled, false)
  | fuel + 1, s =>
      match skipToToken (s.cursor.left + 1) s >>= forgetStale with
      | none => (s.settled, false)
      | some s =>
          let s := s.closeTo s.cursor.column
          if s.cursor.atEnd then
            match s.finish with
            | some s => (s.tokens, true)
            | none => (s.settled, false)
          else
            match s.token with
            | some s => run fuel s
            | none => (s.settled, false)

end Scan

/-- The tokens of a text up to the first fault, and whether there is none. -/
def tokens (text : String) : List Token × Bool :=
  let c := Cursor.start text
  let (ts, complete) := ({ cursor := c } : Scan).run (c.left + 1)
  (ts.toList, complete)

end Phrasebook.Data.Yaml
