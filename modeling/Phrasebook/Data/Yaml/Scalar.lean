import Phrasebook.Data.Yaml.Cursor
import Phrasebook.Number.Numeral
import Phrasebook.Text.Blank

set_option autoImplicit false

/-! # Scalars of YAML

The three ways in which a text is written: plain, in quotes, and as a block of lines. Line ends
inside plain and quoted text are folded: one becomes a blank, and each further one a line feed. -/

namespace Phrasebook.Data.Yaml

/-- What separates two words of a folded text. -/
inductive Gap where
  | blanks (cs : List Char)
  | lines (count : Nat)

namespace Gap

/-- The text of a gap: blanks are kept, one line end is a blank, more are line feeds. -/
def text : Gap → List Char
  | .blanks cs => cs
  | .lines 0 => []
  | .lines 1 => [' ']
  | .lines (n + 1) => List.replicate n '\n'

end Gap

/-! ## Plain scalars -/

/-- A plain scalar can go on with the next character. -/
def continuesPlain (inFlow : Bool) (c : Cursor) : Bool :=
  match c.peek with
  | none => false
  | some x =>
      !isSpace x && !isBreak x &&
      !(x = ':' && (isBlankOrEnd c.peekSecond ||
        (inFlow && c.peekSecond.any isFlowMark))) &&
      !(inFlow && isFlowMark x)

/-- The next word of a plain scalar. -/
def plainWord (inFlow : Bool) : Nat → Cursor → List Char × Cursor
  | 0, c => ([], c)
  | fuel + 1, c =>
      match continuesPlain inFlow c, c.peek with
      | true, some x =>
          let (w, c) := plainWord inFlow fuel c.next
          (x :: w, c)
      | _, _ => ([], c)

/-- The gap before the next word. Columns before `indent` hold no tab, unless the line is empty
and `lenient` is set. -/
def gapFrom (lenient : Bool) (indent : Int) : Nat → Gap → Cursor → Option (Gap × Cursor)
  | 0, gap, c => some (gap, c)
  | fuel + 1, gap, c =>
      match c.peek, gap with
      | some '\n', .blanks _ => gapFrom lenient indent fuel (.lines 1) c.next
      | some '\n', .lines n => gapFrom lenient indent fuel (.lines (n + 1)) c.next
      | some x, .blanks cs =>
          if isSpace x then gapFrom lenient indent fuel (.blanks (cs ++ [x])) c.next
          else some (gap, c)
      | some x, .lines n =>
          if x = '\t' && (c.column : Int) < indent then
            if lenient then do
              let c ← c.skipToLineEnd
              if isLineEnd c.peek then gapFrom lenient indent fuel (.lines n) c else none
            else none
          else if isSpace x then gapFrom lenient indent fuel gap c.next
          else some (gap, c)
      | none, _ => some (gap, c)

/-- Words of a plain scalar, after a gap. -/
def plainWords (inFlow : Bool) (indent : Int) :
    Nat → Gap → Cursor → Option (List Char × Cursor)
  | 0, _, c => some ([], c)
  | fuel + 1, gap, c =>
      if c.atDocumentMarker || c.isAt '#' then some ([], c)
      else if inFlow && c.isAt '-' && c.peekSecond.any isFlowMark then none
      else do
        let (w, c) := plainWord inFlow (c.left + 1) c
        let shown := if w.isEmpty then [] else gap.text ++ w
        match c.peek with
        | some x =>
            if !isSpace x && !isBreak x then some (shown, c)
            else
              let (gap, c) ← gapFrom true indent (c.left + 1) (.blanks []) c
              if !inFlow && (c.column : Int) < indent then some (shown, c)
              else
                let (more, c) ← plainWords inFlow indent fuel gap c
                some (shown ++ more, c)
        | none => some (shown, c)

/-- A plain scalar, whose lines after the first are indented to `indent` at least. -/
def plainScalar (inFlow : Bool) (indent : Int) (c : Cursor) : Option (String × Cursor) := do
  if inFlow && (c.column : Int) < indent then none
  let (s, c) ← plainWords inFlow indent (c.left + 1) (.blanks []) c
  if s.isEmpty then none else some (String.ofList s, c)

/-! ## Quoted scalars -/

/-- The character of an escape of one letter. -/
def escape? : Char → Option Char
  | '0' => some '\x00'
  | 'a' => some '\x07'
  | 'b' => some '\x08'
  | 't' => some '\t'
  | '\t' => some '\t'
  | 'n' => some '\n'
  | 'v' => some '\x0b'
  | 'f' => some '\x0c'
  | 'r' => some '\r'
  | 'e' => some '\x1b'
  | ' ' => some ' '
  | '"' => some '"'
  | '/' => some '/'
  | '\\' => some '\\'
  | 'N' => some '\u0085'
  | '_' => some '\u00a0'
  | 'L' => some '\u2028'
  | 'P' => some '\u2029'
  | _ => none

/-- The number of hexadecimal digits after the letter of a longer escape. -/
def escapeLength? : Char → Option Nat
  | 'x' => some 2
  | 'u' => some 4
  | 'U' => some 8
  | _ => none

/-- The character of an escape, at whose backslash the cursor stands. -/
def escaped (c : Cursor) : Option (Char × Cursor) := do
  let x ← c.peekSecond
  match escapeLength? x with
  | some n =>
      let ds := (c.rest.drop 2).take n
      let v ← Number.valueIn? 16 ds
      if ds.length = n && (v < 0xD800 || (0xE000 ≤ v && v < 0x110000)) then
        some (Char.ofNat v, c.advance (n + 2))
      else none
  | none => return (← escape? x, c.advance 2)

/-- A line of a quoted scalar after the first is indented deeper than `indent`, unless it is in
brackets or holds the closing quote alone. -/
def isIndented (double inFlow : Bool) (indent : Int) (gap : Gap) (c : Cursor) : Bool :=
  match gap with
  | .blanks _ => true
  | .lines _ => inFlow || c.isAt (if double then '"' else '\'') || indent < (c.column : Int)

/-- A quoted scalar after its opening quote, in a block indented to `indent`. -/
def quotedFrom (double inFlow : Bool) (indent : Int) : Nat → Cursor → Option (List Char × Cursor)
  | 0, _ => none
  | fuel + 1, c =>
      if c.atDocumentMarker then none
      else
        let keep (x : Char) (c : Cursor) :=
          (quotedFrom double inFlow indent fuel c).map fun (s, c) => (x :: s, c)
        match c.peek with
        | none => none
        | some '\'' =>
            if double then keep '\'' c.next
            else if c.peekSecond = some '\'' then keep '\'' (c.advance 2)
            else some ([], c.next)
        | some '"' => if double then some ([], c.next) else keep '"' c.next
        | some x =>
            if double && x = '\\' then
              if c.peekSecond.any isBreak then do
                let (gap, c) ← gapFrom false indent (c.left + 1) (.lines 0) (c.advance 2)
                let (s, c) ← quotedFrom double inFlow indent fuel c
                let lead := match gap with
                  | .lines n => List.replicate n '\n'
                  | .blanks cs => cs
                return (lead ++ s, c)
              else do
                let (y, c) ← escaped c
                keep y c
            else if isSpace x || isBreak x then do
              let (gap, c) ← gapFrom false indent (c.left + 1) (.blanks []) c
              if !isIndented double inFlow indent gap c then none
              let (s, c) ← quotedFrom double inFlow indent fuel c
              return (gap.text ++ s, c)
            else keep x c.next

/-- What may stand after a quoted scalar that started on `line`. -/
def endsQuoted (inFlow : Bool) (line : Nat) (c : Cursor) : Bool :=
  match c.peek with
  | none => true
  | some x =>
      isBreak x || (inFlow && x ∈ [',', '}', ']', ':']) ||
      (!inFlow && x = ':' && c.line == line)

/-- A quoted scalar, at whose opening quote the cursor stands. -/
def quotedScalar (inFlow : Bool) (indent : Int) (c : Cursor) : Option (String × Cursor) := do
  let (s, after) ← quotedFrom (c.isAt '"') inFlow indent (c.left + 1) c.next
  let after ← after.skipToLineEnd
  if endsQuoted inFlow c.line after then some (String.ofList s, after) else none

/-! ## Block scalars -/

/-- What becomes of the line ends at the end of a block. -/
inductive Chomping where
  | clip
  | strip
  | keep
  deriving DecidableEq

/-- The indicators after the mark of a block: what to chomp, and an explicit indentation. -/
def blockHeader (c : Cursor) : Option (Chomping × Nat × Cursor) :=
  let chomping? (c : Cursor) : Chomping × Cursor :=
    if c.isAt '+' then (.keep, c.next) else if c.isAt '-' then (.strip, c.next) else (.clip, c)
  let digit? (c : Cursor) : Option (Nat × Cursor) :=
    match c.peek with
    | some d =>
        if d = '0' then none else if d.isDigit then some (Number.digitValue d, c.next)
        else some (0, c)
    | none => some (0, c)
  match chomping? c with
  | (.clip, _) => do
      let (n, c) ← digit? c
      let (chomping, c) := chomping? c
      return (chomping, n, c)
  | (chomping, c) => do
      let (n, c) ← digit? c
      return (chomping, n, c)

/-- Empty lines, and blanks up to column `indent` of the line after them; how many line ends. -/
def skipIndent (indent : Nat) : Nat → Nat → Cursor → Nat × Cursor
  | 0, breaks, c => (breaks, c)
  | fuel + 1, breaks, c =>
      if c.isAt ' ' && c.column < indent then skipIndent indent fuel breaks c.next
      else if c.isAt '\n' then skipIndent indent fuel (breaks + 1) c.next
      else (breaks, c)

/-- Empty lines, and all blanks of the line after them; how many line ends, and the greatest
column that was reached. -/
def skipFirstIndent : Nat → Nat → Nat → Cursor → Nat × Nat × Cursor
  | 0, breaks, widest, c => (breaks, widest, c)
  | fuel + 1, breaks, widest, c =>
      let c := c.skipWhile (· = ' ')
      let widest := max widest c.column
      if c.isAt '\n' then skipFirstIndent fuel (breaks + 1) widest c.next
      else (breaks, widest, c)

/-- The lines of a block: whether a line end is owed, whether the line before started with a
blank, and how many empty lines came after it. The result ends with what is owed then. -/
def blockLines (literal : Bool) (indent : Nat) :
    Nat → Bool → Bool → Nat → Cursor → List Char × Bool × Nat × Cursor
  | 0, owed, _, breaks, c => ([], owed, breaks, c)
  | fuel + 1, owed, blankBefore, breaks, c =>
      if c.column ≠ indent || c.atEnd || (indent = 0 && c.atMarker '.') then
        ([], owed, breaks, c)
      else
        let blankNow := c.peek.any isSpace
        let lead :=
          if !literal && owed && !blankBefore && !blankNow then
            if breaks = 0 then [' '] else List.replicate breaks '\n'
          else (if owed then ['\n'] else []) ++ List.replicate breaks '\n'
        let (line, c) := c.span (!isBreak ·)
        if c.atEnd then (lead ++ line, false, 0, c)
        else
          let (breaks, c) := skipIndent indent (c.left + 1) 0 c.next
          let (more, owed, breaks, c) := blockLines literal indent fuel true blankNow breaks c
          (lead ++ line ++ more, owed, breaks, c)

/-- A block scalar, at whose mark the cursor stands, in a block indented to `outer`. The lines of a
folded one are indented. -/
def blockScalar (literal : Bool) (outer : Int) (c : Cursor) : Option (String × Cursor) := do
  let first := c.line
  let (chomping, increment, c) ← blockHeader c.next
  let c ← c.skipToLineEnd
  if !isLineEnd c.peek then none
  let broke := c.isAt '\n'
  let c := if broke then c.next else c
  if c.isAt '\t' then none
  let fuel := c.left + 1
  let (breaks, indent, c) :=
    if increment > 0 then
      let indent := ((max outer 0) + increment).toNat
      let (breaks, c) := skipIndent indent fuel 0 c
      (breaks, indent, c)
    else
      let (breaks, widest, c) := skipFirstIndent fuel 0 0 c
      let indent := max widest (outer + 1).toNat
      (breaks, if outer > 0 then max indent 1 else indent, c)
  if c.atEnd then
    let text := match chomping with
      | .strip => []
      | .clip => if c.line = first || !broke then [] else ['\n']
      | .keep =>
          if c.line = first || !broke then [] else List.replicate (max breaks 1) '\n'
    return (String.ofList text, c)
  if c.column < indent && (c.column : Int) > outer then none
  let (text, owed, breaks, c) := blockLines literal indent fuel false false breaks c
  if !literal && indent = 0 && text.any (!Text.isBlank ·) then none
  let tail :=
    (if chomping = .strip then []
      else (if owed then ['\n'] else []) ++
        (if c.atEnd && c.column ≥ max indent 1 then ['\n'] else [])) ++
    (if chomping = .keep then List.replicate breaks '\n' else [])
  return (String.ofList (text ++ tail), c)

end Phrasebook.Data.Yaml
