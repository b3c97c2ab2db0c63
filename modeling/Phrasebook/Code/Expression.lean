import Phrasebook.Code.Invocation
import Phrasebook.Code.Path

set_option autoImplicit false

/-! # Expressions of Rust code

Expressions occur in types as the lengths of arrays and as constants. An expression that was read
is kept as its code, which depends on where it stands: a chain of calls that starts a line is not
broken after a short name, and in a chain the levels of indentation are not added up. -/

namespace Phrasebook.Code

open Fragment (word hidden shown spacing)

/-- An expression that was read. -/
structure Expression where
  /-- The code; the argument tells whether a line starts with it. -/
  code : Bool → Fragment
  /-- The code where a chain continues after it. -/
  head : Bool → Fragment
  /-- The document after the arrow of an arm, if it is not that of the code. -/
  arm : Option (List Doc) := none
  isRange : Bool := false
  isComparison : Bool := false
  /-- A statement of its own without a semicolon. -/
  isClosed : Bool := false
  /-- Written right behind an opening bracket, if it is all that is in the brackets. -/
  hugs : Bool := false
  /-- Written behind the parameters of a closure without brackets. -/
  follows : Bool := false
  /-- A name no longer than a level of indentation. -/
  isShort : Bool := false
  /-- Broken before what follows it, if it is broken at all. -/
  breaks : Bool := false
  /-- As the last statement of a block it gets a semicolon. -/
  leaves : Bool := false
  /-- As a statement it needs no semicolon. -/
  isLoop : Bool := false
  /-- A number, a character or a truth value. -/
  isSimple : Bool := false
  endsWithBrace : Bool := false
  /-- The brackets of a call of a macro. -/
  invoked : Option Bracket := none

namespace Expression

/-- An expression whose code is the same everywhere. -/
def ofCode (f : Fragment) : Expression where
  code _ := f
  head _ := f.together (-Doc.indentStep)

/-- The code where no line starts with it. -/
def inner (e : Expression) : Fragment := e.code false

/-! ## Operators -/

def binary (operator : String) (left right : Expression) : Expression :=
  let code := (left.inner.filled (-Doc.indentStep) ++ spacing Doc.blank ++ word operator ++
    shown " " ++ right.inner).filled Doc.indentStep
  { ofCode code with breaks := true, endsWithBrace := right.endsWithBrace }

def assignment (left right : Expression) : Expression :=
  let code := (left.inner ++ word " = " ++ spacing Doc.tight ++ right.inner).filled 0
  { ofCode code with breaks := true, leaves := true, endsWithBrace := right.endsWithBrace }

def cast (e : Expression) (type : Fragment) : Expression :=
  let code := (e.inner.filled (-Doc.indentStep) ++ spacing Doc.blank ++ word "as " ++
    type).filled Doc.indentStep
  { ofCode code with breaks := true }

def range (first : Option Expression) (operator : String) (last : Option Expression) :
    Expression :=
  let part (e : Option Expression) := (e.map inner).getD .empty
  { ofCode (part first ++ word operator ++ part last) with
    isRange := true
    breaks := last.any (·.breaks)
    endsWithBrace := last.any (·.endsWithBrace) }

/-- An expression after a sign or a word. -/
def marked (mark : String) (e : Expression) : Expression :=
  { ofCode (word mark ++ e.inner) with breaks := e.breaks, endsWithBrace := e.endsWithBrace }

/-- A word that leaves a block, with a label and a value if there are any. -/
def leave (keyword : String) (label : Option Fragment) (value : Option Expression) :
    Expression :=
  let part (f : Option Fragment) := (f.map fun f => shown " " ++ f).getD .empty
  { ofCode (word keyword ++ part label ++ part (value.map inner)) with
    leaves := true
    breaks := value.any (·.breaks)
    endsWithBrace := value.any (·.endsWithBrace) }

/-! ## Chains -/

/-- The line end that a chain may have after `e`. -/
def link (atStart : Bool) (e : Expression) : Fragment :=
  if atStart && e.isShort then .empty else spacing Doc.gap

/-- Arguments of a call. -/
def arguments (es : List Expression) (trailing : Bool) : Fragment :=
  match es with
  | [e] =>
      if e.hugs then word "(" ++ e.inner ++ (if trailing then hidden "," else .empty) ++ word ")"
      else .inBrackets "(" ")" [e.inner] trailing
  | es => .inBrackets "(" ")" (es.map inner) trailing

def call (e : Expression) (es : List Expression) (trailing : Bool) : Expression where
  code start := e.code start ++ arguments es trailing
  head _ := e.head false ++ arguments es trailing
  breaks := e.breaks
  follows := true

/-- A field, or another member that is named after a dot. -/
def member (e : Expression) (name : Fragment) : Expression where
  code start := (e.head start ++ e.link start ++ word "." ++ name).together Doc.indentStep
  head start := e.head start ++ e.link start ++ word "." ++ name
  breaks := true

def methodCall (e : Expression) (name : Fragment) (es : List Expression) (trailing : Bool) :
    Expression :=
  let part (start : Bool) (inset : Int) :=
    e.head start ++ e.link start ++ word "." ++ name ++ (arguments es trailing).together inset
  { code := fun start =>
      (part start (if start && e.isShort then -Doc.indentStep else 0)).together Doc.indentStep
    head := fun start => part start 0
    breaks := true }

def index (e i : Expression) : Expression where
  code start := e.code start ++ word "[" ++ i.inner ++ word "]"
  head start := e.head start ++ word "[" ++ i.inner ++ word "]"
  breaks := true

/-- An expression that may leave with a failure. -/
def attempt (e : Expression) : Expression where
  code start := e.code start ++ word "?"
  head start := e.head start ++ word "?"
  breaks := e.breaks

/-! ## Values -/

def ofPath (q : QualifiedPath) : Expression :=
  let isShort := match q.self, q.path.single? with
    | none, some s => s.isBare && s.name.utf8ByteSize ≤ Doc.indentStep.toNat
    | _, _ => false
  { ofCode (q.code true) with isShort }

/-- A literal; simple ones are those of which several stand on a line. -/
def literal (f : Fragment) (isSimple : Bool) : Expression := { ofCode f with isSimple }

def paren (e : Expression) : Expression :=
  { ofCode (word "(" ++ e.inner ++ word ")") with breaks := e.breaks }

def tuple (es : List Expression) (trailing : Bool) : Expression :=
  let code := match es with
    | [e] =>
        let item := spacing Doc.gap ++ e.inner ++ word "," ++ spacing Doc.gap
        word "(" ++ item.outdented.together Doc.indentStep ++ word ")"
    | es => Fragment.inBrackets "(" ")" (es.map inner) trailing
  { ofCode code with
    hugs := true
    arm := if es.isEmpty then some [.word "\x7b", Doc.tight, .word "\x7d"] else none }

def array (es : List Expression) (trailing : Bool) : Expression :=
  let code :=
    if es.isEmpty then word "[]"
    else if es.all (·.isSimple) then
      let items := (es.map inner).intersperse (word "," ++ spacing Doc.blank)
      let comma : Fragment :=
        ⟨if trailing then [.mark ',' false] else [], [.brk { before := "," }]⟩
      ((word "[" ++ spacing Doc.gap ++ (Fragment.join items).filled 0 ++ comma).outdented ++
        word "]").together Doc.indentStep
    else .inBrackets "[" "]" (es.map inner) trailing
  { ofCode code with hugs := true }

/-- An array of copies of a value. -/
def copies (e length : Expression) : Expression :=
  .ofCode (word "[" ++ e.inner ++ word "; " ++ length.inner ++ word "]")

/-- The fields of a structure value: each with its code, then those taken from another value. -/
def structure_ (path : QualifiedPath) (fields : List Fragment) (trailing : Bool)
    (rest : Option (Option Expression)) : Expression :=
  let comma : Fragment := word "," ++ spacing Doc.blank
  let last : Fragment :=
    ⟨if trailing then [.mark ',' false] else [], [.brk { blank := 1, before := "," }]⟩
  let listed := match rest with
    | none => if fields.isEmpty then .empty else .join (fields.intersperse comma) ++ last
    | some e =>
        .join (fields.map (· ++ comma)) ++ word ".." ++ (e.map inner).getD .empty ++
          spacing Doc.blank
  let inside := (path.code true).filled (-Doc.indentStep) ++ word " \x7b" ++
    spacing (.brk { blank := 1, ifFollowed := true }) ++ listed
  let code : Fragment := ⟨inside.tokens,
    Doc.narrow Doc.indentStep 34 (Doc.lastOffset (-Doc.indentStep) inside.doc)⟩
  { ofCode (code ++ word "\x7d") with hugs := true, endsWithBrace := true }

/-- A call of a macro. -/
def invocation (path : Path) (b : Bracket) (tokens : List Token) : Expression :=
  { ofCode (Invocation.code (path.code false) b tokens) with
    invoked := some b
    endsWithBrace := b = .curly }

/-! ## Arms -/

/-- The document of an arm of a choice after its arrow. One that is not a block is put in a block
if it does not fit. -/
def armDoc (e : Expression) : List Doc :=
  match e.arm with
  | some ds => ds
  | none =>
      Doc.tight :: Doc.together Doc.indentStep
        ([.brk { before := "\x7b" }] ++ e.inner.doc ++
          [.brk { offset := -Doc.indentStep, before := if e.leaves then ";" else "",
                  after := "\x7d", unbroken := if e.isClosed then "" else "," }])

/-- An expression before a block, with the blank or line end between them. -/
def condition (e : Expression) : Fragment :=
  (e.inner ++ if e.breaks then spacing Doc.blank else shown " ").together 0

end Expression

/-! ## Blocks -/

/-- A statement of a block: its code with the line end, and its expression if it is nothing
else. -/
structure BlockItem where
  code : Fragment
  value : Option Expression := none

namespace BlockItem

/-- A lone semicolon. -/
def nothing : BlockItem := { code := hidden ";" }

def ofExpression (e : Expression) (semicolon : Bool) : BlockItem :=
  let mark :=
    if semicolon then if e.isLoop then hidden ";" else word ";"
    else if e.leaves then shown ";" else .empty
  { code := (e.code true ++ mark).filled 0 ++ spacing Doc.newline
    value := if semicolon then none else some e }

/-- A call of a macro as a statement. One in round or square brackets needs a semicolon. -/
def ofInvocation (e : Expression) (semicolon : Bool) : BlockItem :=
  let mark := match semicolon, e.invoked with
    | false, _ => .empty
    | true, some .curly => hidden ";"
    | true, _ => word ";"
  { code := e.inner ++ mark ++ spacing Doc.newline }

/-- A variable with its value, and what is done if the value does not match. -/
def variable_ (pattern : Fragment) (value : Option Expression) (otherwise : Option Fragment) :
    BlockItem :=
  let value := (value.map fun e => word " = " ++ spacing Doc.tight ++ e.inner).getD .empty
  let otherwise := (otherwise.map fun f => spacing Doc.blank ++ word "else " ++ f).getD .empty
  { code := (word "let " ++ pattern ++ value ++ otherwise).filled 0 ++ word ";" ++
      spacing Doc.newline }

end BlockItem

/-- A block in curly brackets. -/
structure BlockCode where
  items : List BlockItem

namespace BlockCode

/-- The statements, each on a line of its own. -/
def lines (b : BlockCode) : Fragment := .join (b.items.map (·.code))

/-- The value of a block that is nothing else. -/
def only? (b : BlockCode) : Option Expression :=
  match b.items with
  | [i] => i.value
  | _ => none

/-- The block on one line, if it is a single expression that fits. -/
def small (b : BlockCode) : Fragment :=
  let content := match b.only? with
    | some e => spacing Doc.blank ++ (e.code true).filled 0 ++ spacing Doc.blank
    | none => spacing Doc.blank ++ b.lines
  word "\x7b" ++ (if b.items.isEmpty then .empty else content.outdented) ++ word "\x7d"

/-- The block over several lines, unless it is empty, as the end of a line. -/
def long (b : BlockCode) : Fragment :=
  let content := spacing Doc.opening ++ b.lines
  word "\x7b" ++ spacing Doc.tight ++ content.outdented.together Doc.indentStep ++ word "\x7d"

end BlockCode

namespace Expression

/-- A block after a label or a word. -/
def block (label : Fragment) (b : BlockCode) : Expression :=
  let arm := match label.tokens, b.only? with
    | [], some e => e.armDoc
    | _, _ => label.doc ++ b.long.doc
  { ofCode (label ++ b.small.together Doc.indentStep) with
    arm := some arm, isClosed := true, hugs := true, endsWithBrace := true }

/-- A block after a word. -/
def markedBlock (keyword : String) (b : BlockCode) (isClosed : Bool) : Expression :=
  { ofCode (word keyword ++ b.small.together Doc.indentStep) with
    isClosed, hugs := true, endsWithBrace := true }

/-- The start of a choice between two blocks. -/
def branch (e : Expression) : Fragment :=
  word "if " ++ e.condition.together (-Doc.indentStep)

/-- A block that is run on a condition. -/
def ifOnly (e : Expression) (b : BlockCode) : Expression :=
  let rest := if b.items.isEmpty then word "\x7b\x7d"
    else word "\x7b" ++ (spacing Doc.newline ++ b.lines).outdented ++ word "\x7d"
  { ofCode ((e.branch ++ rest).together Doc.indentStep) with
    isClosed := true, isLoop := true, endsWithBrace := true }

/-- Blocks of which the first is run whose condition holds. -/
def ifElse (branches : List (Expression × BlockCode)) (otherwise : Option BlockCode) :
    Expression :=
  match branches, otherwise with
  | [(e, b)], none => e.ifOnly b
  | branches, otherwise =>
      let parts := branches.map fun (e, b) => e.branch ++ b.small
      let last := (otherwise.map fun b => [b.small]).getD []
      let code := Fragment.join ((parts ++ last).intersperse (word " else "))
      { ofCode (code.together Doc.indentStep) with
        isClosed := true, isLoop := otherwise.isNone, endsWithBrace := true }

/-- A block that is repeated, after its label and its head. -/
def loop (head : Fragment) (b : BlockCode) (isLoop : Bool) : Expression :=
  { ofCode ((head ++ b.long).filled 0) with isClosed := true, isLoop, endsWithBrace := true }

/-- An arm of a choice: a pattern, a condition, and what the arm gives. -/
def armCode (pattern : Fragment) (guard : Option Expression) (body : Expression) (comma : Bool) :
    Fragment :=
  let guard := (guard.map fun e => word " if " ++ e.inner).getD .empty
  let body : Fragment := ⟨body.inner.tokens, body.armDoc⟩
  (pattern ++ guard ++ word " => " ++ body).filled 0 ++
    (if comma then hidden "," else .empty) ++ spacing Doc.newline

/-- A choice by patterns. -/
def choice (e : Expression) (arms : List Fragment) : Expression :=
  let content := (spacing Doc.opening ++ .join arms).outdented
  let code := word "match " ++ e.condition ++ word "\x7b" ++ spacing Doc.tight ++
    content.together Doc.indentStep ++ word "\x7d"
  { ofCode (code.filled 0) with isClosed := true, follows := true, endsWithBrace := true }

/-- A function without a name: words before it, its parameters, the type it gives, its body. -/
def closure (words : Fragment) (params : List Fragment) (trailing : Bool)
    (output : Option Fragment) (body : Expression) : Expression :=
  let gap := if params.isEmpty then .empty else spacing Doc.gap
  let inputs := word "|" ++ gap ++
    .join (params.intersperse (word "," ++ spacing Doc.blank)) ++
    (if trailing then hidden "," else .empty)
  let code := match output with
    | none =>
        let wrapped : Fragment :=
          ⟨body.inner.tokens,
            [.brk { before := "\x7b" }] ++ body.inner.doc ++
              [.brk { offset := -Doc.indentStep, before := if body.leaves then ";" else "",
                      after := "\x7d" }]⟩
        (inputs ++ word "|" ++ spacing Doc.blank).outdented.together Doc.indentStep ++
          spacing Doc.tight ++
          (if body.hugs || body.follows then body.inner else wrapped.together Doc.indentStep)
    | some type =>
        let inputs := if params.isEmpty then inputs
          else (inputs ++ spacing (.brk { before := "," })).outdented
        (inputs ++ word "|").together Doc.indentStep ++ word " -> " ++ type ++ shown " " ++
          spacing Doc.tight ++ body.inner
  { ofCode ((words ++ code).filled 0) with hugs := true, endsWithBrace := body.endsWithBrace }

/-- A pattern with the value it is matched against, as a condition. -/
def matched (pattern : Fragment) (e : Expression) : Expression :=
  let code := word "let " ++ pattern.filled 0 ++ word " = " ++ spacing Doc.tight ++
    e.inner.filled 0
  { ofCode (code.filled 0) with breaks := e.breaks, endsWithBrace := e.endsWithBrace }

end Expression

end Phrasebook.Code
