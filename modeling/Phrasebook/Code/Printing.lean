import Phrasebook.Code.Syntax
import Phrasebook.Text.Literal

set_option autoImplicit false

/-! # Writing generated code

Each form of generated code as a piece of text: its tokens, and where its lines may be broken. -/

namespace Phrasebook.Code

open Fragment (word hidden spacing join)

/-! ## Building blocks -/

/-- The line end after a statement or item. -/
def lineEnd : Fragment := spacing Doc.newline

def lines (fs : List Fragment) : Fragment := join (fs.map (· ++ lineEnd))

/-- A quoted text. -/
def quote (s : String) : Fragment := .ofToken (.literal (Text.literal s))

/-- A block in curly brackets: the text before it, its lines, and the closing bracket. An empty
block stays on one line. -/
def braced (head content : Fragment) : Fragment :=
  let inner := head ++ word "\x7b" ++ spacing Doc.opening ++ content
  inner.outdented.together Doc.indentStep ++ word "\x7d"

/-- A block in curly brackets that starts on the line of what is before it. -/
def inlineBraced (content : Fragment) : Fragment :=
  let inner := spacing Doc.opening ++ content
  word "\x7b" ++ spacing Doc.tight ++ inner.outdented.together Doc.indentStep ++ word "\x7d"

/-- Arguments of a call. -/
def callArguments (arguments : List Fragment) : Fragment := .bracketed "(" ")" arguments

/-- A call of a method. The call may stand on a line of its own below the receiver, unless
`short` tells that the receiver is a short name at the start of the line. -/
def methodCall (receiver : Fragment) (name : Fragment) (arguments : List Fragment)
    (short : Bool) : Fragment :=
  let inset := if short then -Doc.indentStep else 0
  (receiver.together (-Doc.indentStep) ++ (if short then .empty else spacing Doc.gap) ++
    word "." ++ name ++ (callArguments arguments).together inset).together Doc.indentStep

/-- A text as a value that its user owns. -/
def owned (s : String) : Fragment := methodCall (quote s) (word "to_owned") [] false

/-- An expression as a statement. -/
def asStatement (f : Fragment) : Fragment := (f ++ word ";").filled 0 ++ lineEnd

/-- An expression as the value of a block. -/
def asValue (f : Fragment) : Fragment := f.filled 0 ++ lineEnd

/-! ## Documentation -/

/-- Whether a text can stand in a block comment: comments in it open and close in pairs. -/
def nestsWell : Nat → List Char → Bool
  | depth, [] => depth == 0
  | depth, '/' :: '*' :: cs => nestsWell (depth + 1) cs
  | depth, '*' :: '/' :: cs =>
      match depth with
      | 0 => false
      | d + 1 => nestsWell d cs
  | depth, _ :: cs => nestsWell depth cs

/-- The text without blanks at its end. -/
def withoutTrailingBlanks (cs : List Char) : List Char :=
  (cs.reverse.dropWhile (· == ' ')).reverse

/-- The text without blanks at the end of every line but the last. -/
def withoutInnerBlanks : List Char → List Char → List Char
  | line, [] => line
  | line, '\n' :: cs => withoutTrailingBlanks line ++ '\n' :: withoutInnerBlanks [] cs
  | line, c :: cs => withoutInnerBlanks (line ++ [c]) cs

/-- A documentation comment of an item, or, if `inner`, of the whole file. A text of several lines
becomes a block comment, or an attribute if it cannot be one. -/
def documentation (inner : Bool) (s : String) : Fragment :=
  let cs := s.toList
  let mark := if inner then "#!" else "#"
  let value := Text.literal s
  let doc :=
    if !cs.contains '\n' && (inner || cs.head? != some '/') then
      [.word ((if inner then "//!" else "///") ++ String.ofList (withoutTrailingBlanks cs)),
        Doc.newline]
    else if nestsWell 0 cs && (inner || !(cs.head?.any (['*', '/'].contains ·))) then
      [.word ((if inner then "/*!" else "/**") ++ String.ofList (withoutInnerBlanks [] cs) ++ "*/"),
        Doc.newline]
    else [.word (mark ++ "[doc = " ++ value ++ "]"), Doc.blank]
  ⟨Token.docTokens inner value, doc⟩

/-- A documentation comment whose text is always the same. -/
def fixedDocumentation (s value : String) : Fragment :=
  ⟨Token.docTokens false value, [.word ("///" ++ s), Doc.newline]⟩

/-- An attribute on a line of its own. -/
def attributeLine (s : String) : Fragment := word s ++ spacing Doc.blank

/-! ## Parameters -/

namespace ParameterType

def code : ParameterType → Fragment
  | .text => word "&str"
  | .integer width => word width.name
  | .float => word "f64"
  | .display => word "&dyn ::core::fmt::Display"
  | .custom path => word "&" ++ path.code

end ParameterType

namespace Parameter

def code (p : Parameter) : Fragment := word p.name ++ word ": " ++ p.type.code

end Parameter

/-- The head of a function: a first parameter, which a comma always follows, and the others. -/
def functionHead (name : String) (first : Fragment) (params : List Parameter) (result : Fragment) :
    Fragment :=
  let all := first :: params.map Parameter.code
  let doc := Doc.lastOffset (-Doc.indentStep) (Doc.gap :: Doc.commaSeparated (all.map (·.doc)))
  let inputs : Fragment :=
    ⟨first.tokens ++ [.mark ',' false] ++ Fragment.commaTokens (params.map Parameter.code),
      [Doc.tight] ++ Doc.together 0 doc⟩
  word s!"fn {name}" ++ word "(" ++ inputs ++ word ")" ++ result.together (-Doc.indentStep)

/-- The head of a method that gives a text. -/
def methodHead (name : String) (params : List Parameter) : Fragment :=
  functionHead name (word "&self") params (word " -> String")

/-! ## Statements -/

namespace Statement

def code : Statement → Fragment
  | .push s => asStatement (methodCall (word bufferName) (word "push_str") [quote s] true)
  | .pushParameter name =>
      asStatement (methodCall (word bufferName) (word "push_str") [word name] true)
  | .pushNumber name =>
      let number := methodCall (word name) (word "to_string") [] false
      asStatement (methodCall (word bufferName) (word "push_str") [word "&" ++ number] true)
  | .write name form =>
      let pattern := Text.literal (form.pattern name)
      let arguments : Fragment :=
        ⟨[.word bufferName, .mark ',' false, .literal pattern],
          [Doc.gap] ++ Doc.filled 0 [.word (bufferName ++ ","), Doc.blank, .word pattern] ++
            [.brk { offset := -Doc.indentStep }]⟩
      let invoked := word "write!(" ++ arguments.together Doc.indentStep ++ word ")"
      asStatement (methodCall invoked (word "ok") [] false)
  | .call function own arguments =>
      let buffer := word (if own then "&mut " ++ bufferName else bufferName)
      let all := buffer :: arguments.map word
      let inputs : Fragment :=
        ⟨[.left .round] ++ buffer.tokens ++ [.mark ',' false] ++
            Fragment.commaTokens (arguments.map word) ++ [.right .round],
          (callArguments all).doc⟩
      asStatement (word s!"Self::{function}" ++ inputs)
  | .giveBack s => asStatement (word "return " ++ owned s)

end Statement

namespace Pattern

def code : Pattern → Fragment
  | .exactly n => word (String.ofList (Number.decimal n))
  | .atLeast n => word (String.ofList (Number.decimal n) ++ "..")
  | .any => word "_"

end Pattern

/-- An arm whose body is a block. -/
def blockArm (p : Pattern) (ss : List Statement) : Fragment :=
  (p.code ++ word " => " ++ inlineBraced (join (ss.map Statement.code))).filled 0 ++
    hidden "," ++ lineEnd

/-- An arm whose body is an expression. It is put in a block if it does not fit. -/
def valueArm (p : Pattern) (body : Fragment) : Fragment :=
  let wrapped : Fragment :=
    ⟨body.tokens ++ [.mark ',' false],
      [.brk { before := "\x7b" }] ++ body.doc ++
        [.brk { offset := -Doc.indentStep, after := "\x7d", unbroken := "," }]⟩
  (p.code ++ word " => " ++ spacing Doc.tight ++ wrapped.together Doc.indentStep).filled 0 ++
    lineEnd

/-- A choice by the value of a parameter. -/
def matching (driver : String) (arms : List Fragment) : Fragment :=
  (word "match " ++ (word driver ++ word " ").together 0 ++ inlineBraced (join arms)).filled 0

namespace Procedure

def code : Procedure → Fragment
  | .statements ss => join (ss.map Statement.code)
  | .choice driver arms => asValue (matching driver (arms.map fun (p, ss) => blockArm p ss))

end Procedure

namespace MethodBody

def code : MethodBody → Fragment
  | .text s => asValue (owned s)
  | .texts driver arms =>
      asValue (matching driver (arms.map fun (p, s) =>
        valueArm p (match s with
          | some s => owned s
          | none => word "String::new()")))
  | .buffered p =>
      (word s!"let mut {bufferName} = String::new();" ++ lineEnd) ++ p.code ++
        asValue (word bufferName)

end MethodBody

/-! ## Items -/

namespace MethodCode

def code (m : MethodCode) : Fragment :=
  braced (methodHead m.name m.params ++ word " ") m.body.code ++ lineEnd

end MethodCode

namespace AuxiliaryCode

def code (a : AuxiliaryCode) : Fragment :=
  let buffer := word (a.buffer ++ ": &mut String")
  braced (functionHead a.name buffer a.params .empty ++ word " ") a.body.code ++ lineEnd

end AuxiliaryCode

namespace LocalizerCode

/-- An implementation block. -/
def implementation (head content : Fragment) : Fragment :=
  braced ((word "impl " ++ head).filled (-Doc.indentStep) ++ word " ")
    content ++ lineEnd

def code (l : LocalizerCode) : Fragment :=
  join (l.imports.map fun path => word s!"use {path} as _;" ++ lineEnd) ++
  word s!"use super::{traitName};" ++ lineEnd ++
  documentation false s!" Localizer for the `{l.language}` language." ++
  attributeLine "#[derive(Debug, Clone, Copy, Default)]" ++
  word s!"pub struct {l.type};" ++ lineEnd ++
  (if l.auxiliaries.isEmpty then .empty
    else implementation (word l.type) (join (l.auxiliaries.map AuxiliaryCode.code))) ++
  implementation
    (word traitName ++ spacing Doc.blank ++ word "for " ++ word l.type)
    (join (l.methods.map MethodCode.code))

end LocalizerCode

namespace SignatureCode

def code (s : SignatureCode) : Fragment :=
  documentation false s!" Renders the `{s.message}` message." ++
  (methodHead s.name s.params ++ word ";").together Doc.indentStep ++ lineEnd

end SignatureCode

namespace InterfaceCode

/-- An item whose value is a list. -/
def listItem (head : String) (items : List Fragment) : Fragment :=
  let list := if items.isEmpty then word "[]" else .bracketed "[" "]" items
  (word head ++ word " = " ++ spacing Doc.tight ++ word "&" ++ list ++ word ";").together 0 ++
    lineEnd

/-- An entry of the table of localizers. -/
def entry (r : Registration) : Fragment :=
  let object := (word "&" ++ word r.type).filled (-Doc.indentStep) ++ spacing Doc.blank ++
    word s!"as &dyn {traitName}"
  .bracketed "(" ")" [quote r.language, object.filled Doc.indentStep]

/-- The test for one type of localizer. -/
def test (r : Registration) : Fragment :=
  let is := word "is" ++ word "::" ++ .bracketed "<" ">" [word r.type]
  let condition := (methodCall (word "any") is [] false ++ spacing Doc.blank).together 0
  let answer := asStatement (word "return " ++ quote r.language)
  let inner :=
    word "if " ++ condition.together (-Doc.indentStep) ++ word "\x7b" ++ lineEnd ++ answer
  asValue ((inner.outdented ++ word "\x7d").together Doc.indentStep)

def code (i : InterfaceCode) : Fragment :=
  documentation true s!" Localizers generated for the `{i.module}` module." ++
  lines (i.languages.map fun r => word s!"mod {r.module};") ++
  lines (i.languages.map fun r => word s!"pub use {r.module}::{r.type};") ++
  fixedDocumentation " Messages every supported language implements."
    "r\" Messages every supported language implements.\"" ++
  braced (word s!"pub trait {traitName}: ::core::any::Any + Send + Sync ")
    (join (i.methods.map SignatureCode.code)) ++ lineEnd ++
  fixedDocumentation " Identifiers of the supported languages, in registration order."
    "r\" Identifiers of the supported languages, in registration order.\"" ++
  listItem "pub const SUPPORTED: &[&str]" (i.languages.map fun r => quote r.language) ++
  listItem s!"static REGISTRY: &[(&str, &dyn {traitName})]" (i.languages.map entry) ++
  fixedDocumentation " Returns the localizer registered for `lang`, or `None` when the"
    "r\" Returns the localizer registered for `lang`, or `None` when the\"" ++
  fixedDocumentation " identifier is unknown." "r\" identifier is unknown.\"" ++
  attributeLine "#[must_use]" ++
  braced (word s!"pub fn new(lang: &str) -> Option<&'static dyn {traitName}> ")
    (asValue (word ("REGISTRY.iter().find(|(id, _)| *id == lang)" ++
      ".map(|(_, localizer)| *localizer)"))) ++ lineEnd ++
  fixedDocumentation " Returns the language identifier of `localizer`, or `\"\"` when it"
    "r#\" Returns the language identifier of `localizer`, or `\"\"` when it\"#" ++
  fixedDocumentation " is not one of the generated localizers."
    "r\" is not one of the generated localizers.\"" ++
  attributeLine "#[must_use]" ++
  braced (word s!"pub fn language(localizer: &dyn {traitName}) -> &'static str ")
    (word "let any: &dyn ::core::any::Any = localizer;" ++ lineEnd ++
      join (i.languages.map test) ++ asValue (quote "")) ++ lineEnd

end InterfaceCode

/-- The text of a file: its header, an empty line, the code. -/
def fileText (s : Settings) (code : Fragment) : String :=
  s.header ++ "\n" ++ Doc.render (Doc.together 0 code.doc)

/-- The text of the file `name`, which has to be code: if `isTyped` denies that types stand where
they are expected, there is no such file. -/
def renderFile (s : Settings) (name : String) (isTyped : Bool) (code : Fragment) :
    Except CompileError String :=
  if isTyped then .ok (fileText s code) else .error (.render name)

end Phrasebook.Code
