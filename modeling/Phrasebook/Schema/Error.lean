import Phrasebook.Format.Spec

set_option autoImplicit false

/-! # What can be wrong with definitions

Each way in which a localization can break the rules, with the place where it does, and the errors
of a whole compilation. -/

namespace Phrasebook

/-- Where in the definitions something is wrong. -/
structure Location where
  language : String
  message : Option String := none
  var : Option String := none
  deriving DecidableEq

namespace Location

def inMessage (language message : String) : Location := { language, message := some message }

def inVariable (language message var : String) : Location :=
  { language, message := some message, var := some var }

def text (l : Location) : String :=
  s!"language '{l.language}'" ++
  (match l.message with
    | some m => s!", message '{m}'"
    | none => "") ++
  (match l.var with
    | some v => s!", variable '{v}'"
    | none => "")

end Location

/-- A rule that definitions break. -/
inductive Violation where
  | unknownArgument (name : String)
  | unknownVariable (name : String)
  | duplicateArgument (name : String)
  | duplicateMessage (name : String)
  | duplicateVariable (name : String)
  | duplicateLanguage
  | unsetTemplate
  | conflictingTemplates
  | emptyPlural
  | pluralArgumentNotInteger (name : String) (found : ArgType)
  | missingOtherBranch (argument : String)
  | variableArgumentNotInMessage (name : String)
  | argumentNotInVariable (name : String)
  | variableCycle (path : List String)
  | invalidIdentifier (name : String)
  | invalidDirective (directive : String) (reason : Format.Fault)
  | reservedName (name : String)
  | invalidTypePath (path : String)
  | missingMessage (reference : String)
  | unexpectedMessage (reference : String)
  | signatureMismatch (expected found : List Argument)
  deriving DecidableEq

/-- Arguments as a signature: names and types in order. -/
def signatureText (arguments : List Argument) : String :=
  String.intercalate ", " (arguments.map fun a => s!"{a.name}: {a.type.name}")

namespace Violation

def message : Violation → String
  | .unknownArgument name => s!"argument '{name}' is not declared"
  | .unknownVariable name => s!"variable '{name}' is not declared"
  | .duplicateArgument name => s!"argument '{name}' is declared more than once"
  | .duplicateMessage name => s!"message '{name}' is declared more than once"
  | .duplicateVariable name => s!"variable '{name}' is declared more than once"
  | .duplicateLanguage => "language is supplied more than once"
  | .unsetTemplate => "no template; expected a plain or a plural template"
  | .conflictingTemplates => "plain and plural templates are mutually exclusive"
  | .emptyPlural => "plural template has no branches"
  | .pluralArgumentNotInteger name found =>
      s!"plural argument '{name}' must be an integer, found {found.name}"
  | .missingOtherBranch argument =>
      s!"plural on '{argument}' needs an 'other' branch to cover every value"
  | .variableArgumentNotInMessage name =>
      s!"variable argument '{name}' is not declared by the message"
  | .argumentNotInVariable name => s!"argument '{name}' is not passed to this variable"
  | .variableCycle path => "variable references form a cycle: " ++ String.intercalate " -> " path
  | .invalidIdentifier name => s!"'{name}' is not a valid identifier"
  | .invalidDirective directive reason =>
      s!"invalid format directive '{directive}': {reason.message}"
  | .reservedName name => s!"'{name}' is reserved by the generated code"
  | .invalidTypePath path => s!"'{path}' is not a valid type path"
  | .missingMessage reference =>
      s!"message is declared by the reference language '{reference}' but missing here"
  | .unexpectedMessage reference =>
      s!"message is not declared by the reference language '{reference}'"
  | .signatureMismatch expected found =>
      s!"signature ({signatureText found}) differs from the reference ({signatureText expected})"

end Violation

/-- A broken rule and where it is broken. -/
structure SchemaError where
  location : Location
  violation : Violation
  deriving DecidableEq

namespace SchemaError

def message (e : SchemaError) : String := s!"{e.location.text}: {e.violation.message}"

end SchemaError

/-- Why a compilation fails. -/
inductive CompileError where
  | schema (error : SchemaError)
  | noLocalizations
  | render (unit : String)
  | aggregate (errors : List CompileError)

namespace CompileError

/-- No error, the error itself, or several together. -/
def ofList? : List CompileError → Option CompileError
  | [] => none
  | [e] => some e
  | es => some (.aggregate es)

/-- The texts of several errors, numbered from `n`, one a line. -/
def numbered : Nat → List String → List String
  | _, [] => []
  | n, t :: ts => s!"{n}: {t}" :: numbered (n + 1) ts

/-- The text of an error. Code that is not well formed has none: what is said of it is up to the
reader of the code. -/
def message? : CompileError → Option String
  | .schema e => some e.message
  | .noLocalizations => some "no localizations were supplied"
  | .render _ => none
  | .aggregate es =>
      (messages? es).map fun ts =>
        s!"{ts.length} compilation errors:\n" ++ String.intercalate "\n" (numbered 1 ts)
where
  messages? : List CompileError → Option (List String)
    | [] => some []
    | e :: es => do
        let t ← message? e
        let ts ← messages? es
        return t :: ts

end CompileError

end Phrasebook
