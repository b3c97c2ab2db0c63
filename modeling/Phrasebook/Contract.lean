import Phrasebook.Plan.Lowering

set_option autoImplicit false

/-! # What all languages have in common

The first localization is the reference: its messages are the methods that every localizer has.
Every other localization must have the same messages with the same arguments, in any order. -/

namespace Phrasebook

/-- A method of every localizer. -/
structure Method where
  message : String
  name : String
  arguments : List Argument
  deriving DecidableEq

namespace Method

/-- The arguments as text. -/
def signature (m : Method) : String := signatureText m.arguments

end Method

/-- A language and the names of its code. -/
structure Registration where
  language : String
  module : String
  type : String
  deriving DecidableEq

/-- The methods of every localizer, and the languages there is one for. -/
structure Contract where
  reference : String
  methods : List Method
  registry : List Registration
  deriving DecidableEq

namespace Contract

/-- The first method for a message. -/
def methodFor? (methods : List Method) (message : String) : Option Method :=
  methods.find? (·.message == message)

/-- The registration of a language. -/
def registrationOf? (c : Contract) (language : String) : Option Registration :=
  c.registry.find? (·.language == language)

/-- The methods for the messages of the reference. -/
def methodsOf (reference : Localization) : Except SchemaError (List Method) :=
  reference.messages.mapM fun m => do
    let name ← (methodName m.name).mapError fun v => ⟨.inMessage reference.language m.name, v⟩
    return { message := m.name, name, arguments := m.arguments }

/-- What a localization makes of a method. -/
def methodViolations (reference : String) (l : Localization) (method : Method) :
    List Violation :=
  match l.messageNamed? method.message with
  | none => [.missingMessage reference]
  | some m =>
      if m.arguments = method.arguments then []
      else [.signatureMismatch method.arguments m.arguments]

/-- Where a localization differs from the reference. -/
def differences (reference : String) (methods : List Method) (l : Localization) :
    List SchemaError :=
  methods.flatMap (fun method =>
    Violation.located (.inMessage l.language method.message)
      (methodViolations reference l method)) ++
  (l.messages.filter fun m => (methodFor? methods m.name).isNone).map fun m =>
    ⟨.inMessage l.language m.name, .unexpectedMessage reference⟩

/-- The registration of a localization. -/
def register (l : Localization) : Except SchemaError Registration := do
  let (module, type) ← (languageNames l.language).mapError fun v => ⟨{ language := l.language }, v⟩
  return { language := l.language, module, type }

/-- All errors of one localization. -/
def errorsOf (reference : String) (methods : List Method) (l : Localization) :
    List SchemaError :=
  differences reference methods l ++
  match register l with
  | .ok _ => []
  | .error e => [e]

/-- The contract of localizations. -/
def unify : List Localization → Logged CompileError Contract
  | [] => Traced.fail .noLocalizations
  | reference :: rest => do
      let methods ← (methodsOf reference).mapError CompileError.schema
      let all := reference :: rest
      CompileError.checkSchema (all.flatMap (errorsOf reference.language methods))
      let registry := (partitionResults (all.map register)).2
      Traced.step (.localizationsUnified reference.language methods.length registry.length)
      return { reference := reference.language, methods, registry }

end Contract

end Phrasebook
