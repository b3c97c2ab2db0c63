import Phrasebook.Code.TypePath
import Phrasebook.Format.Rendering
import Phrasebook.Message.References
import Phrasebook.Naming
import Phrasebook.Settings

set_option autoImplicit false

/-! # Validation

Every rule that localizations have to keep is checked, and every violation is reported, in the
order of the definitions. A template of a variable sees only the arguments that are passed to it;
`visible` is the list of these, and absent for the template of a message. -/

namespace Phrasebook

/-- The violation of a name that is refused. -/
def refused {α : Type} (r : Except Violation α) : List Violation :=
  match r with
  | .ok _ => []
  | .error v => [v]

/-- Violations with their place. -/
def Violation.located (l : Location) (vs : List Violation) : List SchemaError :=
  vs.map fun v => ⟨l, v⟩

/-- Every value of the integer type has a branch of its own. -/
def Plural.coversWidth (p : Plural) (width : IntegerWidth) : Bool :=
  width.isUnsigned && p.coversNaturals

namespace Message

/-- The type of an argument that a template refers to. -/
def visibleType (m : Message) (visible : Option (List String)) (name : String) :
    Except Violation ArgType :=
  match m.argumentNamed? name with
  | none => .error (.unknownArgument name)
  | some a =>
      match visible with
      | none => .ok a.type
      | some names => if name ∈ names then .ok a.type else .error (.argumentNotInVariable name)

/-- What is wrong with a part of a template. -/
def partViolations (m : Message) (visible : Option (List String)) : Part → List Violation
  | .literal _ => []
  | .argument name directive =>
      match m.visibleType visible name with
      | .error v => [v]
      | .ok type =>
          match Format.Rendering.resolve type directive with
          | .ok _ => []
          | .error fault => [.invalidDirective (directive.getD "") fault]
  | .var name =>
      match m.variableNamed? name, visible with
      | none, _ => [.unknownVariable name]
      | some _, none => []
      | some v, some names => (v.arguments.filter (· ∉ names)).map .argumentNotInVariable

def bodyViolations (m : Message) (visible : Option (List String)) (b : Body) : List Violation :=
  b.flatMap (m.partViolations visible)

/-- What is wrong with the argument that drives a plural. -/
def driverViolations (m : Message) (visible : Option (List String)) (name : String) :
    List Violation :=
  match m.visibleType visible name with
  | .error v => [v]
  | .ok .integer => []
  | .ok type => [.pluralArgumentNotInteger name type]

def pluralViolations (m : Message) (width : IntegerWidth) (visible : Option (List String))
    (p : Plural) : List Violation :=
  if p.isEmpty then [.emptyPlural]
  else
    m.driverViolations visible p.argument ++
    (if p.other.isNone && !p.coversWidth width then [.missingOtherBranch p.argument] else []) ++
    p.branches.flatMap fun (_, b) => m.bodyViolations visible b

def templateViolations (m : Message) (width : IntegerWidth) (visible : Option (List String)) :
    Template → List Violation
  | .unset => [.unsetTemplate]
  | .plain b => m.bodyViolations visible b
  | .plural p => m.pluralViolations width visible p

/-- What is wrong with the type of an argument. -/
def typeViolations : ArgType → List Violation
  | .custom path => if (Code.TypePath.read? path).isSome then [] else [.invalidTypePath path]
  | _ => []

/-- What is wrong with arguments, after arguments with the parameter names `taken`. -/
def argumentViolations (taken : List String) : List Argument → List Violation
  | [] => []
  | a :: as =>
      match parameterName a.name with
      | .error v => v :: typeViolations a.type ++ argumentViolations taken as
      | .ok name =>
          (if name ∈ taken then [.duplicateArgument a.name] else []) ++ typeViolations a.type ++
            argumentViolations (name :: taken) as

/-- What is wrong with the list of arguments of a variable, after the names `taken`. -/
def receivedViolations (m : Message) (taken : List String) : List String → List Violation
  | [] => []
  | name :: names =>
      (if (m.argumentNamed? name).isNone then [.variableArgumentNotInMessage name] else []) ++
      (if name ∈ taken then [.duplicateArgument name] else []) ++
      m.receivedViolations (name :: taken) names

/-- What is wrong with variables, after variables with the names `taken`. -/
def variableErrors (m : Message) (language : String) (width : IntegerWidth)
    (taken : List String) : List Variable → List SchemaError
  | [] => []
  | v :: vs =>
      let violations :=
        refused (auxiliaryName m.name v.name) ++
        (if v.name ∈ taken then [.duplicateVariable v.name]
          else m.receivedViolations [] v.arguments ++
            m.templateViolations width (some v.arguments) v.template)
      Violation.located (.inVariable language m.name v.name) violations ++
        m.variableErrors language width (v.name :: taken) vs

/-- What is wrong inside a message. -/
def errors (m : Message) (language : String) (width : IntegerWidth) : List SchemaError :=
  let here := Location.inMessage language m.name
  Violation.located here (argumentViolations [] m.arguments) ++
  Violation.located here (m.templateViolations width none m.template) ++
  m.variableErrors language width [] m.vars ++
  Violation.located here (m.cycles.map .variableCycle)

/-- Variables whose function has a name that is among `taken` or is that of one before, and all
names then taken. -/
def collisions (m : Message) (language : String) (taken : List String) :
    List Variable → List SchemaError × List String
  | [] => ([], taken)
  | v :: vs =>
      match auxiliaryName m.name v.name with
      | .error _ => m.collisions language taken vs
      | .ok function =>
          let (rest, all) := m.collisions language (function :: taken) vs
          if function ∈ taken then
            (⟨.inVariable language m.name v.name, .duplicateVariable v.name⟩ :: rest, all)
          else (rest, all)

end Message

/-- What is wrong with messages, after messages with the method names `methods`, whose variables
have functions with the names `functions`. -/
def messageErrors (language : String) (width : IntegerWidth) (methods functions : List String) :
    List Message → List SchemaError
  | [] => []
  | m :: ms =>
      let here := Location.inMessage language m.name
      let inner (methods : List String) :=
        let (colliding, functions) := m.collisions language functions m.vars
        colliding ++ m.errors language width ++ messageErrors language width methods functions ms
      match methodName m.name with
      | .error v => ⟨here, v⟩ :: inner methods
      | .ok method =>
          if method ∈ methods then
            ⟨here, .duplicateMessage m.name⟩ :: messageErrors language width methods functions ms
          else inner (method :: methods)

/-- Module and type name of a language, or why there are none. -/
def languageNames (language : String) : Except Violation (String × String) := do
  let module ← moduleName language
  let type ← typeName language
  return (module, type)

namespace Localization

/-- All that is wrong with a localization. -/
def errors (l : Localization) (width : IntegerWidth) : List SchemaError :=
  Violation.located { language := l.language } (refused (languageNames l.language)) ++
  messageErrors l.language width [] [] l.messages

end Localization

/-- All that is wrong with localizations, after languages with the module names `modules`. -/
def validateFrom (width : IntegerWidth) (modules : List String) :
    List Localization → List SchemaError
  | [] => []
  | l :: ls =>
      match moduleName l.language with
      | .error _ => l.errors width ++ validateFrom width modules ls
      | .ok module =>
          if module ∈ modules then
            ⟨{ language := l.language }, .duplicateLanguage⟩ :: validateFrom width modules ls
          else l.errors width ++ validateFrom width (module :: modules) ls

/-- All that is wrong with localizations that belong together. -/
def validate (width : IntegerWidth) (ls : List Localization) : List SchemaError :=
  validateFrom width [] ls

end Phrasebook
