import Phrasebook.Code.Emission
import Phrasebook.Code.Printing
import Phrasebook.Plan.Evaluation

set_option autoImplicit false

/-! # Compilation

Localizations are validated, each of them is lowered, and a contract is made of all of them. Either
all of this succeeds or every error that was found is reported. -/

namespace Phrasebook

/-- The result of a computation as a value; it cannot fail any more. -/
def Traced.attempt {σ ε α : Type} (x : Traced σ ε α) : Traced σ ε (Except ε α) :=
  ⟨x.steps, .ok x.result⟩

/-- The value of every computation, or the errors of all that fail. -/
def collect {α : Type} (xs : List (Logged CompileError α)) : Logged CompileError (List α) := do
  let results ← xs.mapM Traced.attempt
  let (errors, values) := partitionResults results
  CompileError.check errors
  return values

/-- Localizations that have passed all checks. -/
structure Compiled where
  settings : Settings
  contract : Contract
  plans : List Plan

/-- A file to be written. -/
structure GeneratedFile where
  name : String
  contents : String
  deriving DecidableEq

/-- The plan of a localization. -/
def compileOne (s : Settings) (l : Localization) : Logged CompileError Plan := do
  let p ← l.lower s.integer
  Traced.step (.localizationCompiled p.language p.messages.length p.auxiliaries.length
    p.capabilities.size)
  return p

/-- Compiles localizations. -/
def compile (s : Settings) (ls : List Localization) : Logged CompileError Compiled := do
  if ls.isEmpty then Traced.fail .noLocalizations
  CompileError.checkSchema (validate s.integer ls)
  let lowered ← ls.mapM fun l => (compileOne s l).attempt
  let unified ← (Contract.unify ls).attempt
  let (errors, plans) := partitionResults lowered
  match unified with
  | .error e => Traced.lift (.error ((CompileError.ofList? (errors ++ [e])).getD e))
  | .ok contract =>
      CompileError.check errors
      return { settings := s, contract, plans }

namespace Compiled

/-- The languages in the order of their registration. -/
def languages (c : Compiled) : List String := c.contract.registry.map (·.language)

/-- The plan of a language. -/
def planOf? (c : Compiled) (language : String) : Option Plan :=
  c.plans.find? (·.language == language)

/-- Where the plan of a language stands among the plans. -/
def positionOf? (c : Compiled) (language : String) : Option Nat :=
  c.plans.findIdx? (·.language == language)

/-- The language of a plan, told from where it stands and not from what it says: a plan that stands
nowhere among the plans has none, also if it is the copy of one that does. -/
def languageOf (c : Compiled) (position : Option Nat) : String :=
  match position.bind (c.plans[·]?) with
  | some p => p.language
  | none => ""

/-- The text of a message in a language. -/
def evaluate (c : Compiled) (language message : String) (args : Values) :
    Attempt EvalError String :=
  match c.planOf? language with
  | none => .error (.unknownLanguage language)
  | some p => p.evaluate c.settings.integer message args

/-- Writes out the contract and then every language; all failures are reported. -/
def emit {α : Type} (c : Compiled) (general : Contract → Logged CompileError α)
    (localization : Registration → Plan → Logged CompileError α) :
    Logged CompileError (List α) :=
  collect (general c.contract ::
    (c.contract.registry.zip c.plans).map fun (r, p) => localization r p)

end Compiled

/-- The name of the file with the code that all languages share. -/
def interfaceFile : String := "mod.rs"

/-- The file with the code that all languages share. -/
def renderInterface (s : Settings) (c : Contract) : Logged CompileError GeneratedFile := do
  let code ← Code.interface s c
  let contents ← Code.renderFile s interfaceFile code.isTyped code.code
  return { name := interfaceFile, contents }

/-- The file with the code of one language. -/
def renderLocalizer (s : Settings) (r : Registration) (p : Plan) :
    Logged CompileError GeneratedFile := do
  let code ← Code.localizer s.integer r p
  let name := r.module ++ ".rs"
  let contents ← Code.renderFile s name code.isTyped code.code
  Traced.step (.fileRendered name contents.utf8ByteSize)
  return { name, contents }

/-- All files. -/
def Compiled.files (c : Compiled) : Logged CompileError (List GeneratedFile) :=
  c.emit (renderInterface c.settings) (renderLocalizer c.settings)

end Phrasebook
