import Phrasebook.Data.Datum
import Phrasebook.Definition.Fault
import Phrasebook.Definition.Template
import Phrasebook.Files.Basic
import Phrasebook.Plan.Evaluation
import Phrasebook.Schema.Error

set_option autoImplicit false

/-! # Failures of the tool

Whatever can go wrong between the command line and the generated files. Several failures are
reported together, as a flat list. Only an `overflow` is not reported: the tool breaks off. -/

namespace Phrasebook

/-- What is wrong with a value in a configuration file. -/
inductive ConfigFault where
  | integer (name : String)
  | specifier (key : String)
  deriving DecidableEq

/-- What is wrong with a pattern of file names. -/
inductive PatternFault where
  | malformed
  | fewGroups
  deriving DecidableEq

/-- What is wrong with an argument given to a preview. -/
inductive PreviewFault where
  | notAPair
  | notAnInteger
  | notANumber
  deriving DecidableEq

/-- Why the tool fails. -/
inductive Failure where
  | file (path : String) (fault : FileFault)
  | data (format : Data.Format) (path : String)
  | definition (path message : String) (fault : Definition.Fault)
  | template (path message : String) (error : Definition.TemplateError)
  | config (path : String) (fault : ConfigFault)
  | pattern (pattern : String) (fault : PatternFault)
  | noDefinitions (directory : String)
  | previewArgument (argument : String) (fault : PreviewFault)
  | compile (error : CompileError)
  | eval (error : EvalError)
  | overflow
  | aggregate (failures : List Failure)

def ConfigFault.message : ConfigFault → String
  | .integer name => IntegerWidth.unsupported name
  | .specifier key => s!"specifier '{key}' must be a single character"

def PreviewFault.message : PreviewFault → String
  | .notAPair => "expected name=value"
  | .notAnInteger => "expected an integer"
  | .notANumber => "expected a number"

namespace Failure

/-- The failures that make up a failure. -/
def members : Failure → List Failure
  | .aggregate fs => fs
  | f => [f]

/-- No failure, the failure itself, or several together; what is together already is taken
apart. -/
def ofList? (fs : List Failure) : Option Failure :=
  match fs.flatMap members with
  | [] => none
  | [f] => some f
  | fs => some (.aggregate fs)

/-- Fails with all of the given failures, if there are any. -/
def check (fs : List Failure) : Except Failure Unit :=
  match ofList? fs with
  | some f => .error f
  | none => .ok ()

/-- The text of a failure. There is none where the cause lies in the syntax of a data file or of a
pattern: what is said of that is up to the reader of that syntax. Nor is there one where the tool
breaks off. -/
def message? : Failure → Option String
  | .file path fault => some s!"I/O error at {path}: {fault.message}"
  | .data _ _ => none
  | .definition path message fault => some s!"{path}: message '{message}': {fault.message}"
  | .template path message error => some s!"{path}: message '{message}': {error.message}"
  | .config path fault => some s!"invalid configuration in {path}: {fault.message}"
  | .pattern _ .malformed => none
  | .pattern p .fewGroups =>
      some (s!"invalid file name pattern '{p}': " ++
        "expected capture groups for name, language and extension")
  | .noDefinitions directory => some s!"no definition files found in {directory}"
  | .previewArgument argument fault =>
      some s!"invalid preview argument '{argument}': {fault.message}"
  | .compile error => error.message?
  | .eval error => some error.message
  | .overflow => none
  | .aggregate fs => (messages? fs).map (String.intercalate "\n")
where
  messages? : List Failure → Option (List String)
    | [] => some []
    | f :: fs => do
        let t ← message? f
        let ts ← messages? fs
        return t :: ts

end Failure

end Phrasebook
