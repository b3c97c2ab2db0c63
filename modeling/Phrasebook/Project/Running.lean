import Phrasebook.Project.Loading

set_option autoImplicit false

/-! # Commands of the tool

A command checks the definitions of a project, writes the generated files, or previews a message.
Files are written only when all of them are there to be written. -/

namespace Phrasebook.Project

/-- What the tool is asked to do. -/
inductive Command where
  | generate (source : Source) (output : String)
  | check (source : Source)
  | preview (source : Source) (language : Option String) (message : String) (args : List String)
  deriving DecidableEq

namespace Command

def source : Command → Source
  | .generate s _ => s
  | .check s => s
  | .preview s _ _ _ => s

end Command

/-- What a command has achieved. -/
inductive Report where
  | generated (paths : List String)
  | checked (languages messages : Nat)
  | preview (text : String)
  deriving DecidableEq

namespace Report

/-- The text that is printed. -/
def text : Report → String
  | .generated paths => String.intercalate "\n" (paths.map ("wrote " ++ ·))
  | .checked languages messages =>
      let count (n : Nat) : String := String.ofList (Number.decimal n)
      "ok: " ++ count languages ++ " languages, " ++ count messages ++ " messages"
  | .preview s => s

end Report

/-- The errors of a compilation as failures of the tool. -/
def asFailure {α : Type} (x : Logged CompileError α) : Logged Failure α :=
  ⟨x.steps, x.result.mapError .compile⟩

/-- Loads and compiles a project. -/
def compileProject (fs : Files) (source : Source) : Logged Failure Compiled := do
  let (config, localizations) ← load fs source
  asFailure (compile config.settings localizations)

/-- The files to be generated for a project. -/
def generatedFiles (fs : Files) (source : Source) : Logged Failure (List GeneratedFile) := do
  let compiled ← compileProject fs source
  asFailure compiled.files

/-! ## Writing -/

/-- The directory of a path, which is made if it is missing. -/
def ensureDirectory (fs : Files) (path : String) : Files × Except Failure Place :=
  match fs.directoryAt path with
  | .ok p => (fs, .ok p)
  | .error .notFound =>
      match Files.makeDirectories (path.length + 1) fs path with
      | (fs, some e) => (fs, .error (.file path e))
      | (fs, none) => (fs, (fs.directoryAt path).mapError (.file path ·))
  | .error e => (fs, .error (.file path e))

/-- Writes files one after the other, and gives their paths. What was written before a failure
stays. -/
def writeFiles (output : String) (directory : Place) :
    Files → List GeneratedFile → Files × Logged Failure (List String)
  | fs, [] => (fs, pure [])
  | fs, f :: rest =>
      let path := Files.join output f.name
      match fs.put { inside := some directory } directory [f.name] (.text f.contents) with
      | .error e => (fs, Traced.fail (.file path e))
      | .ok fs =>
          let (fs, result) := writeFiles output directory fs rest
          (fs, do
            Traced.step (.fileWritten path f.contents.utf8ByteSize)
            let paths ← result
            return path :: paths)

/-- Writes generated files to a directory. -/
def write (fs : Files) (output : String) (files : List GeneratedFile) :
    Files × Logged Failure (List String) :=
  match ensureDirectory fs output with
  | (fs, .error f) => (fs, Traced.fail f)
  | (fs, .ok directory) => writeFiles output directory fs files

/-! ## Commands -/

/-- Checks a project: how many languages and messages it has. -/
def check (fs : Files) (source : Source) : Logged Failure Report := do
  let c ← compileProject fs source
  return .checked c.plans.length ((c.plans.head?.map (·.messages.length)).getD 0)

def previewMessage (fs : Files) (source : Source) (language : Option String) (message : String)
    (args : List String) : Logged Failure Report := do
  let c ← compileProject fs source
  return .preview (← c.preview language message args)

/-- Generates the files of a project. -/
def generate (fs : Files) (source : Source) (output : String) : Files × Logged Failure Report :=
  let generated := generatedFiles fs source
  match generated.result with
  | .error f => (fs, ⟨generated.steps, .error f⟩)
  | .ok files =>
      let (fs, written) := write fs output files
      (fs, ⟨generated.steps ++ written.steps, written.result.map .generated⟩)

/-- Carries out a command. -/
def run (fs : Files) : Command → Files × Logged Failure Report
  | .generate source output => generate fs source output
  | .check source => (fs, check fs source)
  | .preview source language message args => (fs, previewMessage fs source language message args)

end Phrasebook.Project
