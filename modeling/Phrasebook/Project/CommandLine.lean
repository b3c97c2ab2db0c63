import Phrasebook.Project.Running

set_option autoImplicit false

/-! # The command line

A command line is a command with its options and arguments. An option is given by a long or a short
name; its value follows it, or is attached to it. The value of an option is checked when the next
option or argument is recognised, or at the end. After `--` everything is an argument. -/

namespace Phrasebook.Project

/-- Why a command line is not carried out. -/
inductive Usage where
  | missingArgument
  | missingEverything
  | missingCommand
  | unknownCommand
  | unknownArgument
  | invalidValue
  | missingValue
  | unwantedValue
  | repeatedOption
  | help
  | version
  deriving DecidableEq

/-! ## Options -/

/-- An option that takes a value. -/
inductive ValueOption where
  | input
  | config
  | module
  | integer
  | pattern
  | output
  | lang
  deriving DecidableEq

/-- An option that takes none. -/
inductive Flag where
  | verbose
  | help
  | version
  deriving DecidableEq

/-- An option of a command. -/
inductive CommandOption where
  | flag (f : Flag)
  | value (o : ValueOption)
  deriving DecidableEq

namespace CommandOption

def long : CommandOption → String
  | .flag .verbose => "verbose"
  | .flag .help => "help"
  | .flag .version => "version"
  | .value .input => "input"
  | .value .config => "config"
  | .value .module => "module"
  | .value .integer => "integer"
  | .value .pattern => "pattern"
  | .value .output => "output"
  | .value .lang => "lang"

def short? : CommandOption → Option Char
  | .flag .verbose => some 'v'
  | .flag .help => some 'h'
  | .flag .version => some 'V'
  | .value .input => some 'i'
  | .value .pattern => some 'p'
  | .value .output => some 'o'
  | _ => none

end CommandOption

/-- The commands by which a command line starts. -/
inductive CommandName where
  | generate
  | check
  | preview
  deriving DecidableEq

namespace CommandName

def ofText? : String → Option CommandName
  | "generate" => some .generate
  | "check" => some .check
  | "preview" => some .preview
  | _ => none

/-- The options of a command. -/
def options (c : CommandName) : List CommandOption :=
  [.flag .verbose, .flag .help, .value .input, .value .config, .value .module, .value .integer,
    .value .pattern] ++
  match c with
  | .generate => [.value .output]
  | .check => []
  | .preview => [.value .lang]

/-- The command takes arguments beside its options. -/
def takesArguments (c : CommandName) : Bool := c = .preview

end CommandName

/-- The options in front of the command. -/
def generalOptions : List CommandOption := [.flag .verbose, .flag .help, .flag .version]

/-! ## Reading -/

/-- What was read of a command line. -/
structure Given where
  verbose : Bool := false
  values : List (ValueOption × String) := []
  arguments : List String := []
  /-- An option whose value is still to come or to be checked. -/
  pending : Option (ValueOption × Option String) := none

namespace Given

/-- Accepts the value of an option, which may be given once. -/
def accept (g : Given) (o : ValueOption) (v : String) : Except Usage Given :=
  if g.values.any (·.1 = o) then .error .repeatedOption
  else if o = .integer && (IntegerWidth.ofName? v).isNone then .error .invalidValue
  else .ok { g with values := g.values ++ [(o, v)] }

/-- Checks the option that is pending. -/
def resolve (g : Given) : Except Usage Given :=
  match g.pending with
  | none => .ok g
  | some (_, none) => .error .missingValue
  | some (o, some v) => { g with pending := none }.accept o v

/-- A flag is given; help and version end the reading. -/
def setFlag (g : Given) (f : Flag) : Except Usage Given := do
  let g ← g.resolve
  match f with
  | .help => throw .help
  | .version => throw .version
  | .verbose => if g.verbose then throw .repeatedOption else return { g with verbose := true }

/-- An option is given, perhaps with a value attached. -/
def setValue (g : Given) (o : ValueOption) (attached : Option String) : Except Usage Given := do
  let g ← g.resolve
  match attached with
  | some v => g.accept o v
  | none => return { g with pending := some (o, none) }

/-- An option given by its long name, with what follows an equals sign. -/
def long (options : List CommandOption) (g : Given) (name : String) (attached : Option String) :
    Except Usage Given :=
  match options.find? (·.long = name) with
  | none => .error .unknownArgument
  | some (.flag f) => if attached.isSome then .error .unwantedValue else g.setFlag f
  | some (.value o) => g.setValue o attached

/-- Options given by short names in a row; what follows one that takes a value is its value. -/
def shorts (options : List CommandOption) : Given → List Char → Except Usage Given
  | g, [] => .ok g
  | g, c :: cs =>
      match options.find? (·.short? = some c) with
      | none => .error .unknownArgument
      | some (.flag f) => do
          let g ← g.setFlag f
          shorts options g cs
      | some (.value o) =>
          match cs with
          | [] => g.setValue o none
          | '=' :: cs => g.setValue o (some (String.ofList cs))
          | cs => g.setValue o (some (String.ofList cs))

/-- An argument beside the options. -/
def argument (takes : Bool) (g : Given) (a : String) : Except Usage Given := do
  if !takes then throw .unknownArgument
  let g ← g.resolve
  return { g with arguments := g.arguments ++ [a] }

/-- Neither an option nor an argument in its own right: a value if one is awaited. -/
def word (takes : Bool) (g : Given) (a : String) : Except Usage Given :=
  match g.pending with
  | some (o, none) => .ok { g with pending := some (o, some a) }
  | _ => g.argument takes a

/-- How a word of a command line is written. -/
inductive WordForm where
  | marker
  | long (name : String) (attached : Option String)
  | shorts (names : List Char)
  | plain

/-- The form of a word. -/
def form (a : String) : WordForm :=
  match a.toList with
  | ['-', '-'] => .marker
  | '-' :: '-' :: cs =>
      let (name, attached) := Definition.splitAtChar '=' cs
      .long (String.ofList name) (attached.map String.ofList)
  | '-' :: c :: cs => .shorts (c :: cs)
  | _ => .plain

/-- Reads the words after the name of a command. -/
def read (c : CommandName) : Given → List String → Except Usage Given
  | g, [] => g.resolve
  | g, a :: rest =>
      match form a with
      | .marker => do
          let g ← rest.foldlM (argument c.takesArguments) g
          g.resolve
      | .long name attached => do
          let g ← g.long c.options name attached
          read c g rest
      | .shorts names => do
          let g ← g.shorts c.options names
          read c g rest
      | .plain => do
          let g ← g.word c.takesArguments a
          read c g rest

/-- The value of an option. -/
def value? (g : Given) (o : ValueOption) : Option String := g.values.lookup o

def source (g : Given) : Source where
  input := (g.value? .input).getD "l10n"
  config := g.value? .config
  overrides :=
    { module := g.value? .module
      integer := (g.value? .integer).bind IntegerWidth.ofName?
      pattern := g.value? .pattern }

/-- The command that is given. -/
def command (g : Given) : CommandName → Except Usage Command
  | .generate => .ok (.generate g.source ((g.value? .output).getD "src/l10n"))
  | .check => .ok (.check g.source)
  | .preview =>
      match g.arguments with
      | [] => .error .missingArgument
      | message :: args => .ok (.preview g.source (g.value? .lang) message args)

end Given

/-- A command, and whether it is to report what it does. -/
structure Invocation where
  verbose : Bool
  command : Command
  deriving DecidableEq

namespace Invocation

/-- Reads the words after `help`: the names of nested commands. -/
def helpOn : List String → Usage
  | [] => .help
  | [a] => if a = "help" || (CommandName.ofText? a).isSome then .help else .unknownCommand
  | _ => .unknownCommand

/-- Reads a command line; `g` are the options in front of the command. -/
def readFrom (g : Given) : List String → Except Usage Invocation
  | [] => .error (if g.verbose then .missingCommand else .missingEverything)
  | a :: rest =>
      match Given.form a with
      | .marker =>
          match rest with
          | [] => .error (if g.verbose then .missingCommand else .missingEverything)
          | b :: _ =>
              .error (if b = "help" || (CommandName.ofText? b).isSome then .unknownArgument
                else .unknownCommand)
      | .long name attached => do
          let g ← g.long generalOptions name attached
          readFrom g rest
      | .shorts names => do
          let g ← g.shorts generalOptions names
          readFrom g rest
      | .plain =>
          if a = "help" then .error (helpOn rest)
          else match CommandName.ofText? a with
            | none => .error .unknownCommand
            | some c => do
                let given ← Given.read c {} rest
                return { verbose := g.verbose || given.verbose, command := ← given.command c }

/-- Reads a command line. -/
def read (args : List String) : Except Usage Invocation := readFrom {} args

end Invocation

/-! ## Running from the command line -/

/-- The name and version of the tool. -/
def versionText : String := "cargo-l10n 0.3.0"

def usageText : String :=
  "Compile localisation definition files into typed Rust localizers\n\n" ++
  "Usage: cargo-l10n [OPTIONS] <COMMAND>\n\n" ++
  "Commands:\n" ++
  "  generate  Write generated localizers\n" ++
  "  check     Check definitions\n" ++
  "  preview   Render a single message"

/-- What a run leaves: the code of its end, what it has noted, and what it prints. -/
structure Execution where
  exitCode : Nat
  log : List Event := []
  output : String := ""
  errors : String := ""

namespace Execution

/-- The end of a run whose command line is not carried out. -/
def ofUsage : Usage → Execution
  | .help => { exitCode := 0, output := usageText ++ "\n" }
  | .version => { exitCode := 0, output := versionText ++ "\n" }
  | _ => { exitCode := 2, errors := usageText ++ "\n" }

/-- The end of a run. Warnings are noted always, everything else when asked for. A run that breaks
off has a code of its own. -/
def ofResult (verbose : Bool) (r : Logged Failure Report) : Execution :=
  let log := if verbose then r.steps else r.steps.filter (·.level = "WARN")
  match r.result with
  | .ok report => { exitCode := 0, log, output := report.text ++ "\n" }
  | .error .overflow => { exitCode := 101, log }
  | .error f =>
      { exitCode := 1, log, errors := "error: " ++ f.message?.getD "malformed input" ++ "\n" }

end Execution

/-- Reads the arguments of the tool. A leading name of the tool is not part of the command line. -/
def Invocation.ofArguments : List String → Except Usage Invocation
  | "l10n" :: rest => read rest
  | args => read args

/-- Runs the tool. -/
def execute (fs : Files) (args : List String) : Files × Execution :=
  match Invocation.ofArguments args with
  | .error u => (fs, .ofUsage u)
  | .ok i =>
      let (fs, result) := run fs i.command
      (fs, .ofResult i.verbose result)

end Phrasebook.Project
