import Phrasebook.Definition.Building
import Phrasebook.Preview
import Phrasebook.Project.Config
import Phrasebook.Project.Discovery

set_option autoImplicit false

/-! # Loading a project

Reads the configuration of a project and the definitions of all its languages. Nothing is changed.
What is wrong with the languages is reported together, the languages in increasing order. -/

namespace Phrasebook

namespace Files

/-- The directory of a path, unless nothing is there. -/
def directory? (fs : Files) (path : String) : Except Failure (Option Place) :=
  match fs.directoryAt path with
  | .ok p => .ok (some p)
  | .error .notFound => .ok none
  | .error e => .error (.file path e)

/-- The text of a file, unless nothing is there. -/
def text? (fs : Files) (path : String) : Except Failure (Option String) := do
  match lastName? path with
  | none => return none
  | some name =>
      let above := parent path
      match ← fs.directory? (if above = "" then "." else above) with
      | none => return none
      | some directory =>
          match fs.readText directory name with
          | .ok s => return some s
          | .error .notFound => return none
          | .error e => throw (.file path e)

end Files

namespace Project

open Definition

/-- Where a project is read from. -/
structure Source where
  /-- The directory of the definitions. -/
  input : String := "l10n"
  /-- The configuration file, if it is not the one among the definitions. -/
  config : Option String := none
  overrides : Overrides := {}
  deriving DecidableEq

/-- Reads the configuration. A file that is named has to be there. -/
def loadConfig (fs : Files) (source : Source) : Logged Failure Config := do
  let path := source.config.getD (Files.join source.input configFile)
  let config ← Traced.lift <| do
    match ← fs.text? path with
    | some text => Config.read path text
    | none => if source.config.isSome then throw (.file path .absent) else return {}
  Traced.step (.configurationResolved path config.settings.module)
  return config.override source.overrides

/-- Reads a definition file. -/
def readDocument (fs : Files) (input : String) (directory : Place) (f : DefinitionFile) :
    Except Failure Document :=
  let path := Files.join input f.name
  match fs.readText directory f.name with
  | .ok text => Document.read path f.format text
  | .error e => .error (.file path e)

/-- Reads all definition files of a language. -/
def readDocuments (fs : Files) (input : String) (directory : Place) (l : LanguageFiles) :
    Except Failure (List Document) := do
  let (failures, documents) := partitionResults (l.files.map (readDocument fs input directory))
  Failure.check failures
  return documents

/-- Builds the localization of a language from its files. -/
def loadLanguage (fs : Files) (input : String) (directory : Place) (specifiers : Specifiers)
    (l : LanguageFiles) : Logged Failure Localization := do
  let documents ← Traced.lift (readDocuments fs input directory l)
  build specifiers l.language documents

/-- Loads a project: its configuration, and a localization for each language. -/
def load (fs : Files) (source : Source) : Logged Failure (Config × List Localization) := do
  let config ← loadConfig fs source
  let pattern ← Traced.lift (NamePattern.read config.pattern)
  match ← Traced.lift (fs.directory? source.input) with
  | none => Traced.fail (.noDefinitions source.input)
  | some directory =>
      let languages ← discover source.input pattern.text pattern.split? (fs.listing directory)
      let results ← languages.mapM fun l =>
        (loadLanguage fs source.input directory config.specifiers l).attempt
      let (failures, localizations) := partitionResults results
      Traced.lift (Failure.check failures)
      return (config, localizations)

end Project

end Phrasebook
