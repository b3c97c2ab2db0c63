import Phrasebook.Definition.Document
import Phrasebook.Plan.Lowering
import Phrasebook.Project.NamePattern
import Phrasebook.Text.Sorting

set_option autoImplicit false

/-! # Definition files of a project

The files in a directory whose names fit a pattern, by language. A directory is gone through in the
order in which it is listed. Languages and the files of each come in increasing order, whatever that
order is. -/

namespace Phrasebook.Project

/-- A definition file in its directory. -/
structure DefinitionFile where
  name : String
  format : Data.Format
  deriving DecidableEq

/-- The definition files of a language. -/
structure LanguageFiles where
  language : String
  files : List DefinitionFile
  deriving DecidableEq

/-- Adds a file to those of its language, the last one so far. The languages stand in increasing
order. -/
def insertFile (language : String) (f : DefinitionFile) : List LanguageFiles → List LanguageFiles
  | [] => [⟨language, [f]⟩]
  | l :: ls =>
      if language < l.language then ⟨language, [f]⟩ :: l :: ls
      else if l.language < language then l :: insertFile language f ls
      else { l with files := l.files ++ [f] } :: ls

/-- Adds the definition files of a listing to those that were found before. In a listing, `true`
marks a file; what is no file is passed over, and a file whose name does not fit is skipped. -/
def gather (pattern : String) (split? : String → Option (String × Data.Format)) :
    List LanguageFiles → List (String × Bool) → Logged Failure (List LanguageFiles)
  | found, [] => return found
  | found, (_, false) :: rest => gather pattern split? found rest
  | found, (name, true) :: rest =>
      match split? name with
      | some (language, format) =>
          gather pattern split? (insertFile language { name, format } found) rest
      | none => do
          Traced.step (.fileSkipped name pattern)
          gather pattern split? found rest

/-- The files of a language in the order of their names. -/
def LanguageFiles.sorted (l : LanguageFiles) : LanguageFiles :=
  { l with files := Text.sortedBy (·.name) l.files }

/-- Finds the definition files in the listing of a directory. What a name says is read off it by
`split?`, for which the text of the pattern stands. -/
def discover (directory pattern : String) (split? : String → Option (String × Data.Format))
    (listing : List (String × Bool)) : Logged Failure (List LanguageFiles) := do
  let found ← gather pattern split? [] listing
  if found.isEmpty then Traced.fail (.noDefinitions directory)
  found.mapM fun l => do
    let l := l.sorted
    Traced.step (.languageDiscovered l.language l.files.length)
    return l

end Phrasebook.Project
