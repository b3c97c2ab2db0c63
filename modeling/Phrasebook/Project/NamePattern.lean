import Phrasebook.Data.Datum
import Phrasebook.Failure
import Phrasebook.Pattern.Meaning
import Phrasebook.Pattern.Program
import Phrasebook.Pattern.Reading

set_option autoImplicit false

/-! # Patterns of file names

A pattern of file names is a regular expression whose first three groups give the name, the
language and the extension of a definition file. -/

namespace Phrasebook.Project

/-- A pattern that is ready to be matched. -/
structure NamePattern where
  text : String
  program : Pattern.Program

namespace NamePattern

/-- Reads a pattern. It has to match all of a name. -/
def read (text : String) : Except Failure NamePattern := do
  match (Pattern.Expression.read? ("^(?:" ++ text ++ ")$")).bind (·.meaning? {}) with
  | none => throw (.pattern text .malformed)
  | some (r, _) =>
      match r.program? with
      | none => throw (.pattern text .malformed)
      | some program =>
          if r.lastGroup < 3 then throw (.pattern text .fewGroups)
          return { text, program }

/-- The language and the format of a definition file by its name. -/
def split? (p : NamePattern) (name : String) : Option (String × Data.Format) := do
  let marks ← p.program.matchText name.toList
  let stem ← Pattern.groupText? name.toList marks 1
  let language ← Pattern.groupText? name.toList marks 2
  let format ← Data.Format.ofExtension? (← Pattern.groupText? name.toList marks 3)
  if stem = "" || language = "" then none else some (language, format)

end NamePattern

end Phrasebook.Project
