import Phrasebook.Data.Json
import Phrasebook.Data.Toml
import Phrasebook.Data.Yaml
import Phrasebook.Definition.Entry
import Phrasebook.Failure

set_option autoImplicit false

/-! # Definition documents

A definition file, in whichever format, is a table of entries by the names of the messages. A file
that holds nothing defines nothing. -/

namespace Phrasebook

/-- Reads data in a format. -/
def Data.Format.read? : Data.Format → String → Option Data.Datum
  | .yaml => Data.Yaml.read?
  | .json => Data.Json.read?
  | .toml => Data.Toml.read?

namespace Definition

open Data

/-- The entries of a file, in their order. -/
structure Document where
  path : String
  messages : List (String × Entry) := []

namespace Document

/-- The table of messages that data are. -/
def table (path : String) : Datum → Except Failure (List (String × Datum))
  | .table members => .ok members
  | .null => .ok []
  | d => .error (.definition path "" (.notMessages d.kind))

/-- Reads named entries from the file at `path`. -/
def entries (path : String) (members : List (String × Datum)) :
    Except Failure (List (String × Entry)) :=
  (Entry.readAll members).mapError fun name => .definition path name .shape

/-- Reads the text of a file. -/
def read (path : String) (format : Format) (text : String) : Except Failure Document := do
  if (Text.trim text.toList).isEmpty then return { path }
  match format.read? text with
  | none => throw (.data format path)
  | some d => return { path, messages := ← entries path (← table path d) }

end Document

end Definition

end Phrasebook
