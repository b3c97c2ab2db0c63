import Phrasebook.Data.Toml
import Phrasebook.Definition.Entry
import Phrasebook.Definition.Specifiers
import Phrasebook.Failure
import Phrasebook.Plan.Lowering
import Phrasebook.Text.Sorting

set_option autoImplicit false

/-! # Project configuration

The settings of a project come from an optional configuration file and are overridden on the
command line. -/

namespace Phrasebook.Project

open Data Definition

/-- The name of the configuration file in the directory of the definitions. -/
def configFile : String := "l10n.toml"

/-- The pattern of definition files: a name, a language and an extension. -/
def defaultPattern : String := "([a-z_]+)\\.([a-z_]+)\\.(yaml|yml|json|toml)"

/-- The settings of a project. -/
structure Config where
  settings : Settings := {}
  specifiers : Specifiers := {}
  pattern : String := defaultPattern
  deriving DecidableEq

/-- What the command line overrides. -/
structure Overrides where
  module : Option String := none
  integer : Option IntegerWidth := none
  pattern : Option String := none
  deriving DecidableEq

/-- What a configuration file sets. -/
structure ConfigData where
  module : Option String := none
  integer : Option String := none
  pattern : Option String := none
  specifiers : List (String × String) := []

namespace ConfigData

/-- Sets a value by its name. -/
def set? (c : ConfigData) (key : String) (d : Datum) : Option ConfigData :=
  match key with
  | "module" => (text? d).map fun v => { c with module := some v }
  | "integer" => (text? d).map fun v => { c with integer := some v }
  | "pattern" => (text? d).map fun v => { c with pattern := some v }
  | "specifiers" => do
      let members ← members? d
      let specifiers ← members.mapM fun (k, d) => (text? d).map fun v => (k, v)
      return { c with specifiers }
  | _ => none

/-- Reads what a configuration file sets; names it does not know are refused. -/
def ofText? (text : String) : Option ConfigData := do
  match ← Toml.read? text with
  | .table members => members.foldlM (fun c (k, d) => c.set? k d) {}
  | _ => none

end ConfigData

namespace Config

/-- The integer type of the given name, if there is one. -/
def integerNamed (path : String) : Option String → Except Failure IntegerWidth
  | none => .ok .signed
  | some name =>
      match IntegerWidth.ofName? name with
      | some w => .ok w
      | none => .error (.config path (.integer name))

/-- Adds specifiers; each has one character. -/
def addSpecifiers (path : String) (s : Specifiers) (more : List (String × String)) :
    Except Failure Specifiers :=
  more.foldlM
    (fun s (key, type) =>
      match key.toList with
      | [c] => .ok (s.insert c (typeNamed type))
      | _ => .error (.config path (.specifier key)))
    s

/-- Reads the text of a configuration file. -/
def read (path text : String) : Except Failure Config := do
  match ConfigData.ofText? text with
  | none => throw (.data .toml path)
  | some data =>
      let integer ← integerNamed path data.integer
      let specifiers ← addSpecifiers path {} (Text.sortedBy (·.1) data.specifiers)
      return {
        settings := { module := data.module.getD "l10n", integer }
        specifiers
        pattern := data.pattern.getD defaultPattern }

/-- The settings with what the command line overrides. -/
def override (c : Config) (o : Overrides) : Config :=
  { c with
    settings :=
      { c.settings with
        module := o.module.getD c.settings.module
        integer := o.integer.getD c.settings.integer }
    pattern := o.pattern.getD c.pattern }

end Config

end Phrasebook.Project
