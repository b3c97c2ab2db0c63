import Phrasebook.Message.Basic

set_option autoImplicit false

/-! # Faults of definitions

What can be wrong with a definition apart from the templates in it. -/

namespace Phrasebook.Definition

/-- What is wrong with a definition. -/
inductive Fault where
  /-- The document holds something else than messages. -/
  | notMessages (kind : String)
  /-- The entry is neither a text nor a table of the known values. -/
  | shape
  | unknownSpecifier (spec : Char) (argument : String)
  | conflictingTypes (argument : String) (first second : ArgType)
  /-- An item of the list of arguments is not a name and a specifier. -/
  | unspecified (raw : String)
  /-- An argument is used that the list of arguments lacks. -/
  | unlisted (argument : String)
  | branchesWithoutPlural
  | malformedDriver (raw : String)
  /-- A variable with arguments or variables of its own. -/
  | declaresMore (var : String)
  deriving DecidableEq

namespace Fault

def message : Fault → String
  | .notMessages kind => s!"expected a map of messages, found {kind}"
  | .shape =>
      "expected a template string or a message table: " ++
        "data did not match any variant of untagged enum Entry"
  | .unknownSpecifier spec argument => s!"unknown specifier '{spec}' for argument '{argument}'"
  | .conflictingTypes argument first second =>
      s!"argument '{argument}' is declared as both {first.name} and {second.name}"
  | .unspecified raw => s!"'{raw}' in 'args' must be written as name:spec"
  | .unlisted argument => s!"argument '{argument}' is used but not listed in 'args'"
  | .branchesWithoutPlural => "plural branches need a 'plural' argument"
  | .malformedDriver raw => s!"plural argument '{raw}' is malformed"
  | .declaresMore var => s!"variable '{var}' cannot declare 'args' or 'vars'"

end Fault

end Phrasebook.Definition
