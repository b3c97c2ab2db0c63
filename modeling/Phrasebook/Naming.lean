import Phrasebook.Schema.Error
import Phrasebook.Text.Identifier
import Phrasebook.Text.Word

set_option autoImplicit false

/-! # Names in the generated code

Messages, arguments and variables get lower-case names with underscores; a language gives a module
name of that form and a capitalised type name. A name that is no identifier is refused. -/

namespace Phrasebook

/-- Name of the buffer that generated functions write to. -/
def bufferName : String := "out"

/-- Name of the trait that every localizer implements. -/
def traitName : String := "Localizer"

/-- A generated name for `raw`, if it is an identifier. -/
def checkedName (raw name : String) : Except Violation String :=
  if Text.isIdentifier name then .ok name else .error (.invalidIdentifier raw)

/-- Method name of a message. -/
def methodName (message : String) : Except Violation String :=
  checkedName message (Text.snakeCase message)

/-- Parameter name of an argument. It must not hide the buffer. -/
def parameterName (argument : String) : Except Violation String := do
  let name ← checkedName argument (Text.snakeCase argument)
  if name = bufferName then .error (.reservedName argument) else .ok name

/-- Function name of a variable of a message. -/
def auxiliaryName (message var : String) : Except Violation String := do
  let _ ← checkedName var (Text.snakeCase var)
  checkedName var (Text.snakeCase message ++ "_" ++ Text.snakeCase var)

/-- Module name of a language. -/
def moduleName (language : String) : Except Violation String :=
  checkedName language (Text.snakeCase language)

/-- Type name of a language's localizer. -/
def typeName (language : String) : Except Violation String :=
  let camel := Text.camelCase language
  if camel.isEmpty then .error (.invalidIdentifier language)
  else checkedName language (camel ++ traitName)

end Phrasebook
