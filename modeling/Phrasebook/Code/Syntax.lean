import Phrasebook.Code.TypePath
import Phrasebook.Contract

set_option autoImplicit false

/-! # Generated code

The forms that generated code consists of. A localizer is a type with one method for each message
and a function for each variable; the interface has the methods that all localizers share. -/

namespace Phrasebook.Code

/-- The type of a parameter. -/
inductive ParameterType where
  | text
  | integer (width : IntegerWidth)
  | float
  | display
  | custom (path : TypePath)

/-- A parameter. -/
structure Parameter where
  name : String
  type : ParameterType

/-- The type of a parameter can stand where a type is expected. -/
def Parameter.isTyped (p : Parameter) : Bool :=
  match p.type with
  | .custom path => path.isType
  | _ => true

/-- How a formatted write shows a parameter. -/
inductive Form where
  | plain
  | places (count : Nat)
  | spec (spec : Format.Spec)

namespace Form

/-- The pattern of a formatted write. -/
def pattern (name : String) : Form → String
  | .plain => "\x7b" ++ name ++ "\x7d"
  | .places count => "\x7b" ++ name ++ ":." ++ String.ofList (Number.decimal count) ++ "\x7d"
  | .spec s => s.pattern name

end Form

/-- A statement. -/
inductive Statement where
  /-- Appends a text. -/
  | push (text : String)
  /-- Appends a parameter that is a text. -/
  | pushParameter (name : String)
  /-- Appends the decimal text of a parameter. -/
  | pushNumber (name : String)
  /-- Appends a parameter shown in a form. -/
  | write (name : String) (form : Form)
  /-- Calls the function of a variable with the buffer, which is the caller's own or passed to
  it. -/
  | call (function : String) (own : Bool) (arguments : List String)
  /-- Leaves the method with a text. -/
  | giveBack (text : String)

/-- What an arm of a choice takes. -/
inductive Pattern where
  | exactly (n : Nat)
  | atLeast (n : Nat)
  | any
  deriving DecidableEq

namespace Pattern

def accepts : Pattern → Int → Bool
  | .exactly n, i => i == n
  | .atLeast n, i => (n : Int) ≤ i
  | .any, _ => true

/-- The pattern for the condition of a branch. -/
def ofCondition : Condition → Pattern
  | .equals n => .exactly n.toNat
  | .greaterThan n => .atLeast (n.toNat + 1)
  | .otherwise => .any

end Pattern

/-- Statements, or a choice between lists of statements by the value of a parameter: the first arm
that takes it. -/
inductive Procedure where
  | statements (ss : List Statement)
  | choice (driver : String) (arms : List (Pattern × List Statement))

/-- The body of a method: a text, a choice between texts, or what a procedure appends to a new
buffer. An arm without a text gives an empty one. -/
inductive MethodBody where
  | text (text : String)
  | texts (driver : String) (arms : List (Pattern × Option String))
  | buffered (procedure : Procedure)

/-- The method for a message. -/
structure MethodCode where
  name : String
  params : List Parameter
  body : MethodBody

/-- The function for a variable; it is given the buffer to append to. -/
structure AuxiliaryCode where
  name : String
  buffer : String
  params : List Parameter
  body : Procedure

/-- The code of one language. -/
structure LocalizerCode where
  language : String
  type : String
  imports : List String
  auxiliaries : List AuxiliaryCode
  methods : List MethodCode

/-- Every function has types where types are expected. -/
def LocalizerCode.isTyped (l : LocalizerCode) : Bool :=
  l.auxiliaries.all (·.params.all Parameter.isTyped) &&
    l.methods.all (·.params.all Parameter.isTyped)

/-- A method of the interface. -/
structure SignatureCode where
  message : String
  name : String
  params : List Parameter

/-- The code that all languages share. -/
structure InterfaceCode where
  module : String
  languages : List Registration
  methods : List SignatureCode

/-- Every method has types where types are expected. -/
def InterfaceCode.isTyped (i : InterfaceCode) : Bool :=
  i.methods.all (·.params.all Parameter.isTyped)

end Phrasebook.Code
