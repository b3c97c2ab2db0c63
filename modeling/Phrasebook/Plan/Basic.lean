import Phrasebook.Format.Rendering

set_option autoImplicit false

/-! # Plans

A plan says what a generated function does, apart from how it is written down. Each message is
planned as one function, and so is each variable of it; a function for a variable appends to the
buffer of its caller. -/

namespace Phrasebook

/-- An argument and the parameter that carries it. -/
structure Binding where
  argument : String
  ident : String
  deriving DecidableEq

/-- A parameter of a function. -/
structure Param where
  binding : Binding
  type : ArgType
  /-- The body reads it. -/
  used : Bool
  deriving DecidableEq

/-- One operation of a body. -/
inductive Op where
  /-- Appends text. -/
  | literal (text : String)
  /-- Appends the value of an argument. -/
  | argument (binding : Binding) (type : ArgType) (rendering : Format.Rendering)
  /-- Runs the function of a variable. -/
  | call (var function : String) (arguments : List Binding)
  /-- Leaves the function with a text of its own. -/
  | giveBack (text : String)
  deriving DecidableEq

/-- Whether a body appends to a buffer or is one text. -/
inductive BodyMode where
  | accumulate
  | constant
  deriving DecidableEq

/-- Operations in the order in which they are carried out. -/
structure Block where
  mode : BodyMode
  ops : List Op
  deriving DecidableEq

namespace Block

/-- The text of a body that is one text. -/
def constant? : Block → Option String
  | ⟨.constant, [.giveBack text]⟩ => some text
  | _ => none

end Block

/-- What a number has to be for a branch to be taken. -/
inductive Condition where
  | equals (n : UInt8)
  | greaterThan (n : UInt8)
  | otherwise
  deriving DecidableEq

namespace Condition

def accepts : Condition → Int → Bool
  | .equals k, n => n == (k.toNat : Int)
  | .greaterThan k, n => (k.toNat : Int) < n
  | .otherwise, _ => true

end Condition

/-- The condition of a category, the ones before it apart. -/
def Category.condition : Category → Condition
  | .zero => .equals 0
  | .one => .equals 1
  | .many => .greaterThan 1
  | .other => .otherwise

/-- The body for one category. A plan may have any condition for it; those that are made here have
the one of the category. -/
structure Branch where
  category : Category
  condition : Condition
  body : Block
  deriving DecidableEq

/-- A choice between bodies by the value of an integer argument. -/
structure Dispatch where
  driver : Binding
  branches : List Branch
  /-- The branches for 0, 1 and more take every value of the integer type. -/
  covered : Bool
  deriving DecidableEq

namespace Dispatch

/-- The first branch that takes a number. -/
def select (d : Dispatch) (n : Int) : Option Branch :=
  d.branches.find? fun b => b.condition.accepts n

def has (d : Dispatch) (c : Category) : Bool := d.branches.any (·.category == c)

/-- Some number may have no branch. -/
def needsFallback (d : Dispatch) : Bool := !d.covered && !d.has .other

/-- The last branch is never taken. -/
def otherUnreachable (d : Dispatch) : Bool := d.covered && d.has .other

/-- The branches some number leads to. -/
def live (d : Dispatch) : List Branch :=
  d.branches.filter fun b => !(d.otherUnreachable && b.category == .other)

/-- Every branch is one text. -/
def isConstant (d : Dispatch) : Bool := d.branches.all (·.body.constant?.isSome)

end Dispatch

/-- What a function does. -/
inductive Flow where
  | sequence (block : Block)
  | dispatch (dispatch : Dispatch)
  deriving DecidableEq

namespace Flow

/-- All bodies, those that are never taken included. -/
def blocks : Flow → List Block
  | .sequence b => [b]
  | .dispatch d => d.branches.map (·.body)

/-- Every body is one text. -/
def isConstant : Flow → Bool
  | .sequence b => b.constant?.isSome
  | .dispatch d => d.isConstant

/-- Some body that can be taken has an operation. -/
def writes : Flow → Bool
  | .sequence b => !b.ops.isEmpty
  | .dispatch d => d.live.any (!·.body.ops.isEmpty)

end Flow

/-- The kinds of function: a message that is all literal, any other message, a variable. -/
inductive Shape where
  | simple
  | general
  | auxiliary
  deriving DecidableEq

namespace Shape

def name : Shape → String
  | .simple => "Simple"
  | .general => "General"
  | .auxiliary => "Auxiliary"

end Shape

/-- The plan of a function. -/
structure Function where
  name : String
  /-- The message or variable it is for. -/
  source : String
  shape : Shape
  params : List Param
  flow : Flow
  /-- Not a variable that nothing leads to. -/
  referenced : Bool
  deriving DecidableEq

namespace Function

/-- The first parameter for an argument. -/
def paramFor? (f : Function) (argument : String) : Option Param :=
  f.params.find? (·.binding.argument == argument)

end Function

/-- The plan of a language: the functions of its messages and of their variables. -/
structure Plan where
  language : String
  messages : List Function
  auxiliaries : List Function
  capabilities : Capabilities

namespace Plan

/-- The first function for a message. -/
def messageNamed? (p : Plan) (message : String) : Option Function :=
  p.messages.find? (·.source == message)

/-- The first function of that name for a variable. -/
def auxiliaryNamed? (p : Plan) (function : String) : Option Function :=
  p.auxiliaries.find? (·.name == function)

end Plan

end Phrasebook
