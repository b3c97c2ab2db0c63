import Phrasebook.Attempt
import Phrasebook.Plan.Basic
import Phrasebook.Settings

set_option autoImplicit false

/-! # Carrying out a plan

A message is rendered by carrying out its function on values for its arguments. What a function
writes goes to the buffer of its caller; a text that it gives back replaces what a message has
written, and is appended to it in a function of a variable. Calls nest at most `maxDepth` deep. The
buffer has room for the longest text there can be; a rendering breaks off where it is full, or where
a directive asks for what there cannot be. -/

namespace Phrasebook

open Format (Value maxTextSize)

/-- Why a message is not rendered. -/
inductive EvalError where
  | unknownLanguage (language : String)
  | unknownMessage (language message : String)
  | missingArgument (message argument : String)
  | unexpectedArgument (message argument : String)
  | argumentType (message argument : String) (expected : ArgType) (found : Value)
  | integerOutOfRange (message argument : String) (value : Int) (width : IntegerWidth)
  | unknownFunction (function : String)
  | recursionLimit (function : String)
  deriving DecidableEq

/-- The deepest nesting of calls. -/
def maxDepth : Nat := 64

namespace EvalError

def message : EvalError → String
  | .unknownLanguage language => s!"unknown language '{language}'"
  | .unknownMessage language message => s!"language '{language}' has no message '{message}'"
  | .missingArgument message argument => s!"message '{message}' requires argument '{argument}'"
  | .unexpectedArgument message argument =>
      s!"message '{message}' does not take argument '{argument}'"
  | .argumentType message argument expected found =>
      s!"argument '{argument}' of '{message}' expects {expected.name}, got {found.kind}"
  | .integerOutOfRange message argument value width =>
      s!"argument '{argument}' of '{message}' does not fit {width.name}: " ++
        String.ofList (Number.decimalInt value)
  | .unknownFunction function => s!"no auxiliary function '{function}'"
  | .recursionLimit function =>
      "variable calls nest deeper than " ++ String.ofList (Number.decimal maxDepth) ++
        s!" at '{function}'"

end EvalError

/-- Values by the name of the argument; of several the first counts. -/
abbrev Values := List (String × Value)

/-- What a body has done: what it wrote, and the text with which it left the function. -/
structure Outcome where
  written : String
  returned : Option String
  deriving DecidableEq

namespace Outcome

/-- The outcome after `text` was written before. -/
def after (text : String) (o : Outcome) : Outcome := { o with written := text ++ o.written }

/-- The text of a message. -/
def messageText (o : Outcome) : String := o.returned.getD o.written

/-- What a call appends to the buffer of its caller. -/
def callText (o : Outcome) : String := o.written ++ o.returned.getD ""

end Outcome

namespace Plan

/-- The value for a binding. -/
def value (message : String) (values : Values) (b : Binding) : Except EvalError Value :=
  match values.lookup b.argument with
  | some v => .ok v
  | none => .error (.missingArgument message b.argument)

/-- The values that are passed on in a call. -/
def passed (message : String) (values : Values) (bs : List Binding) : Except EvalError Values :=
  bs.mapM fun b => return (b.argument, ← value message values b)

/-- Writes a text into the room that is left, and goes on with the rest of the room. -/
def write (room : Nat) (text : String) (next : Nat → Attempt EvalError Outcome) :
    Attempt EvalError Outcome :=
  if text.utf8ByteSize ≤ room then
    return (← next (room - text.utf8ByteSize)).after text
  else .overflow

/-- How the function of a variable is run: the room in the buffer, its name, the caller's values,
and which of them are passed on. -/
abbrev Caller := Nat → String → Values → List Binding → Attempt EvalError String

/-- Carries out operations, with `room` bytes left in the buffer; `call` runs the function of a
variable. -/
def runOps (message : String) (call : Caller) (values : Values) :
    Nat → List Op → Attempt EvalError Outcome
  | _, [] => .ok ⟨"", none⟩
  | _, .giveBack text :: _ => .ok ⟨"", some text⟩
  | room, .literal text :: ops =>
      write room text fun room => runOps message call values room ops
  | room, .argument b _ rendering :: ops => do
      let v ← value message values b
      let text ← Attempt.ofOption (rendering.render? v)
      write room text fun room => runOps message call values room ops
  | room, .call _ function bs :: ops => do
      let text ← call room function values bs
      write room text fun room => runOps message call values room ops

/-- Carries out a flow. -/
def runFlow (message : String) (call : Caller) (values : Values) (room : Nat) :
    Flow → Attempt EvalError Outcome
  | .sequence b => runOps message call values room b.ops
  | .dispatch d => do
      match ← value message values d.driver with
      | .integer n =>
          match d.select n with
          | some b => runOps message call values room b.body.ops
          | none => .ok ⟨"", none⟩
      | v => .error (.argumentType message d.driver.argument .integer v)

/-- Runs the function of a variable, with at most `depth` calls inside each other. -/
def call (p : Plan) (message : String) : Nat → Caller
  | 0, _, function, _, _ => .error (.recursionLimit function)
  | depth + 1, room, function, values, bs =>
      match p.auxiliaryNamed? function with
      | none => .error (.unknownFunction function)
      | some f => do
          let values ← passed message values bs
          return (← runFlow message (p.call message depth) values room f.flow).callText

/-- The value for a parameter of a message. -/
def supplied (width : IntegerWidth) (f : Function) (args : Values) (p : Param) :
    Except EvalError (String × Value) :=
  let argument := p.binding.argument
  match args.lookup argument with
  | none => .error (.missingArgument f.source argument)
  | some v =>
      if !v.suits p.type then .error (.argumentType f.source argument p.type v)
      else match v with
        | .integer n =>
            if width.contains n then .ok (argument, v)
            else .error (.integerOutOfRange f.source argument n width)
        | v => .ok (argument, v)

/-- The values for the parameters of a message. -/
def bind (width : IntegerWidth) (f : Function) (args : Values) : Except EvalError Values :=
  match args.find? fun a => (f.paramFor? a.1).isNone with
  | some (name, _) => .error (.unexpectedArgument f.source name)
  | none => f.params.mapM (supplied width f args)

/-- The text of a message. -/
def evaluate (p : Plan) (width : IntegerWidth) (message : String) (args : Values) :
    Attempt EvalError String :=
  match p.messageNamed? message with
  | none => .error (.unknownMessage p.language message)
  | some f => do
      let values ← bind width f args
      let o ← runFlow message (p.call message maxDepth) values maxTextSize f.flow
      -- A text that is given back is a text as well.
      if o.messageText.utf8ByteSize ≤ maxTextSize then return o.messageText else .overflow

end Plan

end Phrasebook
