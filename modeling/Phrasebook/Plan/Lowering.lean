import Phrasebook.Event
import Phrasebook.Schema.Validation
import Phrasebook.Trace

set_option autoImplicit false

/-! # From messages to plans

Lowering resolves the names, types and directives of a message. A body of a message that is all
literal becomes one text to give back; every other body appends its parts one by one, with empty
literals left out and neighbouring ones joined. On the way it notes the capabilities that are
needed, the arguments that are used, and what is worth a line in the log. -/

namespace Phrasebook

/-- What lowering notes: a need for a capability, the use of an argument, or an event. -/
inductive Step where
  | need (capability : Capability)
  | use (argument : String)
  | note (event : Event)

/-- The argument that a step uses. -/
def Step.use? : Step → Option String
  | .use argument => some argument
  | _ => none

/-- The events of a sequence of steps, and the capabilities that are there after it. A capability
is registered when it is needed for the first time. -/
def settle (s : Capabilities) : List Step → List Event × Capabilities
  | [] => ([], s)
  | .note e :: steps =>
      let (events, s) := settle s steps
      (e :: events, s)
  | .use _ :: steps => settle s steps
  | .need c :: steps =>
      if s.contains c then settle s steps
      else
        let (events, s) := settle (s.insert c) steps
        (.capabilityRegistered c :: events, s)

/-- Lowering of one message. -/
abbrev Lowering := Traced Step SchemaError

namespace Lowering

def need (c : Capability) : Lowering Unit := Traced.step (.need c)

def use (argument : String) : Lowering Unit := Traced.step (.use argument)

def note (e : Event) : Lowering Unit := Traced.step (.note e)

/-- The arguments that a computation uses. -/
def uses {α : Type} (x : Lowering α) : List String := x.steps.filterMap Step.use?

/-- The same computation, together with the arguments that it uses. -/
def withUses {α : Type} (x : Lowering α) : Lowering (α × List String) :=
  ⟨x.steps, x.result.map fun a => (a, x.uses)⟩

/-- The same computation, with needs that nobody else hears of. -/
def alone {α : Type} (x : Lowering α) : Lowering α :=
  { x with steps := (settle .empty x.steps).1.map .note }

end Lowering

/-- Where a template stands: its message, its place, and the arguments it sees. -/
structure Scope where
  message : Message
  location : Location
  width : IntegerWidth
  visible : Option (List String)

namespace Scope

def check {α : Type} (s : Scope) (r : Except Violation α) : Except SchemaError α :=
  r.mapError fun v => ⟨s.location, v⟩

/-- The parameter for an argument that a template refers to, and its type. -/
def binding (s : Scope) (name : String) : Except SchemaError (Binding × ArgType) := do
  let type ← s.check (s.message.visibleType s.visible name)
  let ident ← s.check (parameterName name)
  return (⟨name, ident⟩, type)

/-- The same, with the argument noted as used. -/
def used (s : Scope) (name : String) : Lowering (Binding × ArgType) := do
  let found ← s.binding name
  Lowering.use name
  return found

/-- The call of the function of a variable. -/
def call (s : Scope) (name : String) : Lowering Op := do
  match s.message.variableNamed? name with
  | none => Traced.fail ⟨s.location, .unknownVariable name⟩
  | some v =>
      let function ← s.check (auxiliaryName s.message.name name)
      let arguments ← v.arguments.mapM s.used
      return .call name function (arguments.map (·.1))

/-- The operation for a part; none for an empty literal. -/
def part (s : Scope) : Part → Lowering (Option Op)
  | .literal text => return if text.isEmpty then none else some (.literal text)
  | .argument name directive => do
      let (binding, type) ← s.used name
      let rendering ← s.check ((Format.Rendering.resolve type directive).mapError
        (.invalidDirective (directive.getD "")))
      Lowering.need rendering.capability
      return some (.argument binding type rendering)
  | .var name => return some (← s.call name)

/-- Puts an operation in front of others; two literals become one. -/
def joined : Op → List Op → List Op
  | .literal a, .literal b :: ops => .literal (a ++ b) :: ops
  | op, ops => op :: ops

/-- The operations for parts. -/
def parts (s : Scope) : List Part → Lowering (List Op)
  | [] => return []
  | p :: ps => do
      let op ← s.part p
      let ops ← s.parts ps
      return match op with
        | none => ops
        | some op => joined op ops

/-- The plan of a body. A literal one is given back as a text if `direct` allows it. -/
def body (s : Scope) (direct : Bool) (b : Body) : Lowering Block :=
  match direct, b.constantText? with
  | true, some text => return ⟨.constant, [.giveBack text]⟩
  | _, _ => do
      Lowering.need .textBuffer
      return ⟨.accumulate, ← s.parts b⟩

/-- The plan of the branches of a plural. -/
def branches (s : Scope) (direct : Bool) : List (Category × Body) → Lowering (List Branch)
  | [] => return []
  | (category, b) :: rest => do
      let body ← s.body direct b
      return ⟨category, category.condition, body⟩ :: (← s.branches direct rest)

/-- The plan of a plural. -/
def plural (s : Scope) (direct : Bool) (p : Plural) : Lowering Dispatch := do
  if p.isEmpty then Traced.fail ⟨s.location, .emptyPlural⟩
  let (driver, type) ← s.used p.argument
  if type ≠ .integer then Traced.fail ⟨s.location, .pluralArgumentNotInteger p.argument type⟩
  let branches ← s.branches direct p.branches
  let covered := p.coversWidth s.width
  Lowering.note (.pluralLowered p.argument branches.length covered)
  return { driver, branches, covered }

/-- The plan of a template. -/
def template (s : Scope) (direct : Bool) : Template → Lowering Flow
  | .unset => Traced.fail ⟨s.location, .unsetTemplate⟩
  | .plain b => return .sequence (← s.body direct b)
  | .plural p => return .dispatch (← s.plural direct p)

/-- The parameter for an argument of a function whose body uses the given ones. -/
def param (s : Scope) (uses : List String) (name : String) : Except SchemaError Param :=
  match s.message.argumentNamed? name with
  | none => .error ⟨s.location, .variableArgumentNotInMessage name⟩
  | some a => do
      let ident ← s.check (parameterName name)
      return { binding := ⟨name, ident⟩, type := a.type, used := uses.contains name }

/-- The parameters of the function. -/
def params (s : Scope) (uses names : List String) : Except SchemaError (List Param) :=
  names.mapM (s.param uses)

end Scope

namespace Message

/-- The scope of the template of a message. -/
def scope (m : Message) (language : String) (width : IntegerWidth) : Scope :=
  { message := m, location := .inMessage language m.name, width, visible := none }

/-- The scope of the template of a variable. -/
def variableScope (m : Message) (language : String) (width : IntegerWidth) (v : Variable) :
    Scope :=
  { message := m, location := .inVariable language m.name v.name, width,
    visible := some v.arguments }

/-- The function of a message. -/
def function (m : Message) (language : String) (width : IntegerWidth) : Lowering Function := do
  let s := m.scope language width
  let name ← s.check (methodName m.name)
  let (flow, uses) ← (s.template true m.template).withUses
  let params ← s.params uses (m.arguments.map (·.name))
  return { name, source := m.name, shape := if m.template.isConstant then .simple else .general,
           params, flow, referenced := true }

/-- The function of a variable. -/
def variableFunction (m : Message) (language : String) (width : IntegerWidth)
    (referenced : Bool) (v : Variable) : Lowering Function := do
  let s := m.variableScope language width v
  let name ← s.check (auxiliaryName m.name v.name)
  let (flow, uses) ← (s.template false v.template).withUses
  let params ← s.params uses v.arguments
  return { name, source := v.name, shape := .auxiliary, params, flow, referenced }

/-- The functions of variables. One that nothing leads to is planned all the same, but what it
needs does not count. -/
def variableFunctions (m : Message) (language : String) (width : IntegerWidth) :
    List Variable → Lowering (List Function)
  | [] => return []
  | v :: vs => do
      let f ← if v.name ∈ m.referenced then m.variableFunction language width true v
        else do
          let f ← (m.variableFunction language width false v).alone
          Lowering.note (.variableUnreferenced language m.name v.name)
          pure f
      return f :: (← m.variableFunctions language width vs)

/-- The functions of a message and of its variables. -/
def lower (m : Message) (language : String) (width : IntegerWidth) :
    Lowering (Function × List Function) := do
  let f ← m.function language width
  let auxiliaries ← m.variableFunctions language width m.vars
  Lowering.note (.messageLowered language m.name f.shape auxiliaries.length)
  return (f, auxiliaries)

end Message

namespace CompileError

/-- Success, unless there are errors. -/
def check : List CompileError → Except CompileError Unit
  | es => match ofList? es with
    | none => .ok ()
    | some e => .error e

/-- The same for errors in definitions. -/
def checkSchema (es : List SchemaError) : Except CompileError Unit := check (es.map .schema)

end CompileError

/-- A computation that writes to the log. -/
abbrev Logged := Traced Event

/-- Results and errors of a list, each in their order. -/
def partitionResults {ε α : Type} : List (Except ε α) → List ε × List α
  | [] => ([], [])
  | .ok a :: rs => let (es, as) := partitionResults rs; (es, a :: as)
  | .error e :: rs => let (es, as) := partitionResults rs; (e :: es, as)

namespace Localization

/-- The plan of a localization, or what is wrong with each of its messages. -/
def lower (l : Localization) (width : IntegerWidth) : Logged CompileError Plan := do
  let lowered := l.messages.map (·.lower l.language width)
  let (events, capabilities) := settle .empty (lowered.flatMap (·.steps))
  let (errors, functions) := partitionResults (lowered.map (·.result))
  (⟨events, .ok ()⟩ : Logged CompileError Unit)
  CompileError.checkSchema errors
  let auxiliaries := functions.flatMap (·.2)
  Traced.step (.localizationLowered l.language functions.length auxiliaries.length
    capabilities.size)
  return { language := l.language, messages := functions.map (·.1), auxiliaries, capabilities }

end Localization

end Phrasebook
