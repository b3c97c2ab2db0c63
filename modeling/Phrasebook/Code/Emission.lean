import Phrasebook.Code.Syntax

set_option autoImplicit false

/-! # From plans to code

Every name has to be an identifier and every type path has to be one; the first that is not is the
error. -/

namespace Phrasebook.Code

/-- An identifier. -/
def identifier (name : String) : Except CompileError String :=
  match readName? name with
  | some w => .ok w
  | none => .error (.render name)

/-- The type of the parameter for an argument. -/
def parameterType (width : IntegerWidth) : ArgType → Except CompileError ParameterType
  | .text => .ok .text
  | .integer => .ok (.integer width)
  | .float => .ok .float
  | .display => .ok .display
  | .custom path =>
      match TypePath.read? path with
      | some path => .ok (.custom path)
      | none => .error (.render path)

/-- A parameter; the name of one that is not used starts with an underscore. -/
def parameter (width : IntegerWidth) (p : Param) : Except CompileError Parameter := do
  let name ← identifier (if p.used then p.binding.ident else "_" ++ p.binding.ident)
  return { name, type := ← parameterType width p.type }

/-- The statement for an operation, in a function that has the buffer as its `own` or was given
it. -/
def statement (own : Bool) : Op → Except CompileError Statement
  | .literal text => .ok (.push text)
  | .argument b _ rendering => do
      let name ← identifier b.ident
      return match rendering with
        | .passThrough => .pushParameter name
        | .integerToText => .pushNumber name
        | .fixedFloat count => .write name (.places count)
        | .pattern spec => .write b.ident (.spec spec)
        | .display => .write name .plain
  | .call _ function bs => do
      let function ← identifier function
      return .call function own (← bs.mapM fun b => identifier b.ident)
  | .giveBack text => .ok (.giveBack text)

def statements (own : Bool) (b : Block) : Except CompileError (List Statement) :=
  b.ops.mapM (statement own)

/-- The arms of a choice: one for each branch that can be taken, and one for all other numbers if
there are any. -/
def arms {α : Type} (d : Dispatch) (arm : Block → Except CompileError α) (fallback : α) :
    Except CompileError (List (Pattern × α)) := do
  let taken ← d.live.mapM fun b => return (.ofCondition b.condition, ← arm b.body)
  return taken ++ if d.needsFallback then [(.any, fallback)] else []

def procedure (own : Bool) : Flow → Except CompileError Procedure
  | .sequence b => return .statements (← statements own b)
  | .dispatch d => do
      let driver ← identifier d.driver.ident
      return .choice driver (← arms d (statements own) [])

/-- The body of a method whose texts are all literal. -/
def constantBody : Flow → Except CompileError MethodBody
  | .sequence b => return .text (b.constant?.getD "")
  | .dispatch d => do
      let driver ← identifier d.driver.ident
      return .texts driver (← arms d (fun b => return some (b.constant?.getD "")) none)

/-- The method for a message. -/
def method (width : IntegerWidth) (f : Function) : Except CompileError MethodCode := do
  let name ← identifier f.name
  let params ← f.params.mapM (parameter width)
  let body ← if f.shape = .simple && f.flow.isConstant then constantBody f.flow
    else MethodBody.buffered <$> procedure true f.flow
  return { name, params, body }

/-- The function for a variable. -/
def auxiliary (width : IntegerWidth) (f : Function) : Except CompileError AuxiliaryCode := do
  let name ← identifier f.name
  let params ← f.params.mapM (parameter width)
  let buffer := if f.flow.writes then bufferName else "_" ++ bufferName
  return { name, buffer, params, body := ← procedure false f.flow }

/-- The code of a language. -/
def localizer (width : IntegerWidth) (r : Registration) (p : Plan) :
    Except CompileError LocalizerCode := do
  let type ← identifier r.type
  let auxiliaries ← (p.auxiliaries.filter (·.referenced)).mapM (auxiliary width)
  let methods ← p.messages.mapM (method width)
  return { language := r.language, type, imports := p.capabilities.imports, auxiliaries, methods }

/-- A method of the interface. -/
def signature (width : IntegerWidth) (reference : String) (m : Method) :
    Except CompileError SignatureCode := do
  let name ← identifier m.name
  let params ← m.arguments.mapM fun a => do
    let raw ← (parameterName a.name).mapError fun v =>
      CompileError.schema ⟨.inMessage reference m.message, v⟩
    return { name := ← identifier raw, type := ← parameterType width a.type : Parameter }
  return { message := m.message, name, params }

/-- The code that all languages share. -/
def interface (s : Settings) (c : Contract) : Except CompileError InterfaceCode := do
  let modules ← c.registry.mapM fun r => identifier r.module
  let types ← c.registry.mapM fun r => identifier r.type
  let methods ← c.methods.mapM (signature s.integer c.reference)
  let languages := (c.registry.zip (modules.zip types)).map fun (r, module, type) =>
    { language := r.language, module, type : Registration }
  return { module := s.module, languages, methods }

end Phrasebook.Code
