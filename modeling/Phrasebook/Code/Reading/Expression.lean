import Phrasebook.Code.Reading.Pattern

set_option autoImplicit false

/-! # Reading expressions

Operators bind in levels: a higher number binds more tightly. A structure value is not allowed
where a block follows the expression. -/

namespace Phrasebook.Code.Grammar

open Fragment (word hidden shown spacing)
open Reader

/-! ## Operators of two operands -/

/-- How tightly an assignment binds. -/
def assigning : Nat := 1

/-- How tightly a range binds. -/
def ranging : Nat := 2

/-- How tightly a comparison binds. -/
def comparing : Nat := 5

/-- How tightly a conversion to a type binds. -/
def casting : Nat := 12

/-- The operators and how tightly they bind; one that starts another stands after it. -/
def binaryOperators : List (String × Nat) :=
  [("+=", assigning), ("-=", assigning), ("*=", assigning), ("/=", assigning),
    ("%=", assigning), ("^=", assigning), ("&=", assigning), ("|=", assigning),
    ("<<=", assigning), (">>=", assigning), ("&&", 4), ("||", 3), ("<<", 9), (">>", 9),
    ("==", comparing), ("<=", comparing), ("!=", comparing), (">=", comparing), ("+", 10),
    ("-", 10), ("*", 11), ("/", 11), ("%", 11), ("^", 7), ("&", 8), ("|", 6), ("<", comparing),
    (">", comparing)]

/-- The operator that is next. -/
def operator? : Reader (Option (String × Nat)) := do
  let ts ← get
  return binaryOperators.find? fun (o, _) => marksAt o.toList ts

/-- How tightly what comes next binds. -/
def nextLevel : Reader Nat := do
  if let some (_, level) ← operator? then return level
  if (← at? "=") && !(← at? "=>") then return assigning
  if ← at? ".." then return ranging
  if ← atWord "as" then return casting
  return 0

/-- The right operand of an operator that binds at `level`, in at most `fuel` steps. -/
def operandAfter (g : Grammar) (structures : Bool) (level : Nat) :
    Nat → Expression → Reader Expression
  | 0, e => return e
  | fuel + 1, e => do
      let next ← nextLevel
      if next > level || next = level && level = assigning then
        let before := (← get).length
        let e ← g.operators e structures next
        if (← get).length = before then return e
        operandAfter g structures level fuel e
      else return e

/-- The right operand of an operator that binds at `level`. -/
def rightOperand (g : Grammar) (structures : Bool) (level : Nat) : Reader Expression := do
  let e ← g.operand structures
  operandAfter g structures level (← get).length e

/-- The operators after `..` that end the range. -/
def rangeEnds : List String :=
  [",", ";", "?", "=>", "=", "+", "/", "%", "^", ">", "<=", "!=", "-=", "*=", "&=", "|=", "<<="]

/-- The last value of a range, if it has one. -/
def rangeLast (g : Grammar) (structures : Bool) (operator : String) :
    Reader (Option Expression) := do
  let ts ← get
  let ends := (← atEnd) || rangeEnds.any (fun o => marksAt o.toList ts) ||
    (← at? ".") && !(← at? "..") || !structures && (← atLeft .curly) || (← atWord "as")
  if operator = ".." && ends then return none
  return some (← rightOperand g structures ranging)

/-- The sign of a range. -/
def rangeOperator : Reader String := do
  if ← take? "..=" then return "..="
  if ← at? "..." then failure
  take ".."
  return ".."

/-- One operator after `e` that binds at least at `base`, with its right operand. -/
def operatorAfter (g : Grammar) (structures : Bool) (base : Nat) (e : Expression) :
    Reader (Option Expression) := do
  if e.isRange then return none
  if let some (o, level) ← operator? then
    if level < base then return none
    if level = comparing && e.isComparison then failure
    drop o.length
    let right ← rightOperand g structures level
    return some { Expression.binary o e right with
      isComparison := level = comparing, leaves := level = assigning }
  if assigning ≥ base && (← at? "=") && !(← at? "=>") then
    take "="
    return some (.assignment e (← rightOperand g structures assigning))
  if ranging ≥ base && (← at? "..") then
    let o ← rangeOperator
    return some (.range (some e) o (← rangeLast g structures o))
  if casting ≥ base && (← atWord "as") then
    drop 1
    return some (.cast e (← g.type false).code)
  return none

/-- The operators after `e`, in at most `fuel` steps. -/
def operatorsAfter (g : Grammar) (structures : Bool) (base : Nat) :
    Nat → Expression → Reader Expression
  | 0, e => return e
  | fuel + 1, e => do
      match ← operatorAfter g structures base e with
      | some e => operatorsAfter g structures base fuel e
      | none => return e

/-- The operators after `e` that bind at least at `base`. -/
def operatorsOf (g : Grammar) (e : Expression) (structures : Bool) (base : Nat) :
    Reader Expression := do
  operatorsAfter g structures base (← get).length e

/-! ## Chains -/

/-- Arguments of a call. -/
def callArguments (g : Grammar) : Reader (List Expression × Bool) :=
  list .round (g.expression true)

/-- The number of a field without the zeros before it. -/
def fieldNumber? (s : String) : Option Fragment :=
  let digits := s.toList.filter (· != '_')
  if digits.isEmpty || !digits.all Char.isDigit then none
  else
    let digits := digits.dropWhile (· == '0')
    some (.ofToken (.literal (if digits.isEmpty then "0" else String.ofList digits)))

/-- The numbers of fields in a literal such as `0.1`, and whether another field follows. -/
def fieldNumbers? (s : String) : Option (List Fragment × Bool) := do
  let parts := s.splitOn "."
  let more := parts.getLast? == some ""
  let numbers ← (if more then parts.dropLast else parts).mapM fieldNumber?
  return (numbers, more)

/-- A member after its dot. -/
def memberOf (g : Grammar) (e : Expression) : Reader Expression := do
  if ← takeWord? "await" then return e.member (word "await")
  match ← get with
  | .literal s :: rest =>
      match fieldNumber? s with
      | some f => set rest; return e.member f
      | none => failure
  | _ => do
      let w ← name
      let types ← if ← at? "::" then do
          drop 2
          let s : Segment := { name := w, arguments := .angled true (← typeArguments g) }
          pure (some (s.code true))
        else pure none
      if types.isSome || (← atLeft .round) then
        let (es, trailing) ← callArguments g
        return e.methodCall (types.getD (word w)) es trailing
      return e.member (word w)

/-- One more link of a chain. -/
def link? (g : Grammar) (e : Expression) : Reader (Option Expression) := do
  if ← atLeft .round then
    let (es, trailing) ← callArguments g
    return some (e.call es trailing)
  if (← at? ".") && !(← at? "..") && !e.isRange then
    take "."
    match ← get with
    | .literal s :: rest =>
        match fieldNumbers? s with
        | some (numbers, more) =>
            set rest
            let e := numbers.foldl Expression.member e
            return some (← if more then memberOf g e else pure e)
        | none => return some (← memberOf g e)
    | _ => return some (← memberOf g e)
  if ← atLeft .square then
    return some (e.index (← inside .square (g.expression true)))
  if e.isRange then return none
  if ← take? "?" then return some e.attempt
  return none

/-- A chain, in at most `fuel` links. -/
def chainFrom (g : Grammar) : Nat → Expression → Reader Expression
  | 0, e => return e
  | fuel + 1, e => do
      match ← link? g e with
      | some e => chainFrom g fuel e
      | none => return e

/-- The chain that starts with `e`. -/
def chain (g : Grammar) (e : Expression) : Reader Expression := do
  chainFrom g (← get).length e

/-! ## Values -/

/-- A field of a structure value. -/
def fieldValue (g : Grammar) : Reader Fragment := do
  let (field, named) ← match ← get with
    | .literal s :: rest =>
        match fieldNumber? s with
        | some f => do set rest; pure (f, false)
        | none => failure
    | _ => do pure (word (← name), true)
  if !named || (← at? ":") then
    take ":"
    return field ++ word ": " ++ (← g.expression true).inner.filled 0
  return field

/-- The fields of a structure value. -/
def structureValue (g : Grammar) (q : QualifiedPath) : Reader Expression :=
  inside .curly do
    let (fields, trailing) ← separated (do return (← atEnd) || (← at? "..")) (fieldValue g)
    if ← take? ".." then
      let rest ← if ← atEnd then pure none else some <$> g.expression true
      return .structure_ q fields trailing (some rest)
    return .structure_ q fields trailing none

/-- A path, a structure value or a call of a macro. -/
def pathValue (g : Grammar) (structures : Bool) : Reader Expression := do
  let q ← qualifiedPath g true
  if q.self.isNone && (← at? "!") && !(← at? "!=") && q.path.isPlain then
    take "!"
    let (b, tokens) ← group
    return .invocation q.path b tokens
  if structures && (← atLeft .curly) then return ← structureValue g q
  return .ofPath q

/-- An expression in round brackets, or a tuple. -/
def roundValue (g : Grammar) : Reader Expression := do
  let (es, trailing) ← list .round (g.expression true)
  match es, trailing with
  | [e], false => return .paren e
  | es, trailing => return .tuple es trailing

/-- An array: its elements, or one element and how often it is repeated. -/
def squareValue (g : Grammar) : Reader Expression :=
  inside .square do
    if ← atEnd then return .array [] false
    let first ← g.expression true
    if ← take? ";" then return .copies first (← g.expression true)
    if ← atEnd then return .array [first] false
    take ","
    let (rest, trailing) ← separated atEnd (g.expression true)
    return .array (first :: rest) (rest.isEmpty || trailing)

/-- An expression can start here. -/
def atExpression : Reader Bool := do
  match (← get).head? with
  | some (.word _) | some (.left _) | some (.literal _) | some (.lifetime _) => return true
  | _ =>
      return (← at? "!") && !(← at? "!=") || (← at? "-") && !(← at? "-=") && !(← at? "->") ||
        (← at? "*") && !(← at? "*=") || (← at? "|") && !(← at? "|=") ||
        (← at? "&") && !(← at? "&=") || (← at? "..") ||
        (← at? "<") && !(← at? "<=") && !(← at? "<<=") || (← at? "::")

/-- A parameter of a closure. -/
def closureInput (g : Grammar) : Reader Fragment := do
  let p ← g.pattern
  if ← take? ":" then return p.code ++ word ": " ++ (← g.type true).code
  return p.code

/-- A function without a name. -/
def closureValue (g : Grammar) (structures : Bool) : Reader Expression := do
  let lifetimes ← binder?
  let mark (w : String) : Reader Fragment := do
    if ← takeWord? w then return word (w ++ " ") else return .empty
  let words := lifetimes.getD .empty ++ (← mark "const") ++ (← mark "static") ++
    (← mark "async") ++ (← mark "move")
  take "|"
  let (inputs, trailing) ← separated (at? "|") (closureInput g)
  take "|"
  if ← take? "->" then
    let type ← g.type true
    return .closure words inputs trailing (some type.code) (.block .empty (← g.block))
  return .closure words inputs trailing none (← g.expression structures)

/-! ## Blocks and choices -/

/-- A choice by conditions: its branches, each with the condition and the block. -/
def branches (g : Grammar) : Reader Expression := do
  let branch : Reader (Expression × BlockCode) := do
    takeWord "if"
    let condition ← g.expression false
    return (condition, ← g.block)
  let first ← branch
  let rest ← many do
    if (← atWord "else") && (← later 1 (atWord "if")) then
      drop 1
      return some (← branch)
    return none
  let otherwise ← if ← takeWord? "else" then some <$> g.block else pure none
  return .ifElse (first :: rest) otherwise

/-- A block that is repeated, after its label. -/
def loopValue (g : Grammar) (label : Fragment) : Reader Expression := do
  if ← takeWord? "loop" then return .loop (label ++ word "loop ") (← g.block) false
  if ← takeWord? "while" then
    let condition ← g.expression false
    return .loop (label ++ word "while " ++ condition.condition) (← g.block) true
  takeWord "for"
  let pattern ← alternatives g true
  takeWord "in"
  let e ← g.expression false
  return .loop (label ++ word "for " ++ pattern.code ++ word " in " ++ spacing Doc.tight ++
    e.condition) (← g.block) true

/-- The word `for` starts a closure, not a loop. -/
def atBinder : Reader Bool := do
  return (← atWord "for") && (← later 1 (at? "<")) &&
    ((← later 2 atLifetime) || (← later 2 (at? ">")))

/-- An expression that is a statement of its own, if one is next. -/
def closedValue? (g : Grammar) : Reader (Option Expression) := do
  if ← atWord "if" then return some (← branches g)
  if (← atAnyWord ["while", "loop"]) || (← atWord "for") && !(← atBinder) then
    return some (← loopValue g .empty)
  if ← takeWord? "match" then
    let e ← g.expression false
    let arms ← inside .curly (many do
      if ← atEnd then return none
      let pattern ← alternatives g true
      let guard ← if ← takeWord? "if" then some <$> g.expression true else pure none
      take "=>"
      let body ← bodyValue
      let comma ← take? ","
      if !comma && !body.isClosed && !(← atEnd) then failure
      return some (Expression.armCode pattern.code guard body comma))
    return some (.choice e arms)
  if (← atWord "unsafe") && (← later 1 (atLeft .curly)) then
    drop 1
    return some (.markedBlock "unsafe " (← g.block) true)
  if (← atWord "const") && (← later 1 (atLeft .curly)) then
    drop 1
    return some (.markedBlock "const " (← g.block) true)
  if (← atWord "try") && (← later 1 (atLeft .curly)) then
    drop 1
    return some (.markedBlock "try " (← g.block) true)
  if ← atLeft .curly then return some (.block .empty (← g.block))
  if let some l ← lifetime? then
    take ":"
    let label := l ++ word ": "
    if ← atLeft .curly then return some (.block label (← g.block))
    return some (← loopValue g label)
  return none
where
  /-- What an arm gives: a closed expression ends at once, unless a chain goes on. -/
  bodyValue : Reader Expression := do
    let block ← atLeft .curly
    if block then
      let e : Expression := .block .empty (← g.block)
      if (← at? ".") && !(← at? "..") || (← at? "?") then
        return ← g.operators (← chain g e) true 0
      return e
    g.expression true

/-- A single value. -/
def valueOf (g : Grammar) (structures : Bool) : Reader Expression := do
  if let some (f, isSimple) ← literal? false then return .literal f isSimple
  if ← atWord "async" then
    if ← later 1 (atLeft .curly) then
      drop 1
      return .markedBlock "async " (← g.block) false
    if (← later 1 (atWord "move")) && (← later 2 (atLeft .curly)) then
      drop 2
      return .markedBlock "async move " (← g.block) false
  if (← at? "|") || (← atAnyWord ["move", "static", "async"]) || (← atBinder) ||
      (← atWord "const") && !(← later 1 (atLeft .curly)) then
    return ← closureValue g structures
  if let some e ← closedValue? g then return e
  if (← atName) || (← at? "::") || (← at? "<") || (← atAnyWord ["self", "Self", "super", "crate"])
      || (← atWord "try") && ((← later 1 (at? "!")) || (← later 1 (at? "::"))) then
    return ← pathValue g structures
  if ← atLeft .round then return ← roundValue g
  if ← atLeft .square then return ← squareValue g
  let value : Reader (Option Expression) := do
    if (← atExpression) && (structures || !(← atLeft .curly)) then
      return some (← g.expression structures)
    return none
  if ← takeWord? "break" then
    let label ← lifetime?
    if label.isSome && (← at? ":") then failure
    return .leave "break" label (← value)
  if ← takeWord? "continue" then return .leave "continue" (← lifetime?) none
  if ← takeWord? "return" then return .leave "return" none (← value)
  if ← takeWord? "yield" then return .leave "yield" none (← value)
  if ← takeWord? "let" then
    let pattern ← alternatives g true
    take "="
    let e ← g.operand structures
    return .matched pattern.code (← g.operators e structures comparing)
  if ← at? ".." then
    let o ← rangeOperator
    return .range none o (← rangeLast g structures o)
  if ← takeWord? "_" then return .ofCode (word "_")
  failure

/-- A value after signs, with the chain that starts with it. -/
def operandOf (g : Grammar) (structures : Bool) : Reader Expression := do
  if ← take? "&" then
    let raw := (← atWord "raw") && (← later 1 (atAnyWord ["mut", "const"]))
    if raw then
      drop 1
      let w ← anyWord
      return .marked ("&raw " ++ w ++ " ") (← g.operand structures)
    let mutable ← takeWord? "mut"
    return .marked (if mutable then "&mut " else "&") (← g.operand structures)
  for o in ["*", "!", "-"] do
    if ← take? o then return .marked o (← g.operand structures)
  chain g (← valueOf g structures)

/-- An expression. -/
def expressionOf (g : Grammar) (structures : Bool) : Reader Expression := do
  operatorsOf g (← operandOf g structures) structures 0

/-! ## Statements -/

/-- Words that start an item, which a block of a type does not hold. -/
def itemWords : List String :=
  ["pub", "extern", "use", "fn", "mod", "type", "struct", "enum", "trait", "impl", "macro"]

/-- A call of a macro in curly brackets is next, and no chain goes on after it. -/
def atBlockInvocation (g : Grammar) : Reader Bool := do
  let ts ← get
  match (pathOf g true).run ts with
  | some (p, .mark '!' _ :: .left .curly :: rest) =>
      let after := (balanced 0 rest).2.drop 1
      return p.isPlain && !(marksAt ['.'] after && !marksAt ['.', '.'] after ||
        marksAt ['?'] after)
  | _ => return false

/-- A variable with its type and value. -/
def variableItem (g : Grammar) : Reader BlockItem := do
  takeWord "let"
  let pattern ← g.pattern
  let type ← if ← take? ":" then do pure <| word ": " ++ (← g.type true).code else pure .empty
  let value ← if ← take? "=" then some <$> g.expression true else pure none
  let brace := value.any (·.endsWithBrace)
  let otherwise ← if value.isSome && !brace && (← atWord "else") then do
      drop 1
      some <$> (BlockCode.small <$> g.block)
    else pure none
  take ";"
  return .variable_ (pattern.code ++ type) value otherwise

/-- A statement that is an expression: a closed one ends at once, unless a chain goes on. -/
def statementExpression (g : Grammar) : Reader Expression := do
  match ← closedValue? g with
  | some e =>
      if (← at? ".") && !(← at? "..") || (← at? "?") then
        operatorsOf g (← chain g e) true 0
      else return e
  | none => expressionOf g true

/-- A statement. -/
def itemOf (g : Grammar) : Reader BlockItem := do
  if ← take? ";" then return .nothing
  if ← atBlockInvocation g then
    let e ← pathValue g false
    return .ofInvocation e (← take? ";")
  if ← atWord "let" then return ← variableItem g
  if ← atAnyWord itemWords then failure
  let e ← statementExpression g
  let semicolon ← take? ";"
  if e.invoked.isSome && (semicolon || e.invoked == some .curly) then
    return .ofInvocation e semicolon
  if !semicolon && !e.isClosed && !(← atEnd) then failure
  return .ofExpression e semicolon

/-- A block in curly brackets. -/
def blockOf (g : Grammar) : Reader BlockCode :=
  inside .curly do
    let items ← many do
      if ← atEnd then return none
      return some (← itemOf g)
    return { items }

/-- Readers for at most `depth` levels of nesting. -/
def level : Nat → Grammar
  | 0 => empty
  | depth + 1 =>
      let g := level depth
      { type := typeOf g
        path := pathOf g false
        expression := expressionOf g
        operand := operandOf g
        operators := operatorsOf g
        pattern := patternOf g
        block := blockOf g }

end Phrasebook.Code.Grammar
