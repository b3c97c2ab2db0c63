import Phrasebook.Code.Reading.Grammar

set_option autoImplicit false

/-! # Reading types and paths -/

namespace Phrasebook.Code.Grammar

open Fragment (word hidden shown spacing)
open Reader

/-! ## Lifetimes that are introduced -/

/-- Items joined by a word, the last of which may be followed by it. -/
def joined (mark : String) (items : List Fragment) (trailing : Bool) : Fragment :=
  .join (items.intersperse (word mark)) ++ (if trailing then hidden mark else .empty)

/-- Lifetimes joined by `+`, until the list of which they are part goes on. -/
def lifetimeBounds : Reader Fragment := do
  let items ← many do
    if (← at? ",") || (← at? ">") then return none
    let some l ← lifetime? | failure
    let plus ← take? "+"
    return some (l, plus)
  let stray := items.dropLast.any (!·.2)
  if stray then failure
  return joined " + " (items.map (·.1)) ((items.getLast?.map (·.2)).getD false)

/-- A lifetime that is introduced, with those it outlives, or the name of a type. -/
def introduced : Reader Fragment := do
  match ← lifetime? with
  | some l =>
      if ← take? ":" then
        let bounds ← lifetimeBounds
        return l ++ (if bounds.tokens.isEmpty then hidden ":" else word ": ") ++ bounds
      return l
  | none => return word (← name)

/-- The word `for` with the lifetimes it introduces. -/
def binder : Reader Fragment := do
  takeWord "for"
  take "<"
  let (items, trailing) ← separated (at? ">") introduced
  take ">"
  return word "for<" ++ joined ", " items trailing ++ word "> "

/-- What `for` introduces, if it is next. -/
def binder? : Reader (Option Fragment) := do
  if ← atWord "for" then return some (← binder) else return none

/-! ## Paths -/

/-- Words that stand alone in a path, without arguments. -/
def loneWords : List String := ["super", "self", "crate", "try"]

/-- The tokens `::` and an opening bracket are next. -/
def atCall : Reader Bool := do return (← at? "::") && (← later 2 (atLeft .round))

/-- The type after an arrow, if there is one. -/
def output (g : Grammar) : Reader Fragment := do
  if ← take? "->" then return word " -> " ++ (← g.type false).code
  return .empty

/-- The types that a function takes, in round brackets, and the type it gives. -/
def called (g : Grammar) : Reader Fragment := do
  let (types, trailing) ← list .round (g.type true)
  let inputs := word "(" ++ (Fragment.listed (types.map (·.code)) trailing).outdented ++ word ")"
  return (inputs ++ (← output g)).together Doc.indentStep

/-- A lifetime that is an argument of a type is next, and not the start of a bound. -/
def atLifetimeArgument : Reader Bool := do
  return (← atLifetime) && !(← later 1 (at? "+"))

/-- A constant argument: a literal or a block. -/
def constant? (g : Grammar) : Reader (Option Expression) := do
  if let some (f, isSimple) ← literal? true then return some (.literal f isSimple)
  if ← atLeft .curly then return some (.block .empty (← g.block))
  return none

/-- A trait: lifetimes it introduces, or the sign that it need not hold, and its path. -/
def traitBound (g : Grammar) : Reader Fragment := do
  let lifetimes ← binder?
  let relaxed ← take? "?"
  if relaxed && lifetimes.isSome then failure
  let p ← g.path
  let p ← match p.segments.getLast? with
    | some last =>
        if last.isBare && ((← atLeft .round) || (← atCall)) then
          discard (take? "::")
          let called : Segment := { last with arguments := .called (← called g) }
          pure { p with segments := p.segments.dropLast ++ [called] }
        else pure p
    | none => pure p
  return (if relaxed then word "?" else .empty) ++ lifetimes.getD .empty ++ p.code false

/-- The names that a type may hold on to. -/
def capture : Reader Fragment := do
  takeWord "use"
  take "<"
  let (items, trailing) ← separated (at? ">") do
    match ← lifetime? with
    | some l => return l
    | none => if ← takeWord? "Self" then return word "Self" else return word (← name)
  take ">"
  return word "use<" ++ joined ", " items trailing ++ word ">"

/-- A bound. -/
def bound (g : Grammar) (captures : Bool) : Reader Bound := do
  if let some l ← lifetime? then return { code := l, isTrait := false }
  if ← atWord "use" then
    if captures then return { code := ← capture, isTrait := false } else failure
  if ← atLeft .round then
    let inner ← inside .round (traitBound g)
    return { code := word "(" ++ inner ++ word ")", isTrait := true }
  return { code := ← traitBound g, isTrait := true }

/-- A bound can start here. -/
def atBound : Reader Bool := do
  match (← get).head? with
  | some (.word _) => return true
  | _ => return (← at? "::") || (← at? "?") || (← atLifetime) || (← atLeft .round)

/-- More bounds after one, each after `+`. -/
def moreBounds (g : Grammar) (captures : Bool) (first : Bound) :
    Reader Bounds := do
  let rest ← many do
    if !(← take? "+") then return none
    if ← atBound then return some (some (← bound g captures))
    return some none
  let items := first :: rest.filterMap id
  if rest.dropLast.any (·.isNone) then failure
  return { items, trailing := (rest.getLast?.map (·.isNone)).getD false }

/-- Bounds joined by `+`, or a single one unless `plus`; one of them has to be a trait. -/
def bounds (g : Grammar) (plus captures : Bool) : Reader Bounds := do
  let first ← bound g captures
  let all ← if plus then moreBounds g captures first
    else pure { items := [first], trailing := false }
  if all.items.any (·.isTrait) then return all else failure

/-- The bounds of a name among type arguments. -/
def constraint (g : Grammar) : Reader Bounds := do
  if (← at? ",") || (← at? ">") then return { items := [], trailing := false }
  let first ← bound g false
  let rest ← many do
    if !(← take? "+") then return none
    if (← at? ",") || (← at? ">") then return some none
    return some (some (← bound g false))
  return { items := first :: rest.filterMap id,
           trailing := (rest.getLast?.map (·.isNone)).getD false }

/-- A type argument, and whether it is a lifetime. -/
def typeArgument (g : Grammar) : Reader (Fragment × Bool) := do
  if ← atLifetimeArgument then
    if let some l ← lifetime? then return (l, true)
  if let some e ← constant? g then return (e.inner, false)
  let t ← g.type true
  let name := match t.shape with
    | .path p => p.single?
    | _ => none
  if name.isSome then
    if ← take? "=" then
      if let some e ← constant? g then return (t.code ++ word " = " ++ e.inner, false)
      return (t.code ++ word " = " ++ (← g.type true).code, false)
    if ← take? ":" then return (t.code ++ (← constraint g).constraint, false)
  return (t.code, false)

/-- Type arguments in their brackets. -/
def typeArguments (g : Grammar) : Reader (List TypeArgument) := do
  take "<"
  let items ← many do
    if ← at? ">" then return none
    let (code, isLifetime) ← typeArgument g
    if ← at? ">" then return some { code, isLifetime, comma := false : TypeArgument }
    take ","
    return some { code, isLifetime, comma := true }
  take ">"
  return items

/-- A name of a path, with its arguments; in an expression `::` stands before them. -/
def segment (g : Grammar) (inExpression : Bool) : Reader Segment := do
  let w ← anyWord
  if loneWords.contains w then return { name := w, arguments := .none }
  if !(isName w || w == "Self") then failure
  if !inExpression && (← at? "<") && !(← at? "<=") then
    return { name := w, arguments := .angled false (← typeArguments g) }
  if (← at? "::") && (← later 2 (at? "<")) then
    drop 2
    return { name := w, arguments := .angled true (← typeArguments g) }
  return { name := w, arguments := .none }

/-- More names, each after `::`. -/
def moreSegments (g : Grammar) (inExpression : Bool) :
    Reader (List Segment) :=
  many do
    if !(← at? "::") || (← atCall) then return none
    drop 2
    return some (← segment g inExpression)

/-- A path; in an expression `::` stands before type arguments. -/
def pathOf (g : Grammar) (inExpression : Bool) : Reader Path := do
  let leading ← take? "::"
  let first ← segment g inExpression
  return { leading, segments := first :: (← moreSegments g inExpression) }

/-- A path, or one that starts from a type. -/
def qualifiedPath (g : Grammar) (inExpression : Bool) : Reader QualifiedPath := do
  if !(← at? "<") then
    return { self := none, position := 0, path := ← pathOf g inExpression }
  take "<"
  let type ← g.type true
  let trait ← if ← takeWord? "as" then some <$> pathOf g false else pure none
  take ">"
  take "::"
  let first ← segment g inExpression
  let rest ← many do
    if ← take? "::" then return some (← segment g inExpression) else return none
  let names := first :: rest
  return match trait with
    | some p =>
        { self := some type.code, position := p.segments.length,
          path := { p with segments := p.segments ++ names } }
    | none =>
        { self := some type.code, position := 0, path := { leading := true, segments := names } }

/-! ## Types -/

/-- Bounds as a type; the word `dyn` is shown even if it is not written. -/
def object (keyword : Bool) (bs : Bounds) : TypeCode :=
  let shape := match keyword, bs.items, bs.trailing with
    | false, [b], false => .bound b
    | _, _, _ => .other
  { code := (if keyword then word "dyn " else shown "dyn ") ++ bs.code, shape }

/-- Other bounds after the first of a type without the word `dyn`. -/
def objectFrom (g : Grammar) (first : Bound) : Reader TypeCode := do
  let rest ← many do
    if ← take? "+" then return some (← bound g false) else return none
  return object false { items := first :: rest, trailing := false }

/-- A type in round brackets, a tuple, or the start of bounds. -/
def roundType (g : Grammar) (plus : Bool) : Reader TypeCode := do
  if ← later 1 (at? "?") then
    let code ← inside .round (traitBound g)
    return ← objectFrom g { code := word "(" ++ code ++ word ")", isTrait := true }
  if ← later 1 atLifetime then
    let inner ← inside .round do return object false (← bounds g true false)
    return { code := word "(" ++ inner.code ++ word ")", shape := .other }
  let (types, comma) ← list .round (g.type true)
  match types, comma with
  | [t], false =>
      let code := word "(" ++ t.code ++ word ")"
      if plus && (← at? "+") then
        match t.shape with
        | .path p =>
            return ← objectFrom g
              { code := word "(" ++ p.code false ++ word ")", isTrait := true }
        | .bound b =>
            let code := if b.isTrait then word "(" ++ b.code ++ word ")" else b.code
            return ← objectFrom g { b with code }
        | .other => return { code, shape := .other }
      return { code, shape := .other }
  | [t], true =>
      let item := spacing Doc.gap ++ t.code ++ word "," ++ spacing Doc.gap
      return { code := word "(" ++ item.outdented.together Doc.indentStep ++ word ")",
               shape := .other }
  | ts, trailing =>
      return { code := .inBrackets "(" ")" (ts.map (·.code)) trailing, shape := .other }

/-- An array or a slice. -/
def squareType (g : Grammar) : Reader Fragment :=
  inside .square do
    let element ← g.type true
    let length ← if ← take? ";" then do pure <| word "; " ++ (← g.expression true).inner
      else pure .empty
    return word "[" ++ element.code ++ length ++ word "]"

/-- A parameter of a function type, with its name if it has one. -/
def functionInput (g : Grammar) : Reader Fragment := do
  let named := (← atName) || (← atAnyWord ["_"])
  if named && (← later 1 (at? ":")) && !(← later 1 (at? "::")) then
    let w ← anyWord
    take ":"
    return word w ++ word ": " ++ (← g.type true).code
  return (← g.type true).code

/-- The dots that stand for any other parameters, with a name if they have one. -/
def variadic? : Reader (Option Fragment) := do
  if ← take? "..." then return some (word "...")
  let named := (← atName) || (← atAnyWord ["_"])
  if named && (← later 1 (at? ":")) && (← later 2 (at? "...")) then
    let w ← anyWord
    take ":"
    take "..."
    return some (word w ++ word ": " ++ word "...")
  return none

/-- The parameters of a function type. -/
def functionInputs (g : Grammar) : Reader Fragment :=
  inside .round do
    let items ← many do
      if ← atEnd then return none
      if let some f ← variadic? then return some (f, true, ← take? ",")
      let f ← functionInput g
      if ← atEnd then return some (f, false, false)
      take ","
      return some (f, false, true)
    let variadic := items.filter (·.2.1)
    if (items.dropLast.any (·.2.1)) then failure
    let inputs := items.filter (!·.2.1)
    match variadic with
    | (dots, _, comma) :: _ =>
        let before := Fragment.join (inputs.map fun (f, _) => f ++ word "," ++ spacing Doc.blank)
        let after := if comma then hidden "," else .empty
        let inside := spacing Doc.gap ++ before ++ dots ++ after ++ spacing Doc.gap
        return word "(" ++ inside.outdented.together Doc.indentStep ++ word ")"
    | [] =>
        let trailing := (inputs.getLast?.map (·.2.2)).getD false
        return .inBrackets "(" ")" (inputs.map (·.1)) trailing

/-- A function type, after the lifetimes it introduces. -/
def functionType (g : Grammar) : Reader Fragment := do
  let guarded ← takeWord? "unsafe"
  let linkage ← if ← takeWord? "extern" then do
      match ← get with
      | .literal s :: rest =>
          if s.toList.head?.any fun c => c == '"' || c == 'r' then
            set rest
            pure (word "extern " ++ .ofToken (.literal s) ++ shown " ")
          else failure
      | _ => pure (word "extern ")
    else pure .empty
  takeWord "fn"
  return (if guarded then word "unsafe " else .empty) ++ linkage ++ word "fn" ++
    (← functionInputs g) ++ (← output g)

/-- A type that starts with a path. -/
def pathType (g : Grammar) (lifetimes : Option Fragment) (plus : Bool) : Reader TypeCode := do
  let q ← qualifiedPath g false
  if q.self.isSome then return { code := q.code false, shape := .other }
  if (← at? "!") && !(← at? "!=") && q.path.isPlain then
    take "!"
    let (b, tokens) ← group
    return { code := Invocation.code (q.code false) b tokens, shape := .other }
  if lifetimes.isSome || (plus && (← at? "+")) then
    let first : Bound := { code := lifetimes.getD .empty ++ q.code false, isTrait := true }
    if plus then return object false (← moreBounds g false first)
    return object false { items := [first], trailing := false }
  return { code := q.code false, shape := .path q.path }

/-- Words that a path can start with although they are reserved. -/
def pathWords : List String := ["super", "self", "Self", "crate"]

/-- A type; `plus` tells whether bounds joined by `+` are one. -/
def typeOf (g : Grammar) (plus : Bool) : Reader TypeCode := do
  let plain (r : Reader Fragment) : Reader TypeCode := do return { code := ← r, shape := .other }
  if ← atWord "for" then
    let lifetimes ← binder
    if ← atAnyWord ["fn", "unsafe", "extern"] then
      return ← plain do return lifetimes ++ (← functionType g)
    if (← atName) || (← atAnyWord pathWords) then return ← pathType g lifetimes plus
    failure
  if ← atLeft .round then return ← roundType g plus
  if ← atLeft .square then return ← plain (squareType g)
  if ← atAnyWord ["fn", "unsafe", "extern"] then return ← plain (functionType g)
  if (← atName) || (← atAnyWord pathWords) || (← at? "::") || (← at? "<") then
    return ← pathType g none plus
  if ← takeWord? "dyn" then return object true (← bounds g plus false)
  if ← take? "*" then
    let mutable ← takeWord? "mut"
    if !mutable then takeWord "const"
    return ← plain do
      return word (if mutable then "*mut " else "*const ") ++ (← g.type false).code
  if ← take? "&" then
    let lifetime := ((← lifetime?).map (· ++ shown " ")).getD .empty
    let mutable := if ← takeWord? "mut" then word "mut " else .empty
    return ← plain do return word "&" ++ lifetime ++ mutable ++ (← g.type false).code
  if (← at? "!") && !(← at? "!=") then
    take "!"
    return { code := word "!", shape := .other }
  if ← takeWord? "impl" then
    return ← plain do return word "impl " ++ (← bounds g plus true).code
  if ← takeWord? "_" then return { code := word "_", shape := .other }
  if ← atLifetime then return object false (← bounds g plus false)
  failure

end Phrasebook.Code.Grammar
