import Phrasebook.Code.Reading.Type

set_option autoImplicit false

/-! # Reading patterns -/

namespace Phrasebook.Code.Grammar

open Fragment (word hidden shown spacing)
open Reader

/-- Patterns in round or square brackets behind a word. -/
def patternList (left right : String) (ps : List PatternCode) (trailing : Bool) : Fragment :=
  .inBrackets left right (ps.map (·.code)) trailing

/-- Alternatives, of which the first may follow `|` too if `leading`. -/
def alternatives (g : Grammar) (leading : Bool) : Reader PatternCode := do
  let stroke ← if leading then take? "|" else pure false
  let first ← g.pattern
  let rest ← many do
    if (← at? "|") && !(← at? "||") && !(← at? "|=") then
      take "|"
      return some (← g.pattern)
    return none
  let lead := if stroke then hidden "|" else .empty
  if rest.isEmpty && !stroke then return first
  let items := first :: rest
  let code := Fragment.join ((items.map (·.code)).intersperse (spacing Doc.blank ++ word "| "))
  let boxed := if items.all (·.isSmall) then code.filled 0 else code.together 0
  return { code := lead ++ boxed }

/-- The end of a range of values: a literal, a path or a block. -/
def rangeEnd (g : Grammar) : Reader Fragment := do
  if let some (f, _) ← literal? true then return f
  if ← takeWord? "const" then return word "const " ++ (← g.block).small.together Doc.indentStep
  return (← qualifiedPath g true).code true

/-- An end of a range can follow. -/
def atRangeEnd : Reader Bool := do
  return !((← atEnd) || (← at? "|") || (← at? "=") || (← at? ":") && !(← at? "::") ||
    (← at? ",") || (← at? ";") || (← atWord "if"))

/-- A range of values after its first one. -/
def rangeFrom (g : Grammar) (first : Fragment) : Reader PatternCode := do
  let operator ← if ← take? "..=" then pure "..=" else do take ".."; pure ".."
  let last ← if ← atRangeEnd then rangeEnd g
    else if operator = "..=" then failure else pure .empty
  return { code := first ++ word operator ++ last }

/-- A field of a structure with its pattern. -/
def fieldPattern (g : Grammar) : Reader Fragment := do
  let byReference ← takeWord? "ref"
  let mutable ← takeWord? "mut"
  let marks := (if byReference then word "ref " else .empty) ++
    (if mutable then word "mut " else .empty)
  let bare := byReference || mutable
  let field ← match ← get with
    | .literal s :: rest => set rest; pure (Fragment.ofToken (.literal s))
    | _ => word <$> name
  if !bare && (← at? ":") then
    take ":"
    return field ++ word ": " ++ (← alternatives g true).code
  return marks ++ field

/-- The fields of a structure and the dots that stand for the others. -/
def structurePattern (g : Grammar) (path : Fragment) : Reader PatternCode := do
  let (fields, dots) ← inside .curly do
    let (fields, trailing) ← separated (do return (← atEnd) || (← at? "..")) (fieldPattern g)
    return ((fields, trailing), ← take? "..")
  let comma : Fragment := word "," ++ spacing Doc.blank
  let last : Fragment :=
    ⟨if fields.2 then [.mark ',' false] else [], [.brk { blank := 1, before := "," }]⟩
  let content := if dots then
      .join (fields.1.map (· ++ comma)) ++ word ".." ++ spacing Doc.blank
    else if fields.1.isEmpty then .empty
    else .join (fields.1.intersperse comma) ++ last
  let inner := path ++ word " \x7b" ++ spacing (.brk { blank := 1, ifFollowed := true }) ++ content
  return { code := inner.outdented.together Doc.indentStep ++ word "\x7d" }

/-- A pattern that starts with a path. -/
def pathPattern (g : Grammar) : Reader PatternCode := do
  let q ← qualifiedPath g true
  if q.self.isNone && (← at? "!") && !(← at? "!=") && q.path.isPlain then
    take "!"
    let (b, tokens) ← group
    return { code := Invocation.code (q.code true) b tokens }
  if ← atLeft .curly then return ← structurePattern g (q.code true)
  if ← atLeft .round then
    let (ps, trailing) ← list .round (alternatives g true)
    return { code := q.code true ++ patternList "(" ")" ps trailing }
  if ← at? ".." then return ← rangeFrom g (q.code true)
  return { code := q.code true }

/-- A new name, with a pattern for its value if there is one. -/
def namePattern (g : Grammar) : Reader PatternCode := do
  let byReference ← takeWord? "ref"
  let mutable ← takeWord? "mut"
  let w ← if ← takeWord? "self" then pure "self" else name
  let value ← if ← take? "@" then do pure <| word " @ " ++ (← g.pattern).code else pure .empty
  return { code := (if byReference then word "ref " else .empty) ++
    (if mutable then word "mut " else .empty) ++ word w ++ value }

/-- A pattern in round brackets, or a tuple of them. -/
def roundPattern (g : Grammar) : Reader PatternCode := do
  let (ps, trailing) ← list .round (alternatives g true)
  match ps, trailing with
  | [p], false => return { code := word "(" ++ p.code ++ word ")" }
  | [p], true =>
      let item := spacing Doc.gap ++ p.code ++ word "," ++ spacing Doc.gap
      return { code := word "(" ++ item.outdented.together Doc.indentStep ++ word ")" }
  | ps, trailing => return { code := patternList "(" ")" ps trailing }

/-- Patterns for the elements of a list. -/
def squarePattern (g : Grammar) : Reader PatternCode := do
  let (ps, trailing) ← list .square (alternatives g true)
  let doc := Doc.commaSeparated (ps.map (·.code.doc))
  let inner : Fragment :=
    ⟨Fragment.commaTokens (ps.map (·.code)) ++ (if trailing then [.mark ',' false] else []), doc⟩
  return { code := word "[" ++ inner ++ word "]" }

/-- A pattern without alternatives. -/
def patternOf (g : Grammar) : Reader PatternCode := do
  let pathFollows := (← atName) && ((← later 1 (at? "::")) || (← later 1 (at? "!")) ||
    (← later 1 (atLeft .curly)) || (← later 1 (atLeft .round)) || (← later 1 (at? "..")))
  if pathFollows || (← atWord "self") && (← later 1 (at? "::")) || (← at? "::") || (← at? "<") ||
      (← atAnyWord ["Self", "super", "crate"]) then
    return ← pathPattern g
  if ← takeWord? "_" then return { code := word "_", isSmall := true }
  if let some (f, _) ← literal? true then
    if ← at? ".." then return ← rangeFrom g f
    return { code := f, isSmall := true }
  if ← atWord "const" then return { code := ← rangeEnd g }
  if (← atAnyWord ["ref", "mut", "self"]) || (← atName) then return ← namePattern g
  if ← take? "&" then
    let mutable ← takeWord? "mut"
    return { code := word "&" ++ (if mutable then word "mut " else .empty) ++ (← g.pattern).code }
  if ← atLeft .round then return ← roundPattern g
  if ← atLeft .square then return ← squarePattern g
  if (← at? "..") && !(← at? "...") then
    if ← at? "..=" then return ← rangeFrom g .empty
    take ".."
    if ← atRangeEnd then return { code := word ".." ++ (← rangeEnd g) }
    return { code := word ".." }
  failure

end Phrasebook.Code.Grammar
