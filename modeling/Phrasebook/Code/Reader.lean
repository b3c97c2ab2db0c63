import Phrasebook.Code.Fragment

set_option autoImplicit false

/-! # Reading from a list of tokens

A reader takes tokens from the front of a list, or fails. What is inside brackets ends where the
bracket closes. -/

namespace Phrasebook.Code

/-- Reads from a list of tokens. -/
abbrev Reader := StateT (List Token) Option

namespace Reader

/-- The marks `cs`, without a blank between them, are at the front. -/
def marksAt : List Char → List Token → Bool
  | [], _ => true
  | [c], .mark d _ :: _ => c = d
  | c :: cs, .mark d true :: ts => c = d && marksAt cs ts
  | _, _ => false

/-- The operator `o` is next. -/
def at? (o : String) : Reader Bool := do return marksAt o.toList (← get)

/-- The word `w` is next. -/
def atWord (w : String) : Reader Bool := do return (← get).head? == some (.word w)

/-- One of the words is next. -/
def atAnyWord (ws : List String) : Reader Bool := do
  match (← get).head? with
  | some (.word w) => return ws.contains w
  | _ => return false

/-- A name is next. -/
def atName : Reader Bool := do
  match (← get).head? with
  | some (.word w) => return isName w
  | _ => return false

def atLifetime : Reader Bool := do
  match (← get).head? with
  | some (.lifetime _) => return true
  | _ => return false

/-- A bracket opens next. -/
def atLeft (b : Bracket) : Reader Bool := do return (← get).head? == some (.left b)

/-- Nothing is left before the closing bracket. -/
def atEnd : Reader Bool := do
  match (← get).head? with
  | none | some (.right _) => return true
  | _ => return false

def drop (n : Nat) : Reader Unit := modify (·.drop n)

/-- What `p` tells of the tokens after the first `n`. -/
def later (n : Nat) (p : Reader Bool) : Reader Bool := do
  match p.run ((← get).drop n) with
  | some (found, _) => return found
  | none => return false

/-- Takes the operator `o` if it is next. -/
def take? (o : String) : Reader Bool := do
  let found ← at? o
  if found then drop o.length
  return found

/-- Takes the operator `o`, which has to be next. -/
def take (o : String) : Reader Unit := do
  if !(← take? o) then failure

/-- Takes the word `w` if it is next. -/
def takeWord? (w : String) : Reader Bool := do
  let found ← atWord w
  if found then drop 1
  return found

def takeWord (w : String) : Reader Unit := do
  if !(← takeWord? w) then failure

/-- A lifetime, if one is next. -/
def lifetime? : Reader (Option Fragment) := do
  match ← get with
  | .lifetime l :: rest => set rest; return some (.ofToken (.lifetime l))
  | _ => return none

/-- A name. -/
def name : Reader String := do
  match ← get with
  | .word w :: rest => if isName w then set rest; return w else failure
  | _ => failure

/-- Any word, reserved or not. -/
def anyWord : Reader String := do
  match ← get with
  | .word w :: rest => set rest; return w
  | _ => failure

/-- Reads all that is in brackets, which have to be next. -/
def inside {α : Type} (b : Bracket) (p : Reader α) : Reader α := do
  if !(← atLeft b) then failure
  drop 1
  let a ← p
  if (← get).head? != some (.right b) then failure
  drop 1
  return a

/-- The tokens up to the bracket that closes, with `depth` more open; it is left. -/
def balanced : Nat → List Token → List Token × List Token
  | _, [] => ([], [])
  | depth, t :: ts =>
      let more (depth : Nat) := let (us, rest) := balanced depth ts; (t :: us, rest)
      match t, depth with
      | .right _, 0 => ([], t :: ts)
      | .right _, d + 1 => more d
      | .left _, d => more (d + 1)
      | _, d => more d

/-- Reads all that is in brackets as a list of tokens. -/
def anything : Reader (List Token) := modifyGet (balanced 0)

/-- Brackets of any kind, and the tokens in them. -/
def group : Reader (Bracket × List Token) := do
  match (← get).head? with
  | some (.left b) => return (b, ← inside b anything)
  | _ => failure

/-- Repeats `p` until it gives nothing, at most `fuel` times. -/
def repeated {α : Type} (p : Reader (Option α)) : Nat → Reader (List α)
  | 0 => return []
  | fuel + 1 => do
      match ← p with
      | some a => return a :: (← repeated p fuel)
      | none => return []

/-- Repeats `p`, which takes a token each time, until it gives nothing. -/
def many {α : Type} (p : Reader (Option α)) : Reader (List α) := do
  repeated p (← get).length

/-- Items with commas between them until `stop`, and whether a comma ends them. -/
def separated {α : Type} (stop : Reader Bool) (item : Reader α) : Reader (List α × Bool) := do
  let items ← many do
    if ← stop then return none
    let a ← item
    if ← stop then return some (a, false)
    take ","
    return some (a, true)
  return (items.map (·.1), (items.getLast?.map (·.2)).getD false)

/-- Items in brackets with commas between them. -/
def list {α : Type} (b : Bracket) (item : Reader α) : Reader (List α × Bool) :=
  inside b (separated atEnd item)

end Reader

end Phrasebook.Code
