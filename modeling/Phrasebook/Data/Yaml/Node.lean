import Phrasebook.Data.Yaml.Token

set_option autoImplicit false

/-! # Nodes of YAML

The tree that a row of tokens stands for. An alias stands for the node whose anchor it names; a
node that is not complete yet cannot be named. What aliases stand for is limited in size. -/

namespace Phrasebook.Data.Yaml

/-- A node: a scalar with its style and tag, a list, or a table. -/
inductive Node where
  | scalar (style : Style) (tag : Option Tag) (text : String)
  | list (items : List Node)
  | table (entries : List (Node × Node))

namespace Node

/-- The node of an empty place. -/
def empty : Node := .scalar .plain none ""

/-- A scalar; an empty one in quotes counts as plain if it is anchored. -/
def ofScalar (style : Style) (anchored : Bool) (tag : Option Tag) (text : String) : Node :=
  .scalar (if anchored && style = .quoted && text = "" then .plain else style) tag text

mutual

/-- The number of scalars in a node, and of ends of lists and tables. -/
def size : Node → Nat
  | .scalar _ _ _ => 1
  | .list items => 2 + sizeItems items
  | .table entries => 2 + sizeEntries entries

def sizeItems : List Node → Nat
  | [] => 0
  | n :: ns => n.size + sizeItems ns

def sizeEntries : List (Node × Node) → Nat
  | [] => 0
  | (k, v) :: es => k.size + v.size + sizeEntries es

end

end Node

/-- What is left to read, and the anchors so far: the number that a name stands for, and the nodes
that are complete by their numbers, each with its size. -/
structure Source where
  tokens : List Token
  /-- What handles of tags stand for. -/
  handles : List (String × String) := []
  names : List (String × Nat) := []
  nodes : List (Nat × Node × Nat) := []
  /-- How many aliases there were. -/
  aliases : Nat := 0
  /-- The size of all that they stood for. -/
  repeated : Nat := 0

/-- Reading from a source; `none` where a token does not fit. -/
abbrev Reader := StateT Source Option

namespace Reader

def peek : Reader (Option Token) := do return (← get).tokens.head?

def skip : Reader Unit := modify fun s => { s with tokens := s.tokens.drop 1 }

/-- Skips the given token if it is next. -/
def skipIf (t : Token) : Reader Bool := do
  if (← peek) = some t then
    skip
    return true
  return false

/-- One of the given tokens is next. -/
def isAt (ts : List Token) : Reader Bool := do
  return (← peek).any (· ∈ ts)

/-- A new anchor; its number. -/
def declare (name : String) : Reader Nat :=
  modifyGet fun s => (s.names.length, { s with names := (name, s.names.length) :: s.names })

/-- The node of an anchor is complete. -/
def complete (number : Nat) (n : Node) : Reader Unit :=
  modify fun s => { s with nodes := (number, n, n.size) :: s.nodes }

/-- How much all aliases together may stand for. -/
def maxRepeated : Nat := 1000000

/-- The node that an alias stands for. -/
def named (name : String) : Reader Node := do
  let s ← get
  let number ← s.names.lookup name
  let (n, size) ← s.nodes.lookup number
  let repeated := s.repeated + size
  if repeated > maxRepeated then failure
  set { s with aliases := s.aliases + 1, repeated }
  return n

/-- What a tag says. A handle with a name of its own has to be declared. -/
def tagOf (handle suffix : String) : Reader Tag := do
  match (← get).handles.lookup handle with
  | some meaning => return .ofName (meaning ++ suffix)
  | none =>
      if handle = "!!" then return .ofName (Tag.standard ++ suffix)
      else if handle.length ≥ 2 then failure
      else return .ofName (handle ++ suffix)

/-- The anchor before a node, if there is one: its number. -/
def anchor? : Reader (Option Nat) := do
  match ← peek with
  | some (.anchor name) =>
      skip
      return some (← declare name)
  | _ => return none

/-- The tag before a node, if there is one. -/
def tag? : Reader (Option Tag) := do
  match ← peek with
  | some (.tag handle suffix) =>
      skip
      return some (← tagOf handle suffix)
  | _ => return none

/-- Anchor and tag before a node, in either order. -/
def properties : Reader (Option Nat × Option Tag) := do
  match ← anchor? with
  | some number => return (some number, ← tag?)
  | none =>
      match ← tag? with
      | some t => return (← anchor?, some t)
      | none => return (none, none)

end Reader

open Reader

mutual

/-- A node. Blocks open only where `block` says so, and only an entry's value may be a list whose
entries are not indented. -/
def node : Nat → Bool → Bool → Reader Node
  | 0, _, _ => failure
  | fuel + 1, block, bare => do
      match ← peek with
      | some (.alias name) =>
          skip
          named name
      | _ =>
          let (anchor, tag) ← properties
          let n ← content fuel block bare anchor.isSome tag
          if let some number := anchor then complete number n
          return n

/-- A node after its anchor and tag; with one of these it may be empty. -/
def content : Nat → Bool → Bool → Bool → Option Tag → Reader Node
  | 0, _, _, _, _ => failure
  | fuel + 1, block, bare, anchored, tag => do
      let absent : Reader Node :=
        if anchored || tag.isSome then pure (.scalar .plain tag "") else failure
      match ← peek with
      | some (.scalar style text) =>
          skip
          return .ofScalar style anchored tag text
      | some .entry => if bare then return .list (← bareItems fuel) else absent
      | some .flowList =>
          skip
          return .list (← flowItems fuel true)
      | some .flowTable =>
          skip
          return .table (← flowEntries fuel true)
      | some .blockList =>
          if block then
            skip
            return .list (← blockItems fuel)
          else absent
      | some .blockTable =>
          if block then
            skip
            return .table (← blockEntries fuel)
          else absent
      | _ => absent

/-- The items of a block list, to its end. -/
def blockItems : Nat → Reader (List Node)
  | 0 => failure
  | fuel + 1 => do
      if ← skipIf .blockEnd then return []
      if !(← skipIf .entry) then failure
      let n ← if ← isAt [.entry, .blockEnd] then pure .empty else node fuel true false
      return n :: (← blockItems fuel)

/-- The items of a list that is not indented. -/
def bareItems : Nat → Reader (List Node)
  | 0 => failure
  | fuel + 1 => do
      if !(← skipIf .entry) then return []
      let n ←
        if ← isAt [.entry, .key, .value, .blockEnd] then pure .empty else node fuel true false
      return n :: (← bareItems fuel)

/-- The entries of a block table, to its end. -/
def blockEntries : Nat → Reader (List (Node × Node))
  | 0 => failure
  | fuel + 1 => do
      if ← skipIf .blockEnd then return []
      let k ←
        if ← skipIf .key then
          if ← isAt [.key, .value, .blockEnd] then pure .empty else node fuel true true
        else if ← isAt [.value] then pure .empty
        else failure
      let v ←
        if ← skipIf .value then
          if ← isAt [.key, .value, .blockEnd] then pure .empty else node fuel true true
        else pure .empty
      return (k, v) :: (← blockEntries fuel)

/-- The items of a bracketed list, to its end. A pair among them is a table of its own. -/
def flowItems : Nat → Bool → Reader (List Node)
  | 0, _ => failure
  | fuel + 1, first => do
      if ← skipIf .flowListEnd then return []
      if !first then
        if !(← skipIf .comma) then failure
      if ← skipIf .flowListEnd then return []
      let n ←
        if ← isAt [.key, .value] then return .table [← flowPair fuel] :: (← flowItems fuel false)
        else node fuel false false
      return n :: (← flowItems fuel false)

/-- A key and its value among bracketed items. -/
def flowPair : Nat → Reader (Node × Node)
  | 0 => failure
  | fuel + 1 => do
      let k ←
        if ← skipIf .key then
          if ← isAt [.value, .comma, .flowListEnd, .flowTableEnd] then pure .empty
          else node fuel false false
        else if ← isAt [.value] then pure .empty
        else node fuel false false
      let v ←
        if ← skipIf .value then
          if ← isAt [.comma, .flowListEnd, .flowTableEnd] then pure .empty
          else node fuel false false
        else pure .empty
      return (k, v)

/-- The entries of a bracketed table, to its end. -/
def flowEntries : Nat → Bool → Reader (List (Node × Node))
  | 0, _ => failure
  | fuel + 1, first => do
      if ← skipIf .flowTableEnd then return []
      if !first then
        if !(← skipIf .comma) then failure
      if ← skipIf .flowTableEnd then return []
      let e ← flowPair fuel
      return e :: (← flowEntries fuel false)

end

/-- What is left of a text starts with a node, at the end of which a token may be missing. -/
def startsNode (complete : Bool) : List Token → Bool
  | .anchor _ :: ts | .tag _ _ :: ts => complete || !ts.isEmpty
  | .alias _ :: _ | .scalar _ _ :: _ => true
  | .flowList :: _ | .flowTable :: _ | .blockList :: _ | .blockTable :: _ => true
  | _ => false

/-- A token that ends a document or stands between two. -/
def Token.isBoundary : Token → Bool
  | .directive _ | .documentStart | .documentEnd => true
  | _ => false

def Token.isDirective : Token → Bool
  | .directive _ => true
  | _ => false

/-- What is left after the end of a document starts another one, be it empty. -/
def startsDocument (complete : Bool) (ts : List Token) : Bool :=
  match ts.dropWhile (·.isDirective) with
  | [] => false
  | .documentStart :: [] => complete
  | .documentStart :: t :: ts => t.isBoundary || startsNode complete (t :: ts)
  | t :: rest => !(ts.head?.any (·.isDirective)) && startsNode complete (t :: rest)

/-- What is left after a document holds no other one. Only where the document has been ended
expressly, what makes no sense is not read. -/
def endsText (complete : Bool) : List Token → Bool
  | [] => complete
  | .documentEnd :: ts => !startsDocument complete (ts.dropWhile (· = .documentEnd))
  | _ => false

/-- The handles that the directives at the front of a text declare, and what is left. There is one
version at most, and a handle is declared once. -/
def directives : Bool → List (String × String) → List Token →
    Option (List (String × String) × List Token)
  | versioned, handles, .directive .version :: ts =>
      if versioned then none else directives true handles ts
  | versioned, handles, .directive (.handle h meaning) :: ts =>
      if handles.any (·.1 = h) then none else directives versioned ((h, meaning) :: handles) ts
  | versioned, handles, .directive .unknown :: ts => directives versioned handles ts
  | _, handles, ts => some (handles, ts)

/-- A hundred aliases or more are too many if there are more than ten for each anchor. -/
def Source.hasFewAliases (s : Source) : Bool :=
  s.aliases < 100 || s.aliases ≤ 10 * s.names.length

/-- The node of the one document that tokens are. -/
def document? (ts : List Token) (complete : Bool) : Option Node := do
  match ts.dropWhile (· = .documentEnd) with
  | [] => if complete then some .empty else none
  | t :: rest =>
      let (handles, ts) ← directives false [] (t :: rest)
      match ts with
      | .documentStart :: ts =>
          if ts.isEmpty && !complete then none
          else if ts.head?.all (·.isBoundary) then
            if endsText complete ts then some .empty else none
          else whole handles ts
      | ts => if t.isDirective then none else whole handles ts
where
  whole (handles : List (String × String)) (ts : List Token) : Option Node := do
    let (n, s) ← node (4 * ts.length + 4) true false { tokens := ts, handles }
    if s.hasFewAliases && endsText complete s.tokens then some n else none

end Phrasebook.Data.Yaml
