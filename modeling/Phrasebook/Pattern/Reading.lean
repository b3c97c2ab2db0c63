import Phrasebook.Number.Reading
import Phrasebook.Pattern.Expression
import Phrasebook.Text.Blank
import Phrasebook.Text.Letter
import Phrasebook.Text.Property.Binary

set_option autoImplicit false

/-! # Reading regular expressions

The usual notation: literal characters and escapes, classes in brackets with their set operations,
groups with or without names, flags, alternatives, repetitions that are greedy or lazy, and
conditions on places. There is no looking around and no reference back. -/

namespace Phrasebook.Pattern

open Number Text

/-- The state of reading: what is left, whether blanks mean nothing, the number of groups and their
names. -/
structure Source where
  rest : List Char
  spaced : Bool := false
  groups : Nat := 0
  names : List String := []

/-- Reading from a source; `none` where the notation is broken. -/
abbrev Reader := StateT Source Option

namespace Reader

def peek : Reader (Option Char) := do return (← get).rest.head?

/-- The next character, which is left in place. -/
def here : Reader Char := do
  match (← get).rest with
  | [] => failure
  | c :: _ => return c

/-- Leaves out blanks and comments. -/
def dropSpaced : Nat → List Char → List Char
  | 0, cs => cs
  | fuel + 1, cs =>
      match cs.dropWhile isBlank with
      | '#' :: cs => dropSpaced fuel (cs.dropWhile (· ≠ '\n'))
      | cs => cs

/-- Leaves out what means nothing. -/
def skipSpaced : Reader Unit := do
  if (← get).spaced then
    modify fun s => { s with rest := dropSpaced (s.rest.length + 1) s.rest }

def skip : Reader Unit := modify fun s => { s with rest := s.rest.drop 1 }

/-- Skips a character and what means nothing after it. -/
def skipOn : Reader Unit := do
  skip
  skipSpaced

/-- The next character, which is skipped. -/
def next : Reader Char := do
  let c ← here
  skip
  return c

/-- Skips a text if it is next. -/
def skipIf (t : String) : Reader Bool := do
  let s ← get
  if t.toList.isPrefixOf s.rest then
    set { s with rest := s.rest.drop t.length }
    return true
  return false

/-! ## Escapes -/

/-- A character given by the number in `ds`. -/
def numbered (ds : List Char) : Reader Char := do
  if ds.isEmpty then failure
  match valueIn? 16 ds with
  | some n => if n < 0xD800 || (0xE000 ≤ n && n < 0x110000) then return Char.ofNat n else failure
  | none => failure

/-- Characters up to a closing brace, which is left in place. -/
def braced : Nat → Reader (List Char)
  | 0 => failure
  | fuel + 1 => do
      skipOn
      let c ← here
      if c = '}' then return []
      return c :: (← braced fuel)

/-- A text in braces, at whose opening brace the reader stands. -/
def inBraces : Reader (List Char) := do
  let cs ← braced ((← get).rest.length + 1)
  skip
  return cs

/-- The given number of hexadecimal digits. -/
def hexDigits : Nat → Reader (List Char)
  | 0 => return []
  | n + 1 => do
      let c ← here
      if (digitIn? 16 c).isNone then failure
      skipOn
      return c :: (← hexDigits n)

/-- A character given by `length` digits or by digits in braces, after the letter of the escape. -/
def hexadecimal (length : Nat) : Reader Literal := do
  skipSpaced
  if (← here) = '\x7b' then
    let c ← numbered (← inBraces)
    skipSpaced
    return { char := c }
  else return { char := ← numbered (← hexDigits length), isByte := length = 2 }

/-- A character that stands for itself after a backslash. -/
def isEscapable (c : Char) : Bool :=
  c.toNat < 128 && !c.isAlphanum && c ≠ '<' && c ≠ '>'

/-- Cuts a text before the first place at which a mark stands: what is before and what is after the
mark. -/
def cutAt? (mark : List Char) : List Char → Option (List Char × List Char)
  | [] => none
  | c :: cs =>
      if mark.isPrefixOf (c :: cs) then some ([], (c :: cs).drop mark.length)
      else (cutAt? mark cs).map fun (before, after) => (c :: before, after)

/-- A property, after the letter of the escape: whether it is negated once more. -/
def property : Reader (Bool × PropertyQuery) := do
  skipSpaced
  let c ← here
  if c = '\x7b' then
    let text ← inBraces
    let valued (cut : List Char × List Char) : PropertyQuery :=
      .valued (String.ofList cut.1) (String.ofList cut.2)
    match cutAt? ['!', '='] text, cutAt? [':'] text, cutAt? ['='] text with
    | some cut, _, _ => return (true, valued cut)
    | none, some cut, _ => return (false, valued cut)
    | none, none, some cut => return (false, valued cut)
    | none, none, none => return (false, .named (String.ofList text))
  else
    if c = '\\' then failure
    skip
    return (false, .named (toString c))

/-- What a name in braces after `\b` says of the place. -/
def placeOfName? : String → Option Place
  | "start" => some .wordStart
  | "end" => some .wordEnd
  | "start-half" => some .wordStartHalf
  | "end-half" => some .wordEndHalf
  | _ => none

/-- A letter of the names of places. -/
def isPlaceLetter (c : Char) : Bool := c.isAlpha || c = '-'

/-- Letters of the name of a place. -/
def placeLetters : Nat → Reader (List Char)
  | 0 => return []
  | fuel + 1 => do
      match ← peek with
      | some c =>
          if isPlaceLetter c then
            skipOn
            return c :: (← placeLetters fuel)
          else return []
      | none => return []

/-- The place that `\b` stands for. A brace that no letter follows is the start of a repetition. -/
def boundary : Reader Place := do
  let s ← get
  if s.rest.head? ≠ some '\x7b' then return .wordBoundary
  skipOn
  if isPlaceLetter (← here) then
    let name ← placeLetters (s.rest.length + 1)
    if (← next) ≠ '}' then failure
    placeOfName? (String.ofList name)
  else
    set s
    return .wordBoundary

/-- What an escape stands for. -/
inductive Escape where
  | literal (l : Literal)
  | shorthand (negated : Bool) (s : Shorthand)
  | property (negated : Bool) (q : PropertyQuery)
  | place (p : Place)

/-- An escape, after its backslash. -/
def escape : Reader Escape := do
  let c ← next
  let char (c : Char) : Reader Escape := return .literal { char := c }
  match c with
  | 'x' => return .literal (← hexadecimal 2)
  | 'u' => return .literal (← hexadecimal 4)
  | 'U' => return .literal (← hexadecimal 8)
  | 'p' => do
      let (negated, q) ← property
      return .property negated q
  | 'P' => do
      let (negated, q) ← property
      return .property (!negated) q
  | 'd' => return .shorthand false .digit
  | 's' => return .shorthand false .space
  | 'w' => return .shorthand false .word
  | 'D' => return .shorthand true .digit
  | 'S' => return .shorthand true .space
  | 'W' => return .shorthand true .word
  | 'a' => char '\x07'
  | 'f' => char '\x0c'
  | 't' => char '\t'
  | 'n' => char '\n'
  | 'r' => char '\r'
  | 'v' => char '\x0b'
  | 'A' => return .place .textStart
  | 'z' => return .place .textEnd
  | 'b' => return .place (← boundary)
  | '<' => return .place .wordStart
  | '>' => return .place .wordEnd
  | 'B' => return .place .notWordBoundary
  | c => if isEscapable c then char c else failure

/-! ## Classes in brackets -/

/-- The class that stands between colons in brackets. -/
def asciiClass? : String → Option RangeSet
  | "alnum" => some (.ofRanges [(0x30, 0x39), (0x41, 0x5A), (0x61, 0x7A)])
  | "alpha" => some (.ofRanges [(0x41, 0x5A), (0x61, 0x7A)])
  | "ascii" => some (.range 0x00 0x7F)
  | "blank" => some (.ofRanges [(0x09, 0x09), (0x20, 0x20)])
  | "cntrl" => some (.ofRanges [(0x00, 0x1F), (0x7F, 0x7F)])
  | "digit" => some (.range 0x30 0x39)
  | "graph" => some (.range 0x21 0x7E)
  | "lower" => some (.range 0x61 0x7A)
  | "print" => some (.range 0x20 0x7E)
  | "punct" => some (.ofRanges [(0x21, 0x2F), (0x3A, 0x40), (0x5B, 0x60), (0x7B, 0x7E)])
  | "space" => some (.ofRanges [(0x09, 0x0D), (0x20, 0x20)])
  | "upper" => some (.range 0x41 0x5A)
  | "word" => some (.ofRanges [(0x30, 0x39), (0x41, 0x5A), (0x5F, 0x5F), (0x61, 0x7A)])
  | "xdigit" => some (.ofRanges [(0x30, 0x39), (0x41, 0x46), (0x61, 0x66)])
  | _ => none

/-- A class written `[:name:]`, if one is next. -/
def namedClass? : Reader (Option ClassSet) := do
  let s ← get
  match s.rest with
  | '[' :: ':' :: rest =>
      let (negated, rest) := match rest with
        | '^' :: rest => (true, rest)
        | rest => (false, rest)
      let (name, rest) := rest.span (· ≠ ':')
      match rest, asciiClass? (String.ofList name) with
      | ':' :: ']' :: rest, some c =>
          set { s with rest }
          return some (.ascii negated c)
      | _, _ => return none
  | _ => return none

/-- A character or an escape in brackets. -/
def classAtom : Reader Escape := do
  let c ← next
  if c = '\\' then escape else return .literal { char := c }

/-- What comes after the next character. Where blanks mean nothing they are passed over, and so is
the mark of a comment. -/
def second? (s : Source) : Option Char :=
  let after := s.rest.drop 1
  if !s.spaced then after.head?
  else
    match after.dropWhile isBlank with
    | '#' :: cs => ((cs.dropWhile isBlank).head?).or after.head?
    | c :: _ => some c
    | [] => after.head?

/-- A character, a class or a range in brackets. -/
def classRange : Reader ClassSet := do
  let first ← classAtom
  skipSpaced
  let c ← here
  let isRange := c = '-' && !(second? (← get)).any fun c => c = ']' || c = '-'
  if isRange then
    skipOn
    match first, ← classAtom with
    | .literal a, .literal b => if a.char ≤ b.char then return .range a b else failure
    | _, _ => failure
  else match first with
    | .literal a => return .literal a
    | .shorthand negated s => return .shorthand negated s
    | .property negated q => return .property negated q
    | .place _ => failure

/-- Hyphens at the start of a class. -/
def leadingHyphens : Nat → Reader (List ClassSet)
  | 0 => return []
  | fuel + 1 => do
      if (← here) = '-' then
        skipOn
        return .literal { char := '-' } :: (← leadingHyphens fuel)
      else return []

mutual

/-- The items of a class up to its end or to an operator, after those read so far, the last of
which is the first. -/
def classItems : Nat → List ClassSet → Reader ClassSet
  | 0, _ => failure
  | fuel + 1, sofar => do
      skipSpaced
      match (← get).rest with
      | [] => failure
      | ']' :: _ | '&' :: '&' :: _ | '-' :: '-' :: _ | '~' :: '~' :: _ =>
          return .ofItems sofar.reverse
      | '[' :: _ =>
          match ← namedClass? with
          | some k => classItems fuel (k :: sofar)
          | none =>
              let (negated, c) ← bracketed fuel
              classItems fuel (.bracketed negated c :: sofar)
      | _ => classItems fuel ((← classRange) :: sofar)

/-- Operators and their operands up to the end of a class, which is skipped. -/
def classOperations : Nat → ClassSet → Reader ClassSet
  | 0, _ => failure
  | fuel + 1, left => do
      if ← skipIf "]" then return left
      let operation ←
        if ← skipIf "&&" then pure SetOperation.inter
        else if ← skipIf "--" then pure SetOperation.diff
        else if ← skipIf "~~" then pure SetOperation.symmDiff
        else failure
      let right ← classItems fuel []
      classOperations fuel (.operation operation left right)

/-- A class, at whose opening bracket the reader stands: whether it is negated, and its items. A
closing bracket in front is an item, and so are hyphens. -/
def bracketed : Nat → Reader (Bool × ClassSet)
  | 0 => failure
  | fuel + 1 => do
      skipOn
      let negated := (← here) = '^'
      if negated then skipOn
      let hyphens ← leadingHyphens ((← get).rest.length + 1)
      let first ←
        if hyphens.isEmpty && (← here) = ']' then
          skipOn
          pure [ClassSet.literal { char := ']' }]
        else pure hyphens.reverse
      return (negated, ← classOperations fuel (← classItems fuel first))

end

/-! ## Groups -/

/-- Flags up to a colon or the closing parenthesis: whether they are for the group only, and how
they are changed. -/
def flagItems (rest : List Char) (value : Bool) (seen : FlagChanges) (last : Option Char) :
    Option (Bool × FlagChanges × List Char) :=
  match rest with
  | [] => none
  | ':' :: rest => if last = some '-' then none else some (true, seen, rest)
  | ')' :: rest => if last.isNone || last = some '-' then none else some (false, seen, rest)
  | '-' :: rest => if value then flagItems rest false seen (some '-') else none
  | c :: rest =>
      match Flag.ofLetter? c with
      | some flag =>
          if seen.any (·.1 = flag) then none
          else flagItems rest value (seen ++ [(flag, value)]) (some c)
      | none => none

/-- A letter, of any script, or a character that goes with letters. -/
def isAlphabetic (c : Char) : Bool := isAlphanumeric c && BinaryProperty.alphabetic.contains c

/-- The name of a group, up to its closing bracket. -/
def groupName : Reader Unit := do
  let s ← get
  let (name, rest) := s.rest.span (· ≠ '>')
  if rest.isEmpty then failure
  let isLater (c : Char) : Bool := c ∈ ['_', '.', '[', ']'] || isAlphanumeric c
  match name with
  | [] => failure
  | c :: cs =>
      let name := String.ofList name
      if !(c = '_' || isAlphabetic c) || !cs.all isLater || name ∈ s.names then failure
      set { s with rest := rest.drop 1, names := name :: s.names }

/-- How a group opens. -/
inductive Opening where
  /-- A group that is kept, with its number. -/
  | kept (number : Nat)
  | plain (changes : FlagChanges)
  /-- Flags for what follows, and no group. -/
  | flags (changes : FlagChanges)

/-- Reads what follows an opening parenthesis. -/
def opening : Reader Opening := do
  skipSpaced
  let number : Reader Nat := modifyGet fun s => (s.groups + 1, { s with groups := s.groups + 1 })
  let s ← get
  if ["?=", "?!", "?<=", "?<!"].any fun t => t.toList.isPrefixOf s.rest then failure
  if (← skipIf "?P<") || (← skipIf "?<") then
    let n ← number
    groupName
    return .kept n
  if ← skipIf "?" then
    let s ← get
    let (grouped, changes, rest) ← flagItems s.rest true [] none
    set { s with rest }
    return if grouped then .plain changes else .flags changes
  return .kept (← number)

/-- Sets whether blanks mean nothing, if flags say so. -/
def setSpaced (changes : FlagChanges) : Reader Unit :=
  match changes.lookup .spaced with
  | some spaced => modify fun s => { s with spaced }
  | none => return ()

/-! ## Expressions -/

/-- Decimal digits, among which there may be what means nothing. -/
def digits : Nat → Reader (List Char)
  | 0 => return []
  | fuel + 1 => do
      match ← peek with
      | some c =>
          if c.isDigit then
            skipOn
            return c :: (← digits fuel)
          else return []
      | none => return []

/-- Blanks are left out. -/
def skipBlanks : Reader Unit := modify fun s => { s with rest := s.rest.dropWhile isBlank }

/-- A decimal number, with blanks around it. -/
def decimalNumber : Reader Nat := do
  skipBlanks
  let ds ← digits ((← get).rest.length + 1)
  skipBlanks
  skipSpaced
  match readNat? ds with
  | some n => if n < 0x100000000 then return n else failure
  | none => failure

/-- The bounds of a repetition, at whose opening brace the reader stands. -/
def bounds : Reader (Nat × Option Nat) := do
  skipOn
  let least ← decimalNumber
  let most ←
    if (← here) = ',' then
      skipOn
      if (← here) = '}' then pure none else pure (some (← decimalNumber))
    else pure (some least)
  if (← here) ≠ '}' || most.any (· < least) then failure
  skipOn
  return (least, most)

/-- The bounds of a repetition, if one is next. -/
def repetition? : Reader (Option (Nat × Option Nat)) := do
  if ← skipIf "*" then return some (0, none)
  if ← skipIf "+" then return some (1, none)
  if ← skipIf "?" then return some (0, some 1)
  if (← peek) = some '\x7b' then return some (← bounds)
  return none

/-- A single character, class or condition. -/
def primitive (fuel : Nat) : Reader Expression := do
  if (← here) = '[' then
    let (negated, c) ← bracketed fuel
    return .bracketed negated c
  let c ← next
  match c with
  | '.' => return .dot
  | '^' => return .place .lineStart
  | '$' => return .place .lineEnd
  | '\\' =>
      match ← escape with
      | .literal l => return .literal l
      | .shorthand negated s => return .shorthand negated s
      | .property negated q => return .property negated q
      | .place p => return .place p
  | c => return .literal { char := c }

mutual

/-- Alternatives, up to a closing parenthesis or the end. -/
def alternatives : Nat → Reader (List Expression)
  | 0 => failure
  | fuel + 1 => do
      let e ← items fuel []
      if ← skipIf "|" then return e :: (← alternatives fuel) else return [e]

/-- The items of an alternative; those read so far are given, the last first. -/
def items : Nat → List Expression → Reader Expression
  | 0, _ => failure
  | fuel + 1, sofar => do
      skipSpaced
      match ← peek with
      | none | some '|' | some ')' => return .ofItems sofar.reverse
      | some '(' =>
          skip
          let outer := (← get).spaced
          match ← opening with
          | .flags changes =>
              setSpaced changes
              items fuel (.flags changes :: sofar)
          | .plain changes =>
              setSpaced changes
              let e ← closed fuel outer
              items fuel (.group changes e :: sofar)
          | .kept n =>
              let e ← closed fuel outer
              items fuel (.kept n e :: sofar)
      | some _ =>
          match ← repetition? with
          | none =>
              let e ← primitive fuel
              items fuel (e :: sofar)
          | some (least, most) =>
              let lazy ← skipIf "?"
              match sofar with
              | [] | .flags _ :: _ => failure
              | e :: sofar => items fuel (.times e least most (!lazy) :: sofar)

/-- The rest of a group; after it blanks mean what they meant outside. -/
def closed : Nat → Bool → Reader Expression
  | 0, _ => failure
  | fuel + 1, outer => do
      let es ← alternatives fuel
      if !(← skipIf ")") then failure
      modify fun s => { s with spaced := outer }
      return .ofAlternatives es

end

end Reader

namespace Expression

/-- How deep an expression may be nested. -/
def maxDepth : Nat := 250

/-- Reads a regular expression. -/
def read? (text : String) : Option Expression := do
  let cs := text.toList
  let (es, s) ← Reader.alternatives (4 * cs.length + 4) { rest := cs }
  let e := ofAlternatives es
  if s.rest.isEmpty && e.depth ≤ maxDepth then some e else none

end Expression

end Phrasebook.Pattern
