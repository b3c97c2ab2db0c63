import Phrasebook.Number.Numeral
import Phrasebook.Message.Basic

set_option autoImplicit false

/-! # Format directives

A directive says how an argument is laid out: `[[fill]align][+][#][0][width][.precision][kind]`.
`Spec.parse` reads one, `Spec.text` writes its normal form. -/

namespace Phrasebook.Format

/-- The side on which a value stands in its field. -/
inductive Align where
  | left
  | center
  | right
  deriving DecidableEq

namespace Align

def ofChar? : Char → Option Align
  | '<' => some .left
  | '^' => some .center
  | '>' => some .right
  | _ => none

def toChar : Align → Char
  | .left => '<'
  | .center => '^'
  | .right => '>'

end Align

/-- The form in which a number is written. -/
inductive Kind where
  | display
  | lowerHex
  | upperHex
  | octal
  | binary
  | lowerExp
  | upperExp
  deriving DecidableEq

namespace Kind

def ofText? : List Char → Option Kind
  | [] => some .display
  | ['x'] => some .lowerHex
  | ['X'] => some .upperHex
  | ['o'] => some .octal
  | ['b'] => some .binary
  | ['e'] => some .lowerExp
  | ['E'] => some .upperExp
  | _ => none

def text : Kind → List Char
  | .display => []
  | .lowerHex => ['x']
  | .upperHex => ['X']
  | .octal => ['o']
  | .binary => ['b']
  | .lowerExp => ['e']
  | .upperExp => ['E']

/-- What the alternate form writes in front of the digits. -/
def radixMark? : Kind → Option String
  | .lowerHex => some "0x"
  | .upperHex => some "0x"
  | .octal => some "0o"
  | .binary => some "0b"
  | _ => none

end Kind

/-- A directive. -/
structure Spec where
  fill : Option Char := none
  align : Option Align := none
  plus : Bool := false
  alternate : Bool := false
  zero : Bool := false
  width : Option Nat := none
  precision : Option Nat := none
  kind : Kind := .display
  deriving DecidableEq

/-- Why a directive is refused. -/
inductive Fault where
  | braceFill
  | minusFlag
  | noPrecision
  | runtimeParameter
  | unknownKind (rest : String)
  | integerPrecision
  | floatKind (kind : Kind)
  | plainKind (type : ArgType) (kind : Kind)
  | plainFlags (type : ArgType)
  deriving DecidableEq

namespace Fault

def message : Fault → String
  | .braceFill => "braces cannot be used as fill"
  | .minusFlag => "the '-' flag is not supported"
  | .noPrecision => "precision must be a literal number"
  | .runtimeParameter => "runtime width and precision are not supported"
  | .unknownKind rest => s!"unsupported type '{rest}'"
  | .integerPrecision => "integers do not take a precision"
  | .floatKind kind => s!"floats cannot use '{String.ofList kind.text}'"
  | .plainKind type kind => s!"{type.name} values cannot use '{String.ofList kind.text}'"
  | .plainFlags type => s!"{type.name} values do not take '+' or '0'"

end Fault

namespace Spec

/-- An optional fill and alignment at the front: a fill only counts before an alignment. -/
def readAlign : List Char → Except Fault (Option Char × Option Align × List Char)
  | [] => .ok (none, none, [])
  | [c] => .ok (match Align.ofChar? c with
      | some a => (none, some a, [])
      | none => (none, none, [c]))
  | c :: d :: cs =>
      match Align.ofChar? d with
      | some a => if c = '{' || c = '}' then .error .braceFill else .ok (some c, some a, cs)
      | none => .ok (match Align.ofChar? c with
          | some a => (none, some a, d :: cs)
          | none => (none, none, c :: d :: cs))

/-- A flag that is set by the character `c` at the front. -/
def readFlag (c : Char) : List Char → Bool × List Char
  | [] => (false, [])
  | d :: cs => if d = c then (true, cs) else (false, d :: cs)

/-- A number at the front. No digits, and a number that does not fit 64 bits, count as absent. -/
def readNumber (cs : List Char) : Option Nat × List Char :=
  let (ds, rest) := Number.spanDigits cs
  let n := Number.valueOf ds
  (if ds.isEmpty || 0x10000000000000000 ≤ n then none else some n, rest)

/-- An optional point and precision at the front. -/
def readPrecision : List Char → Except Fault (Option Nat × List Char)
  | '.' :: cs =>
      match readNumber cs with
      | (some n, rest) => .ok (some n, rest)
      | (none, _) => .error .noPrecision
  | cs => .ok (none, cs)

/-- The kind that ends a directive. -/
def readKind (cs : List Char) : Except Fault Kind :=
  if cs.any fun c => c = '$' || c = '*' then .error .runtimeParameter
  else match Kind.ofText? cs with
    | some k => .ok k
    | none => .error (.unknownKind (String.ofList cs))

/-- Reads a directive. -/
def parse (raw : List Char) : Except Fault Spec := do
  let (fill, align, cs) ← readAlign raw
  let (plus, cs) := readFlag '+' cs
  if !plus && cs.head? = some '-' then throw .minusFlag
  let (alternate, cs) := readFlag '#' cs
  let (zero, cs) := readFlag '0' cs
  let (width, cs) := readNumber cs
  let (precision, cs) ← readPrecision cs
  let kind ← readKind cs
  return { fill, align, plus, alternate, zero, width, precision, kind }

/-- The normal form of a directive. -/
def text (s : Spec) : List Char :=
  (match s.align with
    | some a => s.fill.toList ++ [a.toChar]
    | none => []) ++
  (if s.plus then ['+'] else []) ++
  (if s.alternate then ['#'] else []) ++
  (if s.zero then ['0'] else []) ++
  (match s.width with
    | some n => Number.decimal n
    | none => []) ++
  (match s.precision with
    | some n => '.' :: Number.decimal n
    | none => []) ++
  s.kind.text

/-- A placeholder of the generated code that applies the directive to `argument`. -/
def pattern (s : Spec) (argument : String) : String :=
  String.ofList ('{' :: (argument.toList ++ ':' :: (s.text ++ ['}'])))

/-- A directive has to suit the type of its argument. -/
def check (s : Spec) : ArgType → Except Fault Unit
  | .integer => if s.precision.isSome then .error .integerPrecision else .ok ()
  | .float =>
      if s.kind = .display || s.kind = .lowerExp || s.kind = .upperExp then .ok ()
      else .error (.floatKind s.kind)
  | type =>
      if s.kind ≠ .display then .error (.plainKind type s.kind)
      else if s.plus || s.zero then .error (.plainFlags type)
      else .ok ()

end Spec

end Phrasebook.Format
