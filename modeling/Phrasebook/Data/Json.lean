import Phrasebook.Data.Datum
import Phrasebook.Number.Numeral

set_option autoImplicit false

/-! # JSON

Reads JSON text. A key that is repeated keeps its first place and takes the last value; lists and
tables nest at most 127 deep. Readers give the rest of the text with what they read. -/

namespace Phrasebook.Data.Json

open Number

/-- The deepest nesting of lists and tables. -/
def maxNesting : Nat := 127

def isSpace (c : Char) : Bool := c = ' ' || c = '\n' || c = '\r' || c = '\t'

def skipSpace (cs : List Char) : List Char := cs.dropWhile isSpace

/-! ## Text -/

/-- The character of a simple escape. -/
def escape? : Char → Option Char
  | '"' => some '"'
  | '\\' => some '\\'
  | '/' => some '/'
  | 'b' => some '\x08'
  | 'f' => some '\x0c'
  | 'n' => some '\n'
  | 'r' => some '\r'
  | 't' => some '\t'
  | _ => none

def isHighSurrogate (n : Nat) : Bool := 0xD800 ≤ n && n < 0xDC00

def isLowSurrogate (n : Nat) : Bool := 0xDC00 ≤ n && n < 0xE000

/-- The rest of a text after its opening quote. A character above the first plane is escaped as a
pair of surrogates, and no surrogate stands alone. -/
def textBody : List Char → Option (List Char × List Char)
  | [] => none
  | '"' :: rest => some ([], rest)
  | '\\' :: 'u' :: a :: b :: c :: d :: rest => do
      let n ← valueIn? 16 [a, b, c, d]
      if isLowSurrogate n then none
      else if isHighSurrogate n then
        match rest with
        | '\\' :: 'u' :: e :: f :: g :: h :: rest => do
            let m ← valueIn? 16 [e, f, g, h]
            if !isLowSurrogate m then none
            let (s, rest) ← textBody rest
            return (Char.ofNat (0x10000 + (n - 0xD800) * 0x400 + (m - 0xDC00)) :: s, rest)
        | _ => none
      else
        let (s, rest) ← textBody rest
        return (Char.ofNat n :: s, rest)
  | '\\' :: c :: rest => do
      let e ← escape? c
      let (s, rest) ← textBody rest
      return (e :: s, rest)
  | c :: rest => do
      if c.toNat < 0x20 || c = '\\' then none
      let (s, rest) ← textBody rest
      return (c :: s, rest)

/-! ## Numbers -/

/-- The greatest number of 64 bits. -/
def maxWord : Nat := 0xFFFFFFFFFFFFFFFF

/-- Digits taken into `n` as long as it fits 64 bits, how many were taken, and the digits left. -/
def takeDigits (n taken : Nat) : List Char → Nat × Nat × List Char
  | [] => (n, taken, [])
  | c :: cs =>
      if 10 * n + digitValue c ≤ maxWord then takeDigits (10 * n + digitValue c) (taken + 1) cs
      else (n, taken, c :: cs)

/-- The magnitude of a positive double as a ratio. -/
def ratioOf : Binary64 → Option Ratio
  | .finite _ m e => some (Binary64.magnitude m e)
  | _ => none

/-- The double for `digits * 10 ^ exponent`: the digits are rounded to a double, and the power of
ten, which is one too, multiplies or divides it. There is none if it is too large. -/
def scaled? (negative : Bool) (digits : Nat) (exponent : Int) : Option Binary64 :=
  if digits = 0 then some (.finite negative 0 Binary64.minExponent)
  else do
    let d ← ratioOf (.ofRatio false ⟨digits, 1⟩)
    if exponent ≥ 0 then
      if exponent > 308 then none
      else
        let p ← ratioOf (.ofRatio false ⟨Nat.pow 10 exponent.toNat, 1⟩)
        let x := Binary64.ofRatio negative ⟨d.num * p.num, d.den * p.den⟩
        if x = .infinite negative then none else some x
    else shrunk d (-exponent).toNat
where
  /-- Divides by powers of ten, the largest ones first. -/
  shrunk (d : Ratio) (k : Nat) : Option Binary64 := do
    let (d, k) ← if k ≤ 308 then pure (d, k)
      else do
        let p ← ratioOf (.ofRatio false ⟨Nat.pow 10 308, 1⟩)
        let d ← ratioOf (.ofRatio false ⟨d.num * p.den, d.den * p.num⟩)
        pure (d, k - 308)
    if d.num = 0 || k > 308 then some (.finite negative 0 Binary64.minExponent)
    else
      let p ← ratioOf (.ofRatio false ⟨Nat.pow 10 k, 1⟩)
      some (.ofRatio negative ⟨d.num * p.den, d.den * p.num⟩)

/-- An optional exponent. -/
def exponent : List Char → Option (Option Int × List Char)
  | c :: rest =>
      if c = 'e' || c = 'E' then
        let (negative, rest) := match rest with
          | '-' :: rest => (true, rest)
          | '+' :: rest => (false, rest)
          | rest => (false, rest)
        let (ds, rest) := spanDigits rest
        if ds.isEmpty then none
        else
          let n : Int := valueOf ds
          some (some (if negative then -n else n), rest)
      else some (none, c :: rest)
  | [] => some (none, [])

/-- A number. Without a point and an exponent it is an integer if it fits 64 bits. -/
def number (cs : List Char) : Option (Datum × List Char) := do
  let (negative, cs) := match cs with
    | '-' :: cs => (true, cs)
    | cs => (false, cs)
  let (whole, rest) := spanDigits cs
  if whole.isEmpty || (whole.head? = some '0' && whole.length > 1) then none
  let (fraction, rest) ← match rest with
    | '.' :: rest =>
        let (ds, rest) := spanDigits rest
        if ds.isEmpty then none else some (some ds, rest)
    | rest => some (none, rest)
  let (power, rest) ← exponent rest
  let (n, _, left) := takeDigits 0 0 whole
  match fraction, power, left with
  | none, none, [] =>
      if !negative then return (.integer n, rest)
      else if n = 0 || n > 0x8000000000000000 then return (.float (← scaled? true n 0), rest)
      else return (.integer (-n), rest)
  | _, _, _ =>
      let (n, places, _) := takeDigits n 0 (fraction.getD [])
      let x ← scaled? negative n (power.getD 0 + left.length - places)
      return (.float x, rest)

/-! ## Values -/

/-- What has to stand at the front, left out. -/
def expect (s : String) (cs : List Char) : Option (List Char) :=
  if s.toList.isPrefixOf cs then some (cs.drop s.length) else none

mutual

/-- A value, with `nesting` more levels allowed. -/
def value : Nat → Nat → List Char → Option (Datum × List Char)
  | 0, _, _ => none
  | fuel + 1, nesting, cs =>
      match skipSpace cs with
      | 'n' :: rest => (expect "ull" rest).map (.null, ·)
      | 't' :: rest => (expect "rue" rest).map (.boolean true, ·)
      | 'f' :: rest => (expect "alse" rest).map (.boolean false, ·)
      | '"' :: rest => (textBody rest).map fun (s, rest) => (.text (String.ofList s), rest)
      | '[' :: rest =>
          match nesting, skipSpace rest with
          | 0, _ => none
          | _, ']' :: rest => some (.list [], rest)
          | nesting + 1, rest => (items fuel nesting rest).map fun (l, rest) => (.list l, rest)
      | '{' :: rest =>
          match nesting, skipSpace rest with
          | 0, _ => none
          | _, '}' :: rest => some (.table [], rest)
          | nesting + 1, rest =>
              (members fuel nesting [] rest).map fun (l, rest) => (.table l, rest)
      | rest => number rest

/-- The values of a list up to its end. -/
def items : Nat → Nat → List Char → Option (List Datum × List Char)
  | 0, _, _ => none
  | fuel + 1, nesting, cs => do
      let (d, rest) ← value fuel nesting cs
      match skipSpace rest with
      | ']' :: rest => return ([d], rest)
      | ',' :: rest =>
          let (ds, rest) ← items fuel nesting rest
          return (d :: ds, rest)
      | _ => none

/-- The entries of a table up to its end, after those in `before`. -/
def members : Nat → Nat → List (String × Datum) → List Char →
    Option (List (String × Datum) × List Char)
  | 0, _, _, _ => none
  | fuel + 1, nesting, before, cs => do
      match skipSpace cs with
      | '"' :: rest =>
          let (key, rest) ← textBody rest
          match skipSpace rest with
          | ':' :: rest =>
              let (d, rest) ← value fuel nesting rest
              let entries := setEntry (String.ofList key) d before
              match skipSpace rest with
              | '}' :: rest => return (entries, rest)
              | ',' :: rest => members fuel nesting entries rest
              | _ => none
          | _ => none
      | _ => none

end

/-- The datum a text holds. -/
def read? (s : String) : Option Datum := do
  let cs := s.toList
  let (d, rest) ← value (2 * cs.length + 2) maxNesting cs
  if (skipSpace rest).isEmpty then some d else none

end Phrasebook.Data.Json
