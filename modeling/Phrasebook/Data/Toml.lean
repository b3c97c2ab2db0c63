import Phrasebook.Data.Datum
import Phrasebook.Number.Reading

set_option autoImplicit false

/-! # TOML

Reads TOML text. Tables keep the order of their definition. A table is defined once, by its header
or by dotted keys; a header may still define a table that so far was only on the way to another
one, which then moves to the end of the table it stands in. Readers give the rest of the text with
what they read. -/

namespace Phrasebook.Data.Toml

open Number

/-! ## Spacing -/

def isSpace (c : Char) : Bool := c = ' ' || c = '\t'

def skipSpace (cs : List Char) : List Char := cs.dropWhile isSpace

/-- A character that may stand in comments and texts. -/
def isPlain (c : Char) : Bool := c = '\t' || (0x20 ≤ c.toNat && c ≠ '\x7f')

/-- The rest after a line end. -/
def newline? : List Char → Option (List Char)
  | '\n' :: cs => some cs
  | '\r' :: '\n' :: cs => some cs
  | _ => none

/-- The rest after a comment, if there is one; what is in it has to be plain. -/
def skipComment : List Char → Option (List Char)
  | '#' :: cs =>
      let rest := cs.dropWhile isPlain
      match rest with
      | [] => some []
      | '\n' :: _ => some rest
      | '\r' :: '\n' :: _ => some rest
      | _ => none
  | cs => some cs

/-- The rest of a line that holds nothing more. -/
def endOfLine (cs : List Char) : Option (List Char) := do
  match ← skipComment (skipSpace cs) with
  | [] => some []
  | cs => newline? cs

/-- Blanks, line ends and comments left out, at most `fuel` of them. -/
def skipLines : Nat → List Char → Option (List Char)
  | 0, cs => some cs
  | fuel + 1, cs =>
      let cs := skipSpace cs
      match newline? cs with
      | some cs => skipLines fuel cs
      | none =>
          match cs with
          | '#' :: _ => do skipLines fuel (← skipComment cs)
          | cs => some cs

/-! ## Text -/

/-- The character of a simple escape. -/
def escape? : Char → Option Char
  | 'b' => some '\x08'
  | 't' => some '\t'
  | 'n' => some '\n'
  | 'f' => some '\x0c'
  | 'r' => some '\r'
  | 'e' => some '\x1b'
  | '"' => some '"'
  | '\\' => some '\\'
  | _ => none

/-- The character with a number, if there is one. -/
def scalar? (n : Nat) : Option Char :=
  if n < 0xD800 || (0xE000 ≤ n && n < 0x110000) then some (Char.ofNat n) else none

/-- A character written as an escape after a backslash, and the rest. -/
def escaped : List Char → Option (Char × List Char)
  | 'x' :: a :: b :: rest => do return (← scalar? (← valueIn? 16 [a, b]), rest)
  | 'u' :: a :: b :: c :: d :: rest => do
      return (← scalar? (← valueIn? 16 [a, b, c, d]), rest)
  | 'U' :: a :: b :: c :: d :: e :: f :: g :: h :: rest => do
      return (← scalar? (← valueIn? 16 [a, b, c, d, e, f, g, h]), rest)
  | c :: rest => do return (← escape? c, rest)
  | [] => none

/-- A text on one line after its opening quote, in double quotes. -/
def basicBody : Nat → List Char → Option (List Char × List Char)
  | 0, _ => none
  | _, [] => none
  | _, '"' :: rest => some ([], rest)
  | fuel + 1, '\\' :: rest => do
      let (c, rest) ← escaped rest
      let (s, rest) ← basicBody fuel rest
      return (c :: s, rest)
  | fuel + 1, c :: rest => do
      if !isPlain c then none
      let (s, rest) ← basicBody fuel rest
      return (c :: s, rest)

/-- A text on one line after its opening quote, in single quotes. -/
def literalBody : List Char → Option (List Char × List Char)
  | [] => none
  | '\'' :: rest => some ([], rest)
  | c :: rest => do
      if !isPlain c then none
      let (s, rest) ← literalBody rest
      return (c :: s, rest)

/-- The line end right after the quotes that open a text of several lines is not part of it. -/
def skipFirstNewline (cs : List Char) : List Char := (newline? cs).getD cs

/-- The end of a text of several lines, given what follows its three closing quotes: up to two
more quotes belong to the text. -/
def closing (quote : Char) : List Char → List Char × List Char
  | a :: b :: rest =>
      if a = quote && b = quote then ([a, b], rest)
      else if a = quote then ([a], b :: rest)
      else ([], a :: b :: rest)
  | [a] => if a = quote then ([a], []) else ([], [a])
  | [] => ([], [])

/-- Blanks and line ends left out, at most `fuel` of them. -/
def skipBlankLines : Nat → List Char → List Char
  | 0, cs => cs
  | fuel + 1, cs =>
      match newline? (skipSpace cs) with
      | some cs => skipBlankLines fuel cs
      | none => skipSpace cs

/-- The rest after a backslash that ends a line: the blanks and empty lines after it are left
out. -/
def continued? (cs : List Char) : Option (List Char) := do
  let rest ← newline? (skipSpace cs)
  return skipBlankLines (rest.length + 1) rest

/-- A text of several lines after its opening quotes, in double quotes. -/
def multilineBody : Nat → List Char → Option (List Char × List Char)
  | 0, _ => none
  | _, [] => none
  | _, '"' :: '"' :: '"' :: rest => some (closing '"' rest)
  | fuel + 1, '\\' :: rest =>
      match continued? rest with
      | some rest => multilineBody fuel rest
      | none => do
          let (c, rest) ← escaped rest
          let (s, rest) ← multilineBody fuel rest
          return (c :: s, rest)
  | fuel + 1, c :: rest => do
      if !isPlain c && (newline? (c :: rest)).isNone then none
      let (s, rest) ← multilineBody fuel rest
      return (c :: s, rest)

/-- A text of several lines after its opening quotes, in single quotes. -/
def multilineLiteralBody : Nat → List Char → Option (List Char × List Char)
  | 0, _ => none
  | _, [] => none
  | _, '\'' :: '\'' :: '\'' :: rest => some (closing '\'' rest)
  | fuel + 1, c :: rest => do
      if !isPlain c && (newline? (c :: rest)).isNone then none
      let (s, rest) ← multilineLiteralBody fuel rest
      return (c :: s, rest)

/-- A quoted text, if one starts here. -/
def text (cs : List Char) : Option (String × List Char) :=
  let fuel := cs.length + 1
  let body := match cs with
    | '"' :: '"' :: '"' :: rest => multilineBody fuel (skipFirstNewline rest)
    | '\'' :: '\'' :: '\'' :: rest => multilineLiteralBody fuel (skipFirstNewline rest)
    | '"' :: rest => basicBody fuel rest
    | '\'' :: rest => literalBody rest
    | _ => none
  body.map fun (s, rest) => (String.ofList s, rest)

/-! ## Keys -/

def isKeyChar (c : Char) : Bool := c.isAlphanum || c = '_' || c = '-'

/-- One part of a key: bare, or quoted on one line. -/
def keyPart (cs : List Char) : Option (String × List Char) :=
  match cs with
  | '"' :: rest => (basicBody (cs.length + 1) rest).map fun (s, rest) => (String.ofList s, rest)
  | '\'' :: rest => (literalBody rest).map fun (s, rest) => (String.ofList s, rest)
  | cs =>
      let (k, rest) := cs.span isKeyChar
      if k.isEmpty then none else some (String.ofList k, rest)

/-- The greatest number of parts before the last one of a key. -/
def maxKeyDepth : Nat := 79

/-- Parts of a key, separated by points. -/
def keyParts : Nat → List Char → Option (List String × List Char)
  | 0, _ => none
  | fuel + 1, cs => do
      let (k, rest) ← keyPart (skipSpace cs)
      match skipSpace rest with
      | '.' :: rest =>
          let (ks, rest) ← keyParts fuel rest
          return (k :: ks, rest)
      | rest => return ([k], rest)

/-- A key. -/
def key (cs : List Char) : Option (List String × List Char) := do
  let (ks, rest) ← keyParts (cs.length + 1) cs
  if ks.length ≤ maxKeyDepth + 1 then some (ks, rest) else none

/-! ## Numbers and dates -/

/-- Digits without the underscores between them: one may stand only between two digits. -/
def digitRow (isDigit : Char → Bool) : List Char → Option (List Char)
  | [] => none
  | [c] => if isDigit c then some [c] else none
  | c :: '_' :: rest => if isDigit c then (digitRow isDigit rest).map (c :: ·) else none
  | c :: rest => if isDigit c then (digitRow isDigit rest).map (c :: ·) else none

/-- A decimal row of digits that has no needless zero in front. -/
def wholeRow (cs : List Char) : Option (List Char) := do
  let ds ← digitRow Char.isDigit cs
  if ds.head? = some '0' && ds.length > 1 then none else some ds

/-- An integer in a base, after the mark of the base. -/
def radixInteger (base : Nat) (cs : List Char) : Option Datum := do
  let ds ← digitRow (fun c => (digitIn? base c).isSome) cs
  let n ← valueIn? base ds
  if Datum.fits64 n then some (.integer n) else none

/-- The text as an integer. -/
def integer? (cs : List Char) : Option Datum :=
  match cs with
  | '0' :: 'x' :: rest => radixInteger 16 rest
  | '0' :: 'o' :: rest => radixInteger 8 rest
  | '0' :: 'b' :: rest => radixInteger 2 rest
  | cs => do
      let (negative, digits) := readSign cs
      let n : Int := valueOf (← wholeRow digits)
      let n := if negative then -n else n
      if Datum.fits64 n then some (.integer n) else none

/-- The text as a float. An infinity that is named and what is no number count as nothing; a number
that is too large is none. -/
def float? (cs : List Char) : Option Datum := do
  let (negative, rest) := readSign cs
  if rest = "inf".toList || rest = "nan".toList then return .null
  let (mantissa, power) := rest.span fun c => c ≠ 'e' && c ≠ 'E'
  let (whole, fraction) := mantissa.span (· ≠ '.')
  let ds ← wholeRow whole
  let fs ← match fraction with
    | [] => some []
    | _ :: fs => digitRow Char.isDigit fs
  let k ← match power with
    | [] => some 0
    | _ :: power => do
        let (negative, power) := readSign power
        let n : Int := valueOf (← digitRow Char.isDigit power)
        some (if negative then -n else n)
  if fraction.isEmpty && power.isEmpty then none
  let all := ds ++ fs
  match Binary64.ofDecimal negative (valueOf all) all.length (k - fs.length) with
  | .finite n m e => some (.float (.finite n m e))
  | _ => none

/-- Two decimal digits. -/
def two? : List Char → Option (Nat × List Char)
  | a :: b :: rest => if a.isDigit && b.isDigit then some (valueOf [a, b], rest) else none
  | _ => none

def daysIn (year month : Nat) : Nat :=
  match month with
  | 2 => if year % 4 = 0 && (year % 100 ≠ 0 || year % 400 = 0) then 29 else 28
  | 4 | 6 | 9 | 11 => 30
  | _ => 31

/-- A date at the front: its text and the rest. -/
def date? (cs : List Char) : Option (List Char × List Char) := do
  let (a, rest) ← two? cs
  let (b, rest) ← two? rest
  let rest ← match rest with | '-' :: rest => some rest | _ => none
  let (month, rest) ← two? rest
  let rest ← match rest with | '-' :: rest => some rest | _ => none
  let (day, rest) ← two? rest
  if month = 0 || month > 12 || day = 0 || day > daysIn (100 * a + b) month then none
  return (cs.take 10, rest)

/-- Seconds and their fraction at the front: their text and the rest. -/
def seconds? (cs : List Char) : Option (List Char × List Char) := do
  let (second, rest) ← two? cs
  if second > 60 then none
  match rest with
  | '.' :: rest =>
      let (ds, rest) := spanDigits rest
      if ds.isEmpty then none
      let kept := ((ds.take 9).reverse.dropWhile (· = '0')).reverse
      return (cs.take 2 ++ (if kept.isEmpty then [] else '.' :: kept), rest)
  | rest => return (cs.take 2, rest)

/-- A time at the front: its text and the rest. Without seconds it is on the minute. -/
def time? (cs : List Char) : Option (List Char × List Char) := do
  let (hour, rest) ← two? cs
  let rest ← match rest with | ':' :: rest => some rest | _ => none
  let (minute, rest) ← two? rest
  if hour > 23 || minute > 59 then none
  let (seconds, rest) ← match rest with
    | ':' :: rest => seconds? rest
    | rest => some (['0', '0'], rest)
  return (cs.take 5 ++ ':' :: seconds, rest)

/-- The offset of a time at the front, if any. -/
def offset? : List Char → Option (List Char × List Char)
  | 'Z' :: rest => some (['Z'], rest)
  | 'z' :: rest => some (['Z'], rest)
  | c :: rest =>
      if c = '+' || c = '-' then do
        let (hour, tail) ← two? rest
        let tail ← match tail with | ':' :: tail => some tail | _ => none
        let (minute, tail) ← two? tail
        if hour > 23 || minute > 59 then none
        let sign := if hour = 0 && minute = 0 then '+' else c
        return (sign :: rest.take 5, tail)
      else some ([], c :: rest)
  | [] => some ([], [])

/-- The text as a date, a time, or both. -/
def moment? (cs : List Char) : Option Datum := do
  let whole ← match date? cs with
    | some (date, []) => some date
    | some (date, c :: rest) =>
        if c = 'T' || c = 't' || c = ' ' then do
          let (time, rest) ← time? rest
          let (offset, rest) ← offset? rest
          if rest.isEmpty then some (date ++ 'T' :: time ++ offset) else none
        else none
    | none => do
        let (time, rest) ← time? cs
        if rest.isEmpty then some time else none
  return .table [("$__toml_private_datetime", .text (String.ofList whole))]

/-- What ends a value that is not quoted. -/
def endsScalar (c : Char) : Bool := isSpace c || c ∈ ['\n', '\r', ',', ']', '}', '#']

/-- A value that is not quoted. A blank may stand between a date and a time. -/
def scalar (cs : List Char) : Option (Datum × List Char) := do
  let (word, rest) := cs.span (!endsScalar ·)
  let (word, rest) := match date? word, rest with
    | some (_, []), ' ' :: c :: more =>
        if c.isDigit then
          let (time, rest) := (c :: more).span (!endsScalar ·)
          (word ++ ' ' :: time, rest)
        else (word, rest)
    | _, _ => (word, rest)
  let d ← match String.ofList word with
    | "true" => some (.boolean true)
    | "false" => some (.boolean false)
    | _ => (integer? word <|> float? word <|> moment? word)
  return (d, rest)

/-! ## Tables -/

/-- A table under construction: what is settled, tables that can still grow, and lists of tables
whose last one can. A table is `implicit` as long as only longer paths have led through it, and
`dotted` if it comes from a dotted key. -/
inductive Node where
  | settled (d : Datum)
  | table (implicit dotted : Bool) (entries : List (String × Node))
  | tables (elements : List Node)

namespace Node

mutual

/-- The datum a node stands for. -/
def datum : Node → Datum
  | .settled d => d
  | .table _ _ entries => .table (data entries)
  | .tables elements => .list (datums elements)

def data : List (String × Node) → List (String × Datum)
  | [] => []
  | (k, n) :: rest => (k, n.datum) :: data rest

def datums : List Node → List Datum
  | [] => []
  | n :: rest => n.datum :: datums rest

end

/-- Changes the table a path of headers leads to, making those that are missing. -/
def within (change : Node → Option Node) : List String → Node → Option Node
  | [], n => onTable change n
  | k :: ks, n => onTable (fun t =>
      match t with
      | .table implicit dotted entries => do
          let child ← within change ks ((entries.lookup k).getD (.table true false []))
          return .table implicit dotted (setEntry k child entries)
      | _ => none) n
where
  /-- Applies `f` to a table, or to the last one of a list of tables. -/
  onTable (f : Node → Option Node) : Node → Option Node
    | .table i d es => f (.table i d es)
    | .tables elements => do
        let last ← elements.getLast?
        return .tables (elements.dropLast ++ [← f last])
    | .settled _ => none

/-- Sets the value of a dotted key; `top` tells that no part of the key has been used up. -/
def assign (top : Bool) (value : Datum) : List String → Node → Option Node
  | [k], .table implicit dotted entries =>
      if dotted = top || (entries.lookup k).isSome then none
      else some (.table implicit dotted (setEntry k (.settled value) entries))
  | k :: ks, .table implicit dotted entries => do
      let child ← match entries.lookup k with
        | none => some (.table true true [])
        | some (.table true d es) => some (.table true d es)
        | some _ => none
      let child ← assign false value ks child
      return .table implicit dotted (setEntry k child entries)
  | _, _ => none

/-- Defines the table of a header. -/
def define (k : String) : Node → Option Node
  | .table implicit dotted entries => do
      let child ← match entries.lookup k with
        | none => some (.table false false [])
        | some (.table true false es) => some (.table false false es)
        | some _ => none
      return .table implicit dotted (entries.filter (·.1 ≠ k) ++ [(k, child)])
  | _ => none

/-- Adds a table to the list of tables of a header. -/
def extend (k : String) : Node → Option Node
  | .table implicit dotted entries => do
      let child ← match entries.lookup k with
        | none => some (.tables [.table false false []])
        | some (.tables es) => some (.tables (es ++ [.table false false []]))
        | some _ => none
      return .table implicit dotted (setEntry k child entries)
  | _ => none

end Node

/-! ## Values -/

/-- The deepest nesting of lists and inline tables. -/
def maxNesting : Nat := 80

mutual

/-- A value, with `nesting` more levels allowed. -/
def value : Nat → Nat → List Char → Option (Datum × List Char)
  | 0, _, _ => none
  | fuel + 1, nesting, cs =>
      match cs with
      | '"' :: _ => (text cs).map fun (s, rest) => (.text s, rest)
      | '\'' :: _ => (text cs).map fun (s, rest) => (.text s, rest)
      | '[' :: rest =>
          match nesting with
          | 0 => none
          | n + 1 => (items fuel n rest).map fun (l, rest) => (.list l, rest)
      | '{' :: rest =>
          match nesting with
          | 0 => none
          | n + 1 =>
              (members fuel n (.table false false []) rest).map fun (t, rest) => (t.datum, rest)
      | cs => scalar cs

/-- The values of a list up to its end. -/
def items : Nat → Nat → List Char → Option (List Datum × List Char)
  | 0, _, _ => none
  | fuel + 1, nesting, cs => do
      match ← skipLines (cs.length + 1) cs with
      | ']' :: rest => return ([], rest)
      | cs =>
          let (d, rest) ← value fuel nesting cs
          match ← skipLines (rest.length + 1) rest with
          | ']' :: rest => return ([d], rest)
          | ',' :: rest =>
              let (ds, rest) ← items fuel nesting rest
              return (d :: ds, rest)
          | _ => none

/-- The entries of an inline table up to its end. Lines may end between keys, values and marks. -/
def members : Nat → Nat → Node → List Char → Option (Node × List Char)
  | 0, _, _, _ => none
  | fuel + 1, nesting, t, cs => do
      match ← skipLines (cs.length + 1) cs with
      | '}' :: rest => return (t, rest)
      | cs =>
          let (k, rest) ← key cs
          match ← skipLines (rest.length + 1) rest with
          | '=' :: rest =>
              let (d, rest) ← value fuel nesting (← skipLines (rest.length + 1) rest)
              let t ← t.assign true d k
              match ← skipLines (rest.length + 1) rest with
              | '}' :: rest => return (t, rest)
              | ',' :: rest => members fuel nesting t rest
              | _ => none
          | _ => none

end

/-! ## Documents -/

/-- A document so far: its tables, and the path of the last header. -/
structure Document where
  root : Node := .table false false []
  header : List String := []

/-- A header: its path after the brackets that open it, and the rest of the text. -/
def header (double : Bool) (cs : List Char) : Option (List String × List Char) := do
  let (path, rest) ← key cs
  match double, rest with
  | true, ']' :: ']' :: rest => return (path, ← endOfLine rest)
  | false, ']' :: rest => return (path, ← endOfLine rest)
  | _, _ => none

/-- One line, or several that hold one value. -/
def expression (doc : Document) (cs : List Char) : Option (Document × List Char) := do
  match skipSpace cs with
  | '[' :: '[' :: rest =>
      let (path, rest) ← header true rest
      let root ← doc.root.within (Node.extend (path.getLast?.getD "")) path.dropLast
      return ({ root, header := path }, rest)
  | '[' :: rest =>
      let (path, rest) ← header false rest
      let root ← doc.root.within (Node.define (path.getLast?.getD "")) path.dropLast
      return ({ root, header := path }, rest)
  | cs =>
      let (k, rest) ← key cs
      match rest with
      | '=' :: rest =>
          let rest := skipSpace rest
          let (d, rest) ← value (2 * rest.length + 2) maxNesting rest
          let root ← doc.root.within (Node.assign true d k) doc.header
          return ({ doc with root }, ← endOfLine rest)
      | _ => none

/-- The lines of a document, at most `fuel` of them. -/
def expressions : Nat → Document → List Char → Option Document
  | 0, _, _ => none
  | fuel + 1, doc, cs => do
      match ← skipLines (cs.length + 1) cs with
      | [] => return doc
      | cs =>
          let (doc, rest) ← expression doc cs
          expressions fuel doc rest

/-- The datum a text holds. A mark of byte order may stand in front. -/
def read? (s : String) : Option Datum := do
  let cs := s.toList
  let cs := if cs.head? = some '\ufeff' then cs.drop 1 else cs
  let doc ← expressions (cs.length + 1) {} cs
  return doc.root.datum

end Phrasebook.Data.Toml
