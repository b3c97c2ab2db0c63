import Phrasebook.Text.Identifier

set_option autoImplicit false

/-! # Literals of Rust code

Where a literal at the front of a text ends: quoted texts, byte and C texts, also raw ones,
characters and numbers, each with a suffix if there is one. The functions give what is left after
the literal; nothing means that there is no literal. -/

namespace Phrasebook.Code.Literal

/-- The rest after the characters of a name that may follow a literal. -/
def afterSuffix : List Char → List Char
  | [] => []
  | c :: cs => if Text.isIdentifierStart c then cs.dropWhile Text.isIdentifierContinue else c :: cs

/-! ## Escapes -/

def isHex (c : Char) : Bool :=
  c.isDigit || ('a' ≤ c && c ≤ 'f') || ('A' ≤ c && c ≤ 'F')

def hexValue (c : Char) : Nat :=
  if c.isDigit then c.toNat - 0x30 else if c ≤ 'F' then c.toNat - 0x37 else c.toNat - 0x57

/-- The number of a code point and the rest, after the bracket that opens it: one to six
hexadecimal digits, and underscores after the first. -/
def codePoint (count value : Nat) : List Char → Option (Nat × List Char)
  | '\x7d' :: cs => if count = 0 then none else some (value, cs)
  | '_' :: cs => if count = 0 then none else codePoint count value cs
  | c :: cs =>
      if isHex c && count < 6 then codePoint (count + 1) (value * 16 + hexValue c) cs else none
  | [] => none

/-- A quoted text continues after a backslash at the end of a line with the first character that
is not a blank. -/
def continued : List Char → Option (List Char)
  | [] => none
  | '\r' :: '\n' :: cs => continued cs
  | '\r' :: _ => none
  | c :: cs => if c = ' ' || c = '\t' || c = '\n' then continued cs else some (c :: cs)

/-- What may stand in a kind of quoted text. -/
structure Content where
  /-- The two digits after `\x`. -/
  hex : Char → Char → Bool
  /-- The number after `\u`. -/
  point : Nat → Bool
  /-- The characters after a backslash. -/
  escapes : List Char
  /-- The other characters. -/
  plain : Char → Bool

namespace Content

def characters : Content where
  hex a b := '0' ≤ a && a ≤ '7' && isHex b
  point n := n.isValidChar
  escapes := ['n', 'r', 't', '\\', '0', '\'', '"']
  plain _ := true

def bytes : Content where
  hex a b := isHex a && isHex b
  point _ := false
  escapes := ['n', 'r', 't', '\\', '0', '\'', '"']
  plain c := c.toNat < 0x80

/-- Text that a zero ends, which may not hold one. -/
def zeroEnded : Content where
  hex a b := isHex a && isHex b && (a, b) != ('0', '0')
  point n := n.isValidChar && n != 0
  escapes := ['n', 'r', 't', '\\', '\'', '"']
  plain c := c.toNat != 0

/-- The rest after an escape, given what follows its backslash. -/
def afterEscape (k : Content) : List Char → Option (List Char)
  | 'x' :: a :: b :: cs => if k.hex a b then some cs else none
  | 'u' :: '\x7b' :: cs => do
      let (n, cs) ← codePoint 0 0 cs
      if k.point n then some cs else none
  | c :: cs => if k.escapes.contains c then some cs else none
  | [] => none

/-- The rest after the quote that ends a text, and after its suffix, in at most `fuel` steps. -/
def afterQuoted (k : Content) : Nat → List Char → Option (List Char)
  | 0, _ => none
  | fuel + 1, cs =>
      match cs with
      | [] => none
      | '"' :: cs => some (afterSuffix cs)
      | '\r' :: '\n' :: cs => k.afterQuoted fuel cs
      | '\r' :: _ => none
      | '\\' :: '\n' :: cs | '\\' :: '\r' :: '\n' :: cs =>
          (continued cs).bind (k.afterQuoted fuel)
      | '\\' :: cs => (k.afterEscape cs).bind (k.afterQuoted fuel)
      | c :: cs => if k.plain c then k.afterQuoted fuel cs else none

/-- The rest after a raw text that ends with a quote and `hashes` many `#`. -/
def afterRaw (k : Content) (hashes : Nat) : List Char → Option (List Char)
  | [] => none
  | '"' :: cs =>
      if (List.replicate hashes '#').isPrefixOf cs then some (afterSuffix (cs.drop hashes))
      else k.afterRaw hashes cs
  | '\r' :: '\n' :: cs => k.afterRaw hashes cs
  | '\r' :: _ => none
  | c :: cs => if k.plain c then k.afterRaw hashes cs else none

/-- The rest after a raw text, which starts with at most 255 times `#` and a quote. -/
def afterHashes (k : Content) (cs : List Char) : Option (List Char) :=
  let hashes := (cs.takeWhile (· == '#')).length
  match cs.drop hashes with
  | '"' :: cs => if hashes ≤ 255 then k.afterRaw hashes cs else none
  | _ => none

/-- The rest after one character and the apostrophe that closes it. -/
def afterCharacter (k : Content) (cs : List Char) : Option (List Char) :=
  let rest := match cs with
    | '\\' :: cs => k.afterEscape cs
    | c :: cs => if k.plain c then some cs else none
    | [] => none
  match rest with
  | some ('\'' :: cs) => some (afterSuffix cs)
  | _ => none

end Content

/-! ## Numbers -/

/-- The rest after a suffix, or nothing if a character of a name follows. -/
def afterNumber (cs : List Char) : Option (List Char) :=
  let rest := afterSuffix cs
  if rest.head?.any Text.isIdentifierContinue then none else some rest

/-- Digits and underscores after the `e` of a number: the rest, unless no digit is there. -/
def afterExponent (cs : List Char) : Option (List Char) :=
  let early := cs.takeWhile (· == '_')
  let cs := cs.drop early.length
  let cs := match cs with
    | '+' :: cs | '-' :: cs => cs
    | cs => cs
  let digits := cs.takeWhile fun c => c.isDigit || c == '_'
  if digits.any Char.isDigit then some (cs.drop digits.length) else none

/-- The rest after a number with a point or an exponent. A point that another one or a name
follows is not part of a number. -/
def afterFloat (cs : List Char) : Option (List Char) :=
  let isPart := fun c : Char => c.isDigit || c == '_'
  if !cs.head?.any Char.isDigit then none
  else match cs.dropWhile isPart with
    | '.' :: cs =>
        if cs.head?.any fun c => c == '.' || Text.isIdentifierStart c then none
        else match cs.dropWhile isPart with
          | 'e' :: cs | 'E' :: cs => afterNumber ((afterExponent cs).getD ('e' :: cs))
          | cs => afterNumber cs
    | 'e' :: cs | 'E' :: cs => (afterExponent cs).bind afterNumber
    | _ => none

/-- The rest after the digits of a base. -/
def afterDigits (base : Nat) (cs : List Char) : Option (List Char) :=
  let isPart := fun c : Char => c == '_' || c.isDigit || isHex c && hexValue c < base
  let digits := cs.takeWhile isPart
  if digits.any fun c => c.isDigit && hexValue c ≥ base then none
  else if base = 10 && digits.head? == some '_' then none
  else if digits.all (· == '_') then none
  else afterNumber (cs.drop digits.length)

/-- The rest after a whole number. -/
def afterInteger : List Char → Option (List Char)
  | '0' :: 'x' :: cs => afterDigits 16 cs
  | '0' :: 'o' :: cs => afterDigits 8 cs
  | '0' :: 'b' :: cs => afterDigits 2 cs
  | cs => afterDigits 10 cs

/-- The rest after a literal at the front. -/
def after (cs : List Char) : Option (List Char) :=
  let quoted (k : Content) (cs : List Char) := k.afterQuoted (cs.length + 1) cs
  match cs with
  | '"' :: cs => quoted .characters cs
  | 'r' :: cs => Content.characters.afterHashes cs
  | 'b' :: '"' :: cs => quoted .bytes cs
  | 'b' :: 'r' :: cs => Content.bytes.afterHashes cs
  | 'b' :: '\'' :: cs => Content.bytes.afterCharacter cs
  | 'c' :: '"' :: cs => quoted .zeroEnded cs
  | 'c' :: 'r' :: cs => Content.zeroEnded.afterHashes cs
  | '\'' :: cs => Content.characters.afterCharacter cs
  | cs => (afterFloat cs).or (afterInteger cs)

end Phrasebook.Code.Literal
