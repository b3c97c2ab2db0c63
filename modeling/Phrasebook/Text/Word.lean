import Phrasebook.Text.Letter
import Phrasebook.Text.Case

set_option autoImplicit false

/-! # Words of a name

A name is cut into words at every character that is neither a letter nor a digit, and inside such
a run where the case tells: between a lower-case and an upper-case letter (`itemCount`), and
before the last of several upper-case letters that a lower-case one follows (`HTTPServer`). The
words are then joined in lower case with underscores, or capitalised and joined directly. -/

namespace Phrasebook.Text

/-- The case of the last cased letter of the word being read. -/
inductive LastCase where
  | uncased
  | lower
  | upper
  deriving DecidableEq

namespace LastCase

/-- The state after reading `c`. -/
def after (s : LastCase) (c : Char) : LastCase :=
  if isLowercase c then .lower else if isUppercase c then .upper else s

end LastCase

/-- The runs of characters on which `keep` holds, empty ones left out. -/
def runs (keep : Char → Bool) : List Char → List (List Char)
  | [] => []
  | c :: cs =>
      if keep c then
        match cs, runs keep cs with
        | d :: _, r :: rs => if keep d then (c :: r) :: rs else [c] :: r :: rs
        | _, rs => [c] :: rs
      else runs keep cs

/-- Cuts one run of letters and digits at its changes of case. `word` is the word being read,
last character first, and `s` the case of its last cased letter. -/
def cutCase : LastCase → List Char → List Char → List (List Char)
  | _, word, [] => if word.isEmpty then [] else [word.reverse]
  | _, word, [c] => [(c :: word).reverse]
  | s, word, c :: d :: cs =>
      if s.after c = .lower && isUppercase d then
        (c :: word).reverse :: cutCase .uncased [] (d :: cs)
      else if s = .upper && isUppercase c && isLowercase d then
        word.reverse :: cutCase .uncased [c] (d :: cs)
      else cutCase (s.after c) (c :: word) (d :: cs)

/-- The words of a name. -/
def words (name : List Char) : List (List Char) :=
  (runs isAlphanumeric name).flatMap (cutCase .uncased [])

/-- A word in lower case. A capital sigma at its end becomes the final sigma. -/
def lowerWord : List Char → List Char
  | [] => []
  | [c] => if c = 'Σ' then ['ς'] else toLowercase c
  | c :: cs => toLowercase c ++ lowerWord cs

/-- A word with its first character in upper case and the rest in lower case. -/
def capitalWord : List Char → List Char
  | [] => []
  | c :: cs => toUppercase c ++ lowerWord cs

/-- The words of a name in lower case, joined by underscores. -/
def snakeCase (name : String) : String :=
  String.ofList (List.intercalate ['_'] ((words name.toList).map lowerWord))

/-- The words of a name capitalised and joined. -/
def camelCase (name : String) : String :=
  String.ofList ((words name.toList).flatMap capitalWord)

end Phrasebook.Text
