import Phrasebook.Text.Blank
import Phrasebook.Number.Numeral

set_option autoImplicit false

/-! # Template text

A template is literal text with placeholders in braces: `{name}` inserts an argument, `{name:s}`
declares it with a one-letter specifier as well, `{name:s:directive}` adds a format directive, and
`{@name}` inserts a variable. Doubled braces are literal ones. -/

namespace Phrasebook.Definition

open Text

/-- An element of a template. -/
inductive Token where
  | literal (text : String)
  | argument (name : String) (spec : Option Char) (directive : Option String)
  | var (name : String)
  deriving DecidableEq

/-- What is wrong with a template. Offsets count UTF-8 bytes. -/
inductive TemplateError where
  | unclosed (offset : Nat)
  | unmatchedClose (offset : Nat)
  | emptyPlaceholder (offset : Nat)
  | specifier (raw : String)
  deriving DecidableEq

namespace TemplateError

def message : TemplateError → String
  | .unclosed n => s!"unclosed '\x7b' at offset {n}"
  | .unmatchedClose n => s!"unmatched '\x7d' at offset {n}"
  | .emptyPlaceholder n => s!"empty placeholder at offset {n}"
  | .specifier raw => s!"specifier '{raw}' must be a single character"

end TemplateError

/-- Splits a text at the first `c`, which is dropped. -/
def splitAtChar (c : Char) (cs : List Char) : List Char × Option (List Char) :=
  match cs.dropWhile (· ≠ c) with
  | [] => (cs, none)
  | _ :: rest => (cs.takeWhile (· ≠ c), some rest)

/-- A specifier: one character, blanks aside. -/
def readSpecifier (raw : List Char) : Except TemplateError Char :=
  match trim raw with
  | [c] => .ok c
  | _ => .error (.specifier (String.ofList raw))

/-- Reads what stands between the braces of a placeholder that starts at `offset`. The directive
keeps its blanks, since a blank can be its fill. -/
def placeholder (body : List Char) (offset : Nat) : Except TemplateError Token :=
  match body with
  | '@' :: rest =>
      let name := trim rest
      if name.isEmpty then .error (.emptyPlaceholder offset) else .ok (.var (String.ofList name))
  | _ => do
      let (name, rest) := splitAtChar ':' body
      let name := trim name
      if name.isEmpty then throw (.emptyPlaceholder offset)
      match rest with
      | none => return .argument (String.ofList name) none none
      | some rest =>
          let (spec, directive) := splitAtChar ':' rest
          let spec ← readSpecifier spec
          let directive := match directive with
            | none | some [] => none
            | some cs => some (String.ofList cs)
          return .argument (String.ofList name) (some spec) directive

/-- Bytes of a text in UTF-8. -/
def byteCount (cs : List Char) : Nat := cs.foldr (fun c n => c.utf8Size + n) 0

/-- A literal token, unless its text is empty. `text` is in reverse. -/
def literalToken (text : List Char) : List Token :=
  if text.isEmpty then [] else [.literal (String.ofList text.reverse)]

theorem length_splitAtChar_lt {c : Char} {cs body rest : List Char}
    (h : splitAtChar c cs = (body, some rest)) : rest.length < cs.length := by
  unfold splitAtChar at h
  split at h
  · simp at h
  · rename_i d r heq
    have := (List.dropWhile_suffix (fun x => decide (x ≠ c)) (l := cs)).length_le
    obtain ⟨-, rfl⟩ : _ ∧ r = rest := by simpa using h
    rw [heq, List.length_cons] at this
    omega

/-- Reads a template from `offset` on, with the literal text read so far, in reverse. -/
def tokensFrom (offset : Nat) (text : List Char) (cs : List Char) :
    Except TemplateError (List Token) :=
  match cs with
  | [] => .ok (literalToken text)
  | '{' :: '{' :: rest => tokensFrom (offset + 2) ('{' :: text) rest
  | '}' :: '}' :: rest => tokensFrom (offset + 2) ('}' :: text) rest
  | '}' :: _ => .error (.unmatchedClose offset)
  | '{' :: rest =>
      match h : splitAtChar '}' rest with
      | (_, none) => .error (.unclosed offset)
      | (body, some rest') => do
          have := length_splitAtChar_lt h
          let token ← placeholder body offset
          let tokens ← tokensFrom (offset + byteCount body + 2) [] rest'
          return literalToken text ++ token :: tokens
  | c :: rest => tokensFrom (offset + c.utf8Size) (c :: text) rest
termination_by cs.length
decreasing_by all_goals (simp only [List.length_cons]; omega)

/-- Reads a template. -/
def tokens (template : String) : Except TemplateError (List Token) :=
  tokensFrom 0 [] template.toList

end Phrasebook.Definition
