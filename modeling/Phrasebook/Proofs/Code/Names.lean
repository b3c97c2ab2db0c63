import Mathlib.Data.List.TakeDrop
import Phrasebook.Code.Emission
import Phrasebook.Proofs.Results
import Phrasebook.Proofs.Text.Identifier

set_option autoImplicit false

/-! # Names in generated code

Every name that validation accepts is one word to a reader of code (`readName?_of_isIdentifier`), so
that it is written as it is (`identifier_of_isIdentifier`). The names of parameters are such
names, none is the name of the buffer, and none starts with an underscore, which is left to those
that are not used (`ident_eq_of_codeName_eq`). -/

namespace Phrasebook

open Text (isIdentifierStart isIdentifierContinue isIdentifier)

namespace Code

/-! ## Characters that are not in words -/

/-- What brackets, quoted texts and marks are written with. -/
def notInWords : List Char :=
  '(' :: ')' :: '[' :: ']' :: '\x7b' :: '\x7d' :: '"' :: Token.marks

theorem not_mem_notInWords {c : Char} (h : isIdentifierContinue c) : c ∉ notInWords := by
  -- With `∀` and `∈` the evaluation may go through all characters instead of the list.
  have hcheck : (notInWords.all fun d => !isIdentifierContinue d) := by decide
  intro hmem
  have hnot := List.all_eq_true.1 hcheck c hmem
  rw [h] at hnot
  cases hnot

theorem toNat_lt_of_le {c d : Char} (h : c ≤ d) (hd : d.toNat < 128) : c.toNat < 128 :=
  Nat.lt_of_le_of_lt (UInt32.le_iff_toNat_le.1 h) hd

/-- A word does not start like a number. -/
theorem not_digit_of_isIdentifierStart {c : Char} (h : isIdentifierStart c) :
    c.isDigit = false ∧ (Literal.isHex c && decide (Literal.hexValue c < 10)) = false := by
  by_cases hascii : c.toNat < 128
  · have hcheck : ∀ n < 128, isIdentifierStart (Char.ofNat n) →
        (Char.ofNat n).isDigit = false ∧ (Literal.isHex (Char.ofNat n) &&
          decide (Literal.hexValue (Char.ofNat n) < 10)) = false := by decide
    exact Text.of_ascii (P := fun c => isIdentifierStart c → c.isDigit = false ∧
      (Literal.isHex c && decide (Literal.hexValue c < 10)) = false) hcheck hascii h
  · have hdigit : c.isDigit = false := by
      by_contra hdigit
      simp only [Bool.not_eq_false, Char.isDigit, Bool.and_eq_true, decide_eq_true_eq] at hdigit
      exact hascii (toNat_lt_of_le hdigit.2 (by decide))
    have hhex : Literal.isHex c = false := by
      by_contra hhex
      simp only [Bool.not_eq_false, Literal.isHex, hdigit, Bool.false_or, Bool.or_eq_true,
        Bool.and_eq_true, decide_eq_true_eq] at hhex
      rcases hhex with hhex | hhex
      · exact hascii (toNat_lt_of_le hhex.2 (by decide))
      · exact hascii (toNat_lt_of_le hhex.2 (by decide))
    simp [hdigit, hhex]

/-! ## Reading a word -/

section Word

variable {c : Char} {cs : List Char}

theorem afterHashes_eq_none (k : Literal.Content) (h : ∀ d ∈ cs, d ∉ notInWords) :
    k.afterHashes cs = none := by
  cases cs with
  | nil => rfl
  | cons d cs =>
      have hd := h d List.mem_cons_self
      have hhash : (d == '#') = false := by
        rw [beq_eq_false_iff_ne]
        rintro rfl
        exact hd (by decide)
      simp only [Literal.Content.afterHashes, List.takeWhile_cons, hhash, Bool.false_eq_true,
        if_false, List.length_nil, List.drop_zero]
      split
      · next heq =>
          cases heq
          exact absurd (by decide) hd
      · rfl

theorem afterDigits_eq_none (hc : isIdentifierStart c) :
    Literal.afterDigits 10 (c :: cs) = none := by
  obtain ⟨hdigit, hhex⟩ := not_digit_of_isIdentifierStart hc
  unfold Literal.afterDigits
  by_cases hunderscore : c = '_'
  · subst hunderscore
    simp
  · have hpart : (c == '_' || c.isDigit ||
        Literal.isHex c && decide (Literal.hexValue c < 10)) = false := by
      simp [hdigit, hhex, hunderscore]
    simp [hpart]

theorem literal_after_eq_none (hc : isIdentifierStart c) (h : ∀ d ∈ c :: cs, d ∉ notInWords) :
    Literal.after (c :: cs) = none := by
  have hdigit := (not_digit_of_isIdentifierStart hc).1
  have hnumber : (Literal.afterFloat (c :: cs)).or (Literal.afterInteger (c :: cs)) = none := by
    have hinteger : Literal.afterInteger (c :: cs) = Literal.afterDigits 10 (c :: cs) := by
      unfold Literal.afterInteger
      split <;> first | rfl | (next heq => cases heq; cases hdigit)
    rw [hinteger, afterDigits_eq_none hc]
    simp [Literal.afterFloat, hdigit]
  have hrest : ∀ {d ds}, c :: cs = d :: ds → ∀ e ∈ ds, e ∉ notInWords := by
    intro d ds heq e he
    exact h e (heq ▸ List.mem_cons_of_mem d he)
  unfold Literal.after
  dsimp only
  split
  · next heq => exact absurd (by decide) (h '"' (heq ▸ List.mem_cons_self))
  · next heq => exact afterHashes_eq_none _ (hrest heq)
  · next heq => exact absurd (by decide) (hrest heq '"' List.mem_cons_self)
  · next heq => exact afterHashes_eq_none _ fun e he => hrest heq e (List.mem_cons_of_mem _ he)
  · next heq => exact absurd (by decide) (hrest heq '\'' List.mem_cons_self)
  · next heq => exact absurd (by decide) (hrest heq '"' List.mem_cons_self)
  · next heq => exact afterHashes_eq_none _ fun e he => hrest heq e (List.mem_cons_of_mem _ he)
  · next heq => exact absurd (by decide) (h '\'' (heq ▸ List.mem_cons_self))
  · exact hnumber

theorem anyWord?_eq_some (hc : isIdentifierStart c) (hcs : ∀ d ∈ cs, isIdentifierContinue d) :
    Token.anyWord? (c :: cs) = some (String.ofList (c :: cs), []) := by
  have hplain : Token.plainWord? (c :: cs) = some (String.ofList (c :: cs), []) := by
    have hspan : cs.span isIdentifierContinue = (cs, []) := by
      rw [List.span_eq_takeWhile_dropWhile, List.takeWhile_eq_self_iff.2 hcs,
        List.dropWhile_eq_nil_iff.2 hcs]
    simp only [Token.plainWord?, hc, if_true, hspan]
  unfold Token.anyWord?
  split
  · next heq =>
      cases heq
      exact absurd (by decide) (not_mem_notInWords (hcs '#' List.mem_cons_self))
  · exact hplain

theorem atMark_eq_false (h : c ∉ notInWords) : Token.atMark (c :: cs) = false := by
  unfold Token.atMark
  split
  · next heq =>
      cases heq
      exact absurd (by decide) h
  · next heq =>
      cases heq
      exact absurd (by decide) h
  · next heq =>
      cases heq
      rw [List.contains_eq_mem, decide_eq_false_iff_not]
      exact fun hmem => h (by simp [notInWords, hmem])
  · rfl

/-- No literal that is left unfinished starts here: each would have to be opened. -/
theorem literalStarts_eq_false (h : ∀ d ∈ c :: cs, d ∉ notInWords) :
    (Token.literalStarts.any fun s => s.toList.isPrefixOf (c :: cs)) = false := by
  have hcheck : (Token.literalStarts.all fun s => s.toList.any notInWords.contains) := by decide
  rw [List.any_eq_false]
  intro s hs hp
  obtain ⟨d, hd, hdmem⟩ := List.any_eq_true.1 (List.all_eq_true.1 hcheck s hs)
  exact h d ((List.isPrefixOf_iff_prefix.1 hp).subset hd) (List.contains_iff_mem.1 hdmem)

/-- A word is the next token, whole. -/
theorem next?_eq_some (hc : isIdentifierStart c) (hcs : ∀ d ∈ cs, isIdentifierContinue d) :
    Token.next? (c :: cs) = some (.word (String.ofList (c :: cs)), []) := by
  have hall : ∀ d ∈ c :: cs, d ∉ notInWords := by
    intro d hd
    rcases List.mem_cons.1 hd with rfl | hd
    · exact not_mem_notInWords (Text.isIdentifierContinue_of_isIdentifierStart hc)
    · exact not_mem_notInWords (hcs d hd)
  have hfirst := hall c List.mem_cons_self
  have hne : ∀ d ∈ notInWords, c ≠ d := fun d hd heq => hfirst (heq ▸ hd)
  have hfault : Token.faultMark.toList.isPrefixOf (c :: cs) = false := by
    have hmark : Token.faultMark.toList = '(' :: (Token.faultMark.toList.drop 1) := by decide
    rw [hmark, List.isPrefixOf_cons_cons]
    simp [(hne '(' (by decide)).symm]
  have hbracket : Token.bracket? c = none := by
    unfold Token.bracket?
    split <;> first | rfl | exact absurd rfl (hne _ (by decide))
  -- All that is tried before a word has failed.
  unfold Token.next?
  rw [hfault]
  simp only [Bool.false_eq_true, if_false, List.head?_cons, Option.bind_some, hbracket,
    literal_after_eq_none hc hall]
  split
  · next heq =>
      cases heq
      exact absurd rfl (hne '\'' (by decide))
  · next heq =>
      cases heq
      simp only [atMark_eq_false hfirst, literalStarts_eq_false hall, Bool.false_eq_true, if_false,
        anyWord?_eq_some hc hcs, Option.map_some]
  · next heq => cases heq

end Word

theorem tokens?_of_isIdentifier {name : String} (h : isIdentifier name) :
    Token.tokens? name = some [.word name] := by
  obtain ⟨c, cs, hname, hc, hcs⟩ :=
    Text.isWordShaped_eq_true (Text.isWordShaped_of_isIdentifier h)
  obtain ⟨hblank, hleft, hright, horder⟩ := Text.not_blank_of_isIdentifierStart hc
  have hslash : c ≠ '/' := by
    rintro rfl
    cases hc
  have hcomment : Token.afterComment? (c :: cs) = none := by
    unfold Token.afterComment?
    split <;> first | rfl | (next heq => exact absurd (List.cons.inj heq).1 hslash)
  have hdocumentation : Token.documentation? (c :: cs) = none := by
    unfold Token.documentation?
    dsimp only
    split <;> first | rfl | (next heq => exact absurd (List.cons.inj heq).1 hslash)
  have hword : String.ofList (c :: cs) = name := by rw [← hname, String.ofList_toList]
  simp only [Token.tokens?, hname, List.head?_cons, Option.some_beq_some,
    beq_eq_false_iff_ne.2 horder, Bool.false_eq_true, if_false, List.length_cons]
  rw [Token.tokensFrom]
  simp only [Token.isSpace, hblank, hleft, hright, decide_false, Bool.or_false,
    Bool.false_eq_true, if_false, hcomment, hdocumentation, next?_eq_some hc hcs, hword]
  rfl

/-- An identifier is read as the one word it is. -/
theorem readName?_of_isIdentifier {name : String} (h : isIdentifier name) :
    readName? name = some name := by
  unfold readName? isName
  rw [tokens?_of_isIdentifier h]
  simp [h]

theorem identifier_of_isIdentifier {name : String} (h : isIdentifier name) :
    identifier name = .ok name := by
  rw [identifier, readName?_of_isIdentifier h]

end Code

/-! ## Names that validation accepts -/

theorem checkedName_eq_ok {raw name n : String} (h : checkedName raw name = .ok n) :
    n = name ∧ isIdentifier n := by
  unfold checkedName at h
  split at h
  · next hname =>
      cases h
      exact ⟨rfl, hname⟩
  · cases h

theorem isIdentifier_of_methodName {raw n : String} (h : methodName raw = .ok n) :
    isIdentifier n :=
  (checkedName_eq_ok h).2

theorem isIdentifier_of_auxiliaryName {message raw n : String}
    (h : auxiliaryName message raw = .ok n) : isIdentifier n := by
  obtain ⟨_, -, h⟩ := bind_eq_ok.1 h
  exact (checkedName_eq_ok h).2

theorem isIdentifier_of_moduleName {raw n : String} (h : moduleName raw = .ok n) :
    isIdentifier n :=
  (checkedName_eq_ok h).2

theorem typeName_eq_ok {raw n : String} (h : typeName raw = .ok n) :
    n = Text.camelCase raw ++ traitName ∧ isIdentifier n := by
  unfold typeName at h
  dsimp only at h
  split at h
  · cases h
  · exact checkedName_eq_ok h

theorem isIdentifier_of_typeName {raw n : String} (h : typeName raw = .ok n) :
    isIdentifier n :=
  (typeName_eq_ok h).2

/-- A name for a parameter: an identifier that is not the name of the buffer and does not start
with an underscore. -/
structure IsParameterName (n : String) : Prop where
  identifier : isIdentifier n
  not_buffer : n ≠ bufferName
  no_underscore : n.toList.head? ≠ some '_'

theorem isParameterName_of_parameterName {raw n : String} (h : parameterName raw = .ok n) :
    IsParameterName n := by
  obtain ⟨n', hn', h⟩ := bind_eq_ok.1 h
  split at h
  · cases h
  · next hbuffer =>
      cases h
      obtain ⟨rfl, hidentifier⟩ := checkedName_eq_ok hn'
      exact ⟨hidentifier, hbuffer, Text.snakeCase_head?_ne raw⟩

/-- The name under which a parameter stands in the code. -/
def Param.codeName (q : Param) : String :=
  if q.used then q.binding.ident else "_" ++ q.binding.ident

theorem isIdentifier_codeName {q : Param} (h : IsParameterName q.binding.ident) :
    isIdentifier q.codeName := by
  unfold Param.codeName
  split
  · exact h.identifier
  · exact Text.isIdentifier_underscore h.identifier

theorem underscore_append_ne {n n' : String} (h : n'.toList.head? ≠ some '_') : "_" ++ n ≠ n' := by
  rintro rfl
  rw [String.toList_append] at h
  exact h rfl

/-- Whether a parameter is used or not, its name tells which one it is. -/
theorem ident_eq_of_codeName_eq {q q' : Param} (hq : IsParameterName q.binding.ident)
    (hq' : IsParameterName q'.binding.ident) (h : q.codeName = q'.codeName) :
    q.binding.ident = q'.binding.ident := by
  unfold Param.codeName at h
  split at h <;> split at h
  · exact h
  · exact absurd h.symm (underscore_append_ne hq.no_underscore)
  · exact absurd h (underscore_append_ne hq'.no_underscore)
  · exact String.append_right_inj _ |>.1 h

/-- A parameter has not the name of the buffer, with an underscore or without. -/
theorem codeName_ne_buffer {q : Param} (h : IsParameterName q.binding.ident) :
    q.codeName ≠ bufferName ∧ q.codeName ≠ "_" ++ bufferName := by
  have hplain : bufferName.toList.head? ≠ some '_' := by decide
  unfold Param.codeName
  split
  · exact ⟨h.not_buffer, (underscore_append_ne h.no_underscore).symm⟩
  · refine ⟨underscore_append_ne hplain, fun heq => h.not_buffer ?_⟩
    exact String.append_right_inj _ |>.1 heq

end Phrasebook
