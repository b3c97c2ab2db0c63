import Phrasebook.Proofs.Definition.Reading
import Phrasebook.Proofs.Format.Spelling
import Phrasebook.Proofs.Text.Identifier

set_option autoImplicit false

/-! # Directives in format strings

Generated code shows an argument by a format string that has its name and a directive between
braces. `pieces?` reads such strings: text in which braces are doubled, and places of arguments. The
string for a directive is read as one place and nothing else, and the directive that stands there in
its normal form is the one that was meant (`parse_normalForm`). -/

namespace Phrasebook.Format

open Definition Number

/-! ## Format strings -/

/-- A piece of a format string: a character, or the place of an argument with its directive. -/
inductive Piece where
  | char (c : Char)
  | place (argument : List Char) (directive : Option (List Char))

/-- The pieces of a format string. Between the braces of a place there are no others, and the first
colon ends the name of the argument. -/
def pieces? (cs : List Char) : Option (List Piece) :=
  match cs with
  | [] => some []
  | '{' :: '{' :: rest => (pieces? rest).map (.char '{' :: ·)
  | '}' :: '}' :: rest => (pieces? rest).map (.char '}' :: ·)
  | '}' :: _ => none
  | '{' :: rest =>
      match h : splitAtChar '}' rest with
      | (_, none) => none
      | (body, some rest') =>
          have := length_splitAtChar_lt h
          if '{' ∈ body then none
          else (pieces? rest').map
            (.place (splitAtChar ':' body).1 (splitAtChar ':' body).2 :: ·)
  | c :: rest => (pieces? rest).map (.char c :: ·)
termination_by cs.length
decreasing_by all_goals (simp only [List.length_cons]; omega)

/-- What stands between two braces is one place. -/
theorem pieces?_place {body : List Char} (hopen : '{' ∉ body) (hclose : '}' ∉ body) :
    pieces? ('{' :: (body ++ ['}'])) =
      some [.place (splitAtChar ':' body).1 (splitAtChar ':' body).2] := by
  have hsplit : splitAtChar '}' (body ++ ['}']) = (body, some []) := splitAtChar_append hclose
  have hhead : ∀ rest, body ++ ['}'] ≠ '{' :: rest := by
    intro rest heq
    have hmem : '{' ∈ body ++ ['}'] := heq ▸ List.mem_cons_self
    simp [hopen] at hmem
  rw [pieces?]
  · split
    · next h => cases hsplit.symm.trans h
    · next h =>
        cases hsplit.symm.trans h
        simp [hopen, pieces?]
  · exact hhead

theorem eq_or_of_mem_map_cons {o : Option (List Piece)} {ps : List Piece} {p q : Piece}
    (h : o.map (p :: ·) = some ps) (hq : q ∈ ps) : q = p ∨ ∃ qs, o = some qs ∧ q ∈ qs := by
  obtain ⟨qs, hqs, rfl⟩ := Option.map_eq_some_iff.1 h
  exact (List.mem_cons.1 hq).imp_right fun hq => ⟨qs, hqs, hq⟩

/-- The name of an argument has no braces and no colon in it. -/
theorem argument_of_pieces? {cs : List Char} {ps : List Piece} (h : pieces? cs = some ps)
    {argument : List Char} {directive : Option (List Char)} (hp : .place argument directive ∈ ps) :
    ∀ c ∈ argument, c ≠ '{' ∧ c ≠ '}' ∧ c ≠ ':' := by
  fun_induction pieces? cs generalizing ps with
  | case1 =>
      cases h
      cases hp
  | case2 rest ih | case3 rest ih =>
      obtain heq | ⟨qs, hqs, hq⟩ := eq_or_of_mem_map_cons h hp
      · cases heq
      · exact ih hqs hq
  | case4 | case5 | case6 => cases h
  | case7 rest hne body rest' hsplit hlt hopen ih =>
      obtain heq | ⟨qs, hqs, hq⟩ := eq_or_of_mem_map_cons h hp
      · cases heq
        intro c hc
        obtain ⟨hcolon, hbody⟩ := of_mem_splitAtChar_fst hc
        have hclose := (splitAtChar_eq_some hsplit).1
        exact ⟨ne_of_mem_of_not_mem hbody hopen, ne_of_mem_of_not_mem hbody hclose, hcolon⟩
      · exact ih hqs hq
  | case8 c rest _ _ _ _ ih =>
      obtain heq | ⟨qs, hqs, hq⟩ := eq_or_of_mem_map_cons h hp
      · cases heq
      · exact ih hqs hq

/-! ## Normal forms between braces -/

namespace Spec

/-- What is read can be spelled with a width that fits. -/
theorem exists_spelling {raw : List Char} {s : Spec} (h : parse raw = .ok s) :
    ∃ p : Spelling, p.PrecisionFits ∧ p.spec = s ∧ p.canonical.text = s.text := by
  obtain ⟨p, -, hprecision, rfl⟩ := parse_eq_ok_iff.1 h
  by_cases hfits : Fits p.width
  · exact ⟨p, hprecision, rfl, (p.text_spec hfits).symm⟩
  · have hspec := p.spec_withoutWidth hfits
    have htext := p.withoutWidth.text_spec (show Fits [] by decide)
    exact ⟨p.withoutWidth, hprecision, hspec, by rw [← htext, hspec]⟩

theorem parse_text {raw : List Char} {s : Spec} (h : parse raw = .ok s) : parse s.text = .ok s := by
  obtain ⟨p, hprecision, rfl, htext⟩ := exists_spelling h
  rw [← htext]
  exact p.canonical.parse_text_eq_ok_iff.2 ⟨p.precisionFits_canonical hprecision, p.spec_canonical⟩

end Spec

/-- The only braces that could stand in a spelling are those of the fill. -/
theorem Spelling.ne_brace_of_mem_text {p : Spelling} : ∀ c ∈ p.text, c ≠ '{' ∧ c ≠ '}' := by
  intro c hc
  rcases List.mem_append.1 hc with hc | hc
  · have hfill := p.fill_align
    cases halign : p.align with
    | none => simp [Spec.front, halign] at hc
    | some a =>
        simp only [halign, Spec.front, List.mem_append, Option.mem_toList,
          List.mem_singleton] at hc
        rcases hc with hc | rfl
        · exact (hfill c hc).2
        · cases a <;> decide
  · have hplain := p.isPlain_of_mem_flagged hc
    constructor
    · rintro rfl
      cases hplain
    · rintro rfl
      cases hplain

/-- An identifier can stand for an argument. -/
theorem isName_of_isIdentifier {name : String} (h : Text.isIdentifier name) :
    ∀ c ∈ name.toList, c ≠ '{' ∧ c ≠ '}' ∧ c ≠ ':' := by
  obtain ⟨d, ds, hname, hstart, hcontinue⟩ :=
    Text.isWordShaped_eq_true (Text.isWordShaped_of_isIdentifier h)
  have hall : ∀ c ∈ name.toList, Text.isIdentifierContinue c := by
    rw [hname]
    exact List.forall_mem_cons.2
      ⟨Text.isIdentifierContinue_of_isIdentifierStart hstart, hcontinue⟩
  intro c hc
  have hne : ∀ d, Text.isIdentifierContinue d = false → c ≠ d := by
    rintro _ hd rfl
    rw [hall c hc] at hd
    cases hd
  exact ⟨hne '{' rfl, hne '}' rfl, hne ':' rfl⟩

namespace Spec

/-- A pattern is one place if the name of the argument has no braces and no colon in it. -/
theorem pieces?_pattern_iff {s : Spec} (hs : ∀ c ∈ s.text, c ≠ '{' ∧ c ≠ '}') (argument : String) :
    pieces? (s.pattern argument).toList = some [.place argument.toList (some s.text)] ↔
      ∀ c ∈ argument.toList, c ≠ '{' ∧ c ≠ '}' ∧ c ≠ ':' := by
  constructor
  · intro h
    exact argument_of_pieces? h List.mem_cons_self
  · intro h
    have hcolon : ':' ∉ argument.toList := fun hc => (h _ hc).2.2 rfl
    have hopen : '{' ∉ argument.toList ++ ':' :: s.text := by
      simp only [List.mem_append, List.mem_cons, not_or]
      exact ⟨fun hc => (h _ hc).1 rfl, by decide, fun hc => (hs _ hc).1 rfl⟩
    have hclose : '}' ∉ argument.toList ++ ':' :: s.text := by
      simp only [List.mem_append, List.mem_cons, not_or]
      exact ⟨fun hc => (h _ hc).2.1 rfl, by decide, fun hc => (hs _ hc).2 rfl⟩
    have hpattern : (s.pattern argument).toList =
        '{' :: ((argument.toList ++ ':' :: s.text) ++ ['}']) := by
      simp [pattern]
    rw [hpattern, pieces?_place hopen hclose, splitAtChar_append hcolon]

/-- The normal form of what is read is read as the same, and as it has no braces in it, it can stand
in a format string: the pattern for an argument is one place, with the name of the argument and with
the normal form. -/
theorem parse_normalForm {raw : List Char} {s : Spec} (h : parse raw = .ok s) :
    parse s.text = .ok s ∧ (∀ c ∈ s.text, c ≠ '{' ∧ c ≠ '}') ∧
      (∀ argument, Text.isIdentifier argument →
        pieces? (s.pattern argument).toList = some [.place argument.toList (some s.text)]) ∧
      ∀ argument,
        pieces? (s.pattern argument).toList = some [.place argument.toList (some s.text)] ↔
          ∀ c ∈ argument.toList, c ≠ '{' ∧ c ≠ '}' ∧ c ≠ ':' := by
  have hbrace : ∀ c ∈ s.text, c ≠ '{' ∧ c ≠ '}' := by
    obtain ⟨p, -, -, htext⟩ := exists_spelling h
    rw [← htext]
    exact Spelling.ne_brace_of_mem_text
  refine ⟨parse_text h, hbrace, fun argument hargument => ?_, pieces?_pattern_iff hbrace⟩
  exact (pieces?_pattern_iff hbrace argument).2 (isName_of_isIdentifier hargument)

/-- A directive whose fill is a colon. -/
def colonSpec : Spec :=
  { fill := some ':'
    align := some .left
    plus := true
    zero := true
    width := some 8
    precision := some 3 }

theorem text_colonSpec : colonSpec.text = ":<+08.3".toList := by
  have height : decimal 8 = ['8'] := digits_of_lt (by omega)
  have hthree : decimal 3 = ['3'] := digits_of_lt (by omega)
  rw [text_eq]
  simp only [colonSpec, Option.elim_some, Option.map_some, height, hthree]
  rfl

/-- The first colon of the pattern ends the name, and the second one is the fill. -/
theorem parse_normalForm_colonSpec :
    parse ":<+0008.3".toList = .ok colonSpec ∧ parse ":<+08.3".toList = .ok colonSpec ∧
      colonSpec.pattern "price" = "\x7bprice::<+08.3\x7d" ∧
      pieces? (colonSpec.pattern "price").toList =
        some [.place "price".toList (some ":<+08.3".toList)] := by
  obtain ⟨hparse, -, hpattern, -⟩ :=
    parse_normalForm (rfl : parse ":<+0008.3".toList = .ok colonSpec)
  rw [← text_colonSpec]
  refine ⟨rfl, hparse, ?_, hpattern "price" (by decide +kernel)⟩
  rw [pattern, text_colonSpec]
  rfl

end Spec

end Phrasebook.Format
