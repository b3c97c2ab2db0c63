import Mathlib.Data.List.Chain
import Phrasebook.Proofs.Definition.Reading

set_option autoImplicit false

/-! # Templates written from tokens

Tokens can be written as a template (`printTokens`), and reading that template gives them back, if
they are such as reading gives at all: `Canonical` says which ones these are. It asks for no more
than that literals are joined and not empty, and that names, specifiers and directives are free of
what would end them (`tokens_printTokens`). -/

namespace Phrasebook

namespace Text

theorem isBlank_of_trimStart {c : Char} {cs rest : List Char} (h : trimStart cs = c :: rest) :
    isBlank c = false := by
  have hhead := List.head?_dropWhile_not isBlank cs
  rw [trimStart] at h
  simpa [h] using hhead

theorem trim_trim (cs : List Char) : trim (trim cs) = trim cs := by
  have hstart : trimStart (trim cs) = trim cs := by
    cases htrim : trim cs with
    | nil => rfl
    | cons c rest =>
        -- the first character that is left is the first one that is not blank
        obtain ⟨after, hafter⟩ := trim_isPrefix cs
        rw [htrim] at hafter
        have hc := isBlank_of_trimStart hafter.symm
        rw [trimStart, List.dropWhile_cons_of_neg (by simp [hc])]
  calc
    trim (trim cs) = trimEnd (trim cs) := by rw [trim, hstart]
    _ = trim cs := by
      rw [trim, trimEnd_eq_rdropWhile, trimEnd_eq_rdropWhile, List.rdropWhile_idempotent]

theorem trim_space (cs : List Char) : trim (' ' :: cs) = trim cs := rfl

theorem trim_singleton {c : Char} (h : isBlank c = false) : trim [c] = [c] := by
  simp [trim, trimStart, trimEnd, h]

theorem isBlank_of_trim_eq_singleton {c : Char} {cs : List Char} (h : trim cs = [c]) :
    isBlank c = false := by
  rw [← Bool.not_eq_true]
  intro hc
  have hnil : trim [c] = [] := trim_eq_nil_iff.2 (by simpa using hc)
  rw [← h, trim_trim, h] at hnil
  cases hnil

end Text

namespace Definition

open Text

/-! ## Writing -/

/-- A character of a literal. Braces are doubled. -/
def doubled (c : Char) : List Char := if c = '{' ∨ c = '}' then [c, c] else [c]

/-- What stands between the braces of a placeholder for an argument. The blank in front keeps a
name that starts with a brace, or with the mark of variables, from being taken for something
else. -/
def argumentBody (name : String) (spec : Option Char) (directive : Option String) : List Char :=
  ' ' :: (name.toList ++ (spec.elim [] fun c => [':', c]) ++
    (directive.elim [] fun d => ':' :: d.toList))

namespace Token

/-- A token as it stands in a template. -/
def print : Token → List Char
  | .literal text => text.toList.flatMap doubled
  | .argument name spec directive => '{' :: (argumentBody name spec directive ++ ['}'])
  | .var name => '{' :: ('@' :: name.toList ++ ['}'])

def isLiteral : Token → Bool
  | .literal _ => true
  | _ => false

end Token

/-- The template of a list of tokens. -/
def printTokens (ts : List Token) : String := String.ofList (ts.flatMap Token.print)

/-- Not empty, and without blanks at its ends. -/
def IsName (name : String) : Prop := name ≠ "" ∧ trimmed name = name

/-- A token that a template can stand for. -/
def Token.WellFormed : Token → Prop
  | .literal text => text ≠ ""
  | .argument name spec directive =>
      IsName name ∧ ':' ∉ name.toList ∧ '}' ∉ name.toList ∧
        (∀ c ∈ spec, isBlank c = false ∧ c ≠ ':' ∧ c ≠ '}') ∧
        ∀ d ∈ directive, spec.isSome ∧ d ≠ "" ∧ '}' ∉ d.toList
  | .var name => IsName name ∧ '}' ∉ name.toList

/-- Tokens that a template can stand for: no literal is empty or next to another one, and
placeholders have nothing in them that would end them early. -/
structure Canonical (ts : List Token) : Prop where
  wellFormed : ∀ token ∈ ts, token.WellFormed
  apart : ts.IsChain fun a b => ¬(a.isLiteral ∧ b.isLiteral)

/-! ## Placeholders -/

theorem isName_ofList_iff {cs : List Char} :
    IsName (String.ofList cs) ↔ cs ≠ [] ∧ trim cs = cs := by
  have hinj : ∀ a : List Char, String.ofList a = String.ofList cs ↔ a = cs := fun a =>
    ⟨String.ofList_injective, fun h => by rw [h]⟩
  have hempty : String.ofList cs = "" ↔ cs = [] := by
    rw [eq_comm, ← String.ofList_nil, hinj, eq_comm]
  rw [IsName, trimmed, String.toList_ofList, hinj, ne_eq, hempty]

theorem isName_trim {cs : List Char} (h : ¬(trim cs).isEmpty) :
    IsName (String.ofList (trim cs)) :=
  isName_ofList_iff.2 ⟨fun hnil => h (by rw [hnil]; rfl), trim_trim cs⟩

theorem mem_of_mem_splitAtChar_snd {c x : Char} {cs b : List Char}
    (h : (splitAtChar c cs).2 = some b) (hx : x ∈ b) : x ∈ cs := by
  have hsplit : splitAtChar c cs = ((splitAtChar c cs).1, some b) := by rw [← h]
  rw [(splitAtChar_eq_some hsplit).2]
  exact List.mem_append_right _ (List.mem_cons_of_mem _ hx)

section Placeholders

variable {body : List Char} {offset : Nat} {token : Token}

theorem readFields_some_eq_ok {name : String} {rest : List Char}
    (h : readFields name (some rest) = .ok token) :
    ∃ c directive, token = .argument name (some c) directive ∧
      trim (splitAtChar ':' rest).1 = [c] ∧
      ∀ d ∈ directive, d ≠ "" ∧ (splitAtChar ':' rest).2 = some d.toList := by
  obtain ⟨c, hspec, heq⟩ := bind_eq_ok.1 h
  cases heq
  refine ⟨c, _, rfl, readSpecifier_eq_ok.1 hspec, fun d hd => ?_⟩
  split at hd
  · cases hd
  · cases hd
  · next cs hcs hsplit =>
      cases hd
      rw [String.toList_ofList]
      refine ⟨fun hempty => hcs ?_, hsplit⟩
      rw [← String.ofList_nil] at hempty
      rw [String.ofList_injective hempty]

theorem wellFormed_of_readFields {name : String} {rest : Option (List Char)} (hname : IsName name)
    (hcolon : ':' ∉ name.toList) (hclose : '}' ∉ name.toList) (hrest : ∀ cs ∈ rest, '}' ∉ cs)
    (h : readFields name rest = .ok token) : token.WellFormed ∧ token.isLiteral = false := by
  cases rest with
  | none =>
      cases h
      exact ⟨⟨hname, hcolon, hclose, nofun, nofun⟩, rfl⟩
  | some cs =>
      have hcs := hrest cs rfl
      obtain ⟨c, directive, rfl, hspec, hdirective⟩ := readFields_some_eq_ok h
      have hmem : c ∈ trim (splitAtChar ':' cs).1 := by simp [hspec]
      obtain ⟨hne, hc⟩ := of_mem_splitAtChar_fst (mem_of_mem_trim hmem)
      refine ⟨⟨hname, hcolon, hclose, ?_, ?_⟩, rfl⟩
      · rintro _ ⟨⟩
        exact ⟨isBlank_of_trim_eq_singleton hspec, hne, ne_of_mem_of_not_mem hc hcs⟩
      · intro d hd
        obtain ⟨hempty, hsplit⟩ := hdirective d hd
        exact ⟨rfl, hempty, fun hmem => hcs (mem_of_mem_splitAtChar_snd hsplit hmem)⟩

/-- What reading finds between two braces is a token that can stand there. -/
theorem wellFormed_of_placeholder (hclose : '}' ∉ body) (h : placeholder body offset = .ok token) :
    token.WellFormed ∧ token.isLiteral = false := by
  by_cases hat : body.head? = some '@'
  · obtain ⟨rest, rfl⟩ := List.head?_eq_some_iff.1 hat
    rw [placeholder_var] at h
    split_ifs at h with hname
    cases h
    refine ⟨⟨isName_trim hname, ?_⟩, rfl⟩
    rw [String.toList_ofList]
    exact fun hmem => hclose (List.mem_cons_of_mem _ (mem_of_mem_trim hmem))
  · rw [placeholder_argument hat] at h
    split_ifs at h with hname
    refine wellFormed_of_readFields (isName_trim hname) ?_ ?_ ?_ h
    · rw [String.toList_ofList]
      exact fun hmem => (of_mem_splitAtChar_fst (mem_of_mem_trim hmem)).1 rfl
    · rw [String.toList_ofList]
      exact fun hmem => hclose (of_mem_splitAtChar_fst (mem_of_mem_trim hmem)).2
    · exact fun cs hcs hmem => hclose (mem_of_mem_splitAtChar_snd hcs hmem)

theorem trim_toList {name : String} (h : IsName name) : trim name.toList = name.toList := by
  have htrimmed := h.2
  rw [← String.toList_inj, trimmed, String.toList_ofList] at htrimmed
  exact htrimmed

theorem isEmpty_toList {name : String} (h : name ≠ "") : ¬name.toList.isEmpty := by
  intro hempty
  rw [List.isEmpty_iff, String.toList_eq_nil_iff] at hempty
  exact h hempty

theorem placeholder_of_split {name : String} {rest : Option (List Char)} (hname : IsName name)
    (hat : body.head? ≠ some '@') (hsplit : splitAtChar ':' body = (' ' :: name.toList, rest)) :
    placeholder body offset = readFields name rest := by
  rw [placeholder_argument hat, hsplit]
  dsimp only
  rw [trim_space, trim_toList hname, if_neg (isEmpty_toList hname.1), String.ofList_toList]

theorem readFields_printed (name : String) {c : Char} {directive : Option String}
    (hblank : isBlank c = false) (hcolon : c ≠ ':') (hempty : ∀ d ∈ directive, d ≠ "") :
    readFields name (some (c :: (directive.elim [] fun d => ':' :: d.toList))) =
      .ok (.argument name (some c) directive) := by
  have hspec : readSpecifier [c] = .ok c := readSpecifier_eq_ok.2 (trim_singleton hblank)
  have hc : ':' ∉ [c] := by simpa using hcolon.symm
  cases directive with
  | none =>
      have hsplit : splitAtChar ':' [c] = ([c], none) := splitAtChar_of_notMem hc
      simp only [readFields, Option.elim_none, hsplit, hspec, ok_bind, pure_eq_ok]
  | some d =>
      have hsplit : splitAtChar ':' (c :: ':' :: d.toList) = ([c], some d.toList) :=
        splitAtChar_append hc
      simp only [readFields, Option.elim_some, hsplit, hspec, ok_bind, pure_eq_ok]
      split
      · next h => cases h
      · next h =>
          rw [Option.some.injEq, String.toList_eq_nil_iff] at h
          exact absurd h (hempty d rfl)
      · next h =>
          cases h
          rw [String.ofList_toList]

/-- An argument is found again between the braces that it is written in. -/
theorem placeholder_argumentBody {name : String} {spec : Option Char} {directive : Option String}
    (h : (Token.argument name spec directive).WellFormed) :
    placeholder (argumentBody name spec directive) offset =
      .ok (.argument name spec directive) := by
  obtain ⟨hname, hcolon, -, hspec, hdirective⟩ := h
  have hblank : ':' ∉ ' ' :: name.toList := by simpa using hcolon
  have hat : (argumentBody name spec directive).head? ≠ some '@' := by simp [argumentBody]
  cases spec with
  | none =>
      obtain rfl : directive = none := by
        rw [Option.eq_none_iff_forall_ne_some]
        rintro d rfl
        cases (hdirective d rfl).1
      have hbody : argumentBody name none none = ' ' :: name.toList := by simp [argumentBody]
      rw [placeholder_of_split hname hat (by rw [hbody]; exact splitAtChar_of_notMem hblank)]
      rfl
  | some c =>
      obtain ⟨hc, hne, -⟩ := hspec c rfl
      have hbody : argumentBody name (some c) directive =
          (' ' :: name.toList) ++ ':' :: c :: (directive.elim [] fun d => ':' :: d.toList) := by
        simp [argumentBody]
      rw [placeholder_of_split hname hat (by rw [hbody]; exact splitAtChar_append hblank)]
      exact readFields_printed name hc hne fun d hd => (hdirective d hd).2.1

/-- Any token but a literal is written as a placeholder in which it is found again. -/
theorem exists_body_of_wellFormed (h : token.WellFormed) (hliteral : token.isLiteral = false) :
    ∃ body, token.print = '{' :: (body ++ ['}']) ∧ body.head? ≠ some '{' ∧ '}' ∉ body ∧
      ∀ offset, placeholder body offset = .ok token := by
  cases token with
  | literal text => cases hliteral
  | argument name spec directive =>
      refine ⟨_, rfl, by simp [argumentBody], ?_, fun offset => placeholder_argumentBody h⟩
      obtain ⟨-, -, hname, hspec, hdirective⟩ := h
      have hspec' : '}' ∉ spec.elim [] fun c => [':', c] := by
        cases spec with
        | none => simp
        | some c => simpa using (hspec c rfl).2.2.symm
      have hdirective' : '}' ∉ directive.elim [] fun d => ':' :: d.toList := by
        cases directive with
        | none => simp
        | some d => simpa using (hdirective d rfl).2.2
      simp [argumentBody, hname, hspec', hdirective']
  | var name =>
      obtain ⟨hname, hclose⟩ := h
      refine ⟨'@' :: name.toList, rfl, by simp, by simpa using hclose, fun offset => ?_⟩
      rw [placeholder_var, trim_toList hname, if_neg (isEmpty_toList hname.1),
        String.ofList_toList]

end Placeholders

/-! ## Reading what is written -/

section Reading

variable {text cs : List Char} {ts : List Token} {token : Token}

theorem canonical_nil : Canonical [] := ⟨nofun, .nil⟩

theorem canonical_cons :
    Canonical (token :: ts) ↔
      token.WellFormed ∧ (∀ next ∈ ts.head?, ¬(token.isLiteral ∧ next.isLiteral)) ∧
        Canonical ts := by
  constructor
  · rintro ⟨hwellFormed, hapart⟩
    rw [List.forall_mem_cons] at hwellFormed
    rw [List.isChain_cons] at hapart
    exact ⟨hwellFormed.1, hapart.1, hwellFormed.2, hapart.2⟩
  · rintro ⟨htoken, hnext, hts⟩
    exact ⟨List.forall_mem_cons.2 ⟨htoken, hts.wellFormed⟩, List.isChain_cons.2 ⟨hnext, hts.apart⟩⟩

theorem exists_of_isLiteral (h : token.isLiteral) : ∃ s, token = .literal s := by
  cases token with
  | literal s => exact ⟨s, rfl⟩
  | argument _ _ _ | var _ => cases h

theorem literalToken_reverse {s : String} (h : s ≠ "") :
    literalToken s.toList.reverse = [.literal s] := by
  have hempty : ¬s.toList.reverse.isEmpty := by
    rw [List.isEmpty_reverse]
    exact isEmpty_toList h
  rw [literalToken, if_neg hempty, List.reverse_reverse, String.ofList_toList]

/-- The text before a token that is no literal is a literal of its own, unless it is empty. -/
theorem canonical_literalToken_append (hts : Canonical ts)
    (hfirst : ∀ token ∈ ts.head?, ¬token.isLiteral) : Canonical (literalToken text ++ ts) := by
  rw [literalToken]
  split_ifs with hempty
  · exact hts
  · rw [List.singleton_append, canonical_cons]
    refine ⟨fun h => hempty ?_, fun next hmem h => hfirst next hmem h.2, hts⟩
    rw [← String.ofList_nil] at h
    rw [← List.isEmpty_reverse, String.ofList_injective h]
    rfl

theorem reads_literal (chars : List Char)
    (h : ∀ offset, Reads offset (chars.reverse ++ text) cs ts) (offset : Nat) :
    Reads offset text (chars.flatMap doubled ++ cs) ts := by
  induction chars generalizing text offset with
  | nil => exact h offset
  | cons c chars ih =>
      have hrest : ∀ offset, Reads offset (c :: text) (chars.flatMap doubled ++ cs) ts := by
        refine ih fun offset => ?_
        simpa using h offset
      rw [List.flatMap_cons, List.append_assoc, doubled]
      split_ifs with hc
      · exact .brace hc (hrest _)
      · rw [not_or] at hc
        exact .char hc.1 hc.2 (hrest _)

theorem reads_hole (h : token.WellFormed) (hliteral : token.isLiteral = false)
    (hrest : ∀ offset, Reads offset [] cs ts) (offset : Nat) :
    Reads offset text (token.print ++ cs) (literalToken text ++ token :: ts) := by
  obtain ⟨body, hprint, hnext, hclose, hbody⟩ := exists_body_of_wellFormed h hliteral
  rw [hprint, List.cons_append, List.append_assoc, List.singleton_append]
  exact .hole hnext hclose (hbody offset) (hrest _)

/-- Literal text that has been read is put in front of what is written, if that does not start with
a literal itself. -/
theorem reads_print (h : Canonical ts) (hfirst : text ≠ [] → ∀ token ∈ ts.head?, ¬token.isLiteral)
    (offset : Nat) : Reads offset text (ts.flatMap Token.print) (literalToken text ++ ts) := by
  induction ts generalizing text offset with
  | nil =>
      rw [List.append_nil]
      exact .done
  | cons token ts ih =>
      obtain ⟨htoken, hnext, hts⟩ := canonical_cons.1 h
      rw [List.flatMap_cons]
      cases hliteral : token.isLiteral with
      | false => exact reads_hole htoken hliteral (ih hts fun h => absurd rfl h) offset
      | true =>
          -- no text has been read yet, and the text of the literal is read before the rest
          have htext : text = [] := by
            by_contra hne
            exact hfirst hne token rfl hliteral
          subst htext
          obtain ⟨s, rfl⟩ := exists_of_isLiteral hliteral
          refine reads_literal s.toList (fun offset => ?_) offset
          have hrest : Reads offset s.toList.reverse (ts.flatMap Token.print)
              (literalToken s.toList.reverse ++ ts) :=
            ih hts (fun _ next hmem h => hnext next hmem ⟨hliteral, h⟩) offset
          rw [literalToken_reverse htoken] at hrest
          rw [List.append_nil]
          exact hrest

/-- Reading gives nothing but tokens that a template can stand for. -/
theorem canonical_of_reads {offset : Nat} (h : Reads offset text cs ts) : Canonical ts := by
  induction h with
  | @done offset text =>
      rw [← List.append_nil (literalToken text)]
      exact canonical_literalToken_append canonical_nil nofun
  | char _ _ _ ih => exact ih
  | brace _ _ ih => exact ih
  | @hole offset text body token cs ts _ hclose hbody _ ih =>
      obtain ⟨htoken, hliteral⟩ := wellFormed_of_placeholder hclose hbody
      have hrest : Canonical (token :: ts) :=
        canonical_cons.2 ⟨htoken, fun next _ h => by simp [hliteral] at h, ih⟩
      refine canonical_literalToken_append hrest fun next hmem => ?_
      cases hmem
      simp [hliteral]

end Reading

/-- Tokens are written and read back without loss: what is read from a template can be written and
read again, and each list of tokens of that kind is read from some template. -/
theorem tokens_printTokens :
    (∀ t ts, tokens t = .ok ts → Canonical ts ∧ tokens (printTokens ts) = .ok ts) ∧
      ∀ ts, Canonical ts → ∃ t, tokens t = .ok ts := by
  have hprint : ∀ ts, Canonical ts → tokens (printTokens ts) = .ok ts := by
    intro ts hts
    rw [tokens_eq_ok_iff, printTokens, String.toList_ofList]
    exact reads_print hts (fun h => absurd rfl h) 0
  constructor
  · intro t ts h
    have hts := canonical_of_reads (tokens_eq_ok_iff.1 h)
    exact ⟨hts, hprint ts hts⟩
  · intro ts hts
    exact ⟨printTokens ts, hprint ts hts⟩

example : printTokens [.literal "\x7b", .argument "n" (some 'd') (some ">4"), .var "unit"] =
    "\x7b\x7b\x7b n:d:>4\x7d\x7b@unit\x7d" := by decide

end Definition

end Phrasebook
