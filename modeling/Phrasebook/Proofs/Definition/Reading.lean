import Mathlib.Data.List.DropRight
import Phrasebook.Definition.Template
import Phrasebook.Proofs.Results

set_option autoImplicit false

/-! # How templates are read

A template is read from left to right: one character, one doubled brace or one placeholder at a
time. `Reads` says so as a relation, and `Problem` says where it cannot go on. Reading either comes
to the end or to a problem (`settles`), and both decide what the reader answers
(`tokensFrom_of_reads`, `tokensFrom_of_problem`). So an error tells where the first problem is, and
that everything before it makes sense by itself (`tokens_error_iff`). -/

namespace Phrasebook

namespace Text

/-! ## Blanks -/

theorem trimEnd_eq_rdropWhile (cs : List Char) : trimEnd cs = cs.rdropWhile isBlank := rfl

theorem trim_isPrefix (cs : List Char) : trim cs <+: trimStart cs := by
  rw [trim, trimEnd_eq_rdropWhile]
  exact List.rdropWhile_prefix _ _

theorem mem_of_mem_trim {c : Char} {cs : List Char} (h : c ∈ trim cs) : c ∈ cs :=
  (List.dropWhile_suffix isBlank).subset ((trim_isPrefix cs).subset h)

theorem trim_eq_nil_iff {cs : List Char} : trim cs = [] ↔ ∀ c ∈ cs, isBlank c := by
  rw [trim, trimEnd_eq_rdropWhile, List.rdropWhile_eq_nil_iff, trimStart]
  constructor
  · intro h c hc
    rw [← List.takeWhile_append_dropWhile (p := isBlank) (l := cs)] at hc
    rcases List.mem_append.1 hc with hc | hc
    · exact List.mem_takeWhile_imp hc
    · exact h c hc
  · intro h c hc
    exact h c ((List.dropWhile_suffix isBlank).subset hc)

end Text

namespace Definition

open Text

/-! ## Splitting -/

section Splitting

variable {c : Char} {cs a b : List Char}

theorem splitAtChar_of_notMem (h : c ∉ cs) : splitAtChar c cs = (cs, none) := by
  have hdrop : cs.dropWhile (· ≠ c) = [] := by
    rw [List.dropWhile_eq_nil_iff]
    intro x hx
    simpa using ne_of_mem_of_not_mem hx h
  rw [splitAtChar, hdrop]

theorem splitAtChar_append (h : c ∉ a) : splitAtChar c (a ++ c :: b) = (a, some b) := by
  have hne : ∀ x ∈ a, decide (x ≠ c) = true := by
    intro x hx
    simpa using ne_of_mem_of_not_mem hx h
  have hdrop : (a ++ c :: b).dropWhile (· ≠ c) = c :: b := by
    rw [List.dropWhile_append_of_pos hne, List.dropWhile_cons_of_neg (by simp)]
  have htake : (a ++ c :: b).takeWhile (· ≠ c) = a := by
    rw [List.takeWhile_append_of_pos hne, List.takeWhile_cons_of_neg (by simp), List.append_nil]
  rw [splitAtChar, hdrop, htake]

theorem splitAtChar_eq_none (h : splitAtChar c cs = (a, none)) : c ∉ cs := by
  intro hc
  obtain ⟨before, after, rfl, hbefore⟩ := List.eq_append_cons_of_mem hc
  rw [splitAtChar_append hbefore] at h
  cases h

theorem splitAtChar_eq_some (h : splitAtChar c cs = (a, some b)) : c ∉ a ∧ cs = a ++ c :: b := by
  by_cases hc : c ∈ cs
  · obtain ⟨before, after, rfl, hbefore⟩ := List.eq_append_cons_of_mem hc
    rw [splitAtChar_append hbefore] at h
    cases h
    exact ⟨hbefore, rfl⟩
  · rw [splitAtChar_of_notMem hc] at h
    cases h

theorem splitAtChar_fst (c : Char) (cs : List Char) :
    (splitAtChar c cs).1 = cs.takeWhile (· ≠ c) := by
  unfold splitAtChar
  split
  · next hdrop =>
      have happend := List.takeWhile_append_dropWhile (p := (· ≠ c)) (l := cs)
      rw [hdrop, List.append_nil] at happend
      exact happend.symm
  · rfl

theorem of_mem_splitAtChar_fst {x : Char} (h : x ∈ (splitAtChar c cs).1) : x ≠ c ∧ x ∈ cs := by
  rw [splitAtChar_fst] at h
  exact ⟨by simpa using List.mem_takeWhile_imp h, (List.takeWhile_sublist _).subset h⟩

end Splitting

@[simp] theorem byteCount_nil : byteCount [] = 0 := rfl

@[simp] theorem byteCount_cons (c : Char) (cs : List Char) :
    byteCount (c :: cs) = c.utf8Size + byteCount cs := rfl

@[simp] theorem byteCount_append (a b : List Char) :
    byteCount (a ++ b) = byteCount a + byteCount b := by
  induction a with
  | nil => simp
  | cons c a ih => simp [ih, Nat.add_assoc]

theorem byteCount_brace {c : Char} (hc : c = '{' ∨ c = '}') (cs : List Char) :
    byteCount (c :: c :: cs) = 2 + byteCount cs := by
  have hsize : c.utf8Size = 1 := by
    rcases hc with rfl | rfl
    · rfl
    · rfl
  rw [byteCount_cons, byteCount_cons, hsize]
  omega

theorem byteCount_hole (body cs : List Char) :
    byteCount ('{' :: (body ++ '}' :: cs)) = byteCount body + 2 + byteCount cs := by
  have hopen : '{'.utf8Size = 1 := rfl
  have hclose : '}'.utf8Size = 1 := rfl
  rw [byteCount_cons, byteCount_append, byteCount_cons, hopen, hclose]
  omega

theorem utf8ByteSize_ofList (cs : List Char) : (String.ofList cs).utf8ByteSize = byteCount cs := by
  induction cs with
  | nil => rfl
  | cons c cs ih =>
      rw [String.ofList_cons, String.utf8ByteSize_append, String.utf8ByteSize_singleton, ih,
        byteCount_cons]

/-! ## Placeholders -/

/-- What stands between braces has no name: only blanks come after the mark of a variable, or before
the first colon. -/
def Nameless (body : List Char) : Prop :=
  (∃ rest, body = '@' :: rest ∧ ∀ c ∈ rest, isBlank c) ∨
    (body.head? ≠ some '@' ∧ ∀ c ∈ body.takeWhile (· ≠ ':'), isBlank c)

/-- The rest of a placeholder for an argument, after its name. -/
def readFields (name : String) : Option (List Char) → Except TemplateError Token
  | none => .ok (.argument name none none)
  | some rest => do
      let spec ← readSpecifier (splitAtChar ':' rest).1
      let directive := match (splitAtChar ':' rest).2 with
        | none | some [] => none
        | some cs => some (String.ofList cs)
      return .argument name (some spec) directive

section Placeholders

variable {body raw : List Char} {offset : Nat} {e : TemplateError}

theorem placeholder_var (rest : List Char) (offset : Nat) :
    placeholder ('@' :: rest) offset =
      if (trim rest).isEmpty then .error (.emptyPlaceholder offset)
      else .ok (.var (String.ofList (trim rest))) := rfl

theorem placeholder_argument (h : body.head? ≠ some '@') (offset : Nat) :
    placeholder body offset =
      if (trim (splitAtChar ':' body).1).isEmpty then .error (.emptyPlaceholder offset)
      else readFields (String.ofList (trim (splitAtChar ':' body).1)) (splitAtChar ':' body).2 := by
  unfold placeholder
  split
  · simp at h
  · dsimp only
    split_ifs with hname
    · rfl
    · cases (splitAtChar ':' body).2 with
      | none => rfl
      | some rest => rfl

theorem readSpecifier_eq_ok {c : Char} : readSpecifier raw = .ok c ↔ trim raw = [c] := by
  unfold readSpecifier
  split
  · next d hd => simp [hd]
  · next hd =>
      constructor
      · intro h
        cases h
      · intro h
        exact absurd h (hd c)

theorem readSpecifier_eq_error (h : readSpecifier raw = .error e) :
    e = .specifier (String.ofList raw) := by
  unfold readSpecifier at h
  split at h
  · cases h
  · cases h
    rfl

theorem readFields_eq_error {name : String} {rest : Option (List Char)}
    (h : readFields name rest = .error e) : ∃ raw, e = .specifier raw := by
  cases rest with
  | none => cases h
  | some rest =>
      rcases bind_eq_error.1 h with hspec | ⟨spec, -, hrest⟩
      · exact ⟨_, readSpecifier_eq_error hspec⟩
      · cases hrest

theorem placeholder_of_nameless (h : Nameless body) :
    placeholder body offset = .error (.emptyPlaceholder offset) := by
  rcases h with ⟨rest, rfl, hrest⟩ | ⟨hat, hname⟩
  · rw [placeholder_var, trim_eq_nil_iff.2 hrest]
    rfl
  · rw [placeholder_argument hat, splitAtChar_fst, trim_eq_nil_iff.2 hname]
    rfl

/-- A placeholder without a name is empty; with one, only its specifier can be wrong. -/
theorem placeholder_eq_error (h : placeholder body offset = .error e) :
    (Nameless body ∧ e = .emptyPlaceholder offset) ∨ ∃ raw, e = .specifier raw := by
  by_cases hat : body.head? = some '@'
  · obtain ⟨rest, rfl⟩ := List.head?_eq_some_iff.1 hat
    rw [placeholder_var] at h
    split_ifs at h with hname
    · cases h
      exact .inl ⟨.inl ⟨rest, rfl, trim_eq_nil_iff.1 (List.isEmpty_iff.1 hname)⟩, rfl⟩
  · rw [placeholder_argument hat, splitAtChar_fst] at h
    split_ifs at h with hname
    · cases h
      exact .inl ⟨.inr ⟨hat, trim_eq_nil_iff.1 (List.isEmpty_iff.1 hname)⟩, rfl⟩
    · exact .inr (readFields_eq_error h)

end Placeholders

/-! ## One step at a time -/

section Steps

variable {offset : Nat} {text cs body : List Char} {c : Char}

theorem tokensFrom_char (hopen : c ≠ '{') (hclose : c ≠ '}') :
    tokensFrom offset text (c :: cs) = tokensFrom (offset + c.utf8Size) (c :: text) cs := by
  rw [tokensFrom]
  · intro _ h
    exact absurd h hopen
  · intro _ h
    exact absurd h hclose
  · exact hclose
  · exact hopen

theorem tokensFrom_brace (hc : c = '{' ∨ c = '}') :
    tokensFrom offset text (c :: c :: cs) = tokensFrom (offset + 2) (c :: text) cs := by
  rcases hc with rfl | rfl
  · rw [tokensFrom]
  · rw [tokensFrom]

theorem tokensFrom_hole (hnext : body.head? ≠ some '{') (hclose : '}' ∉ body) :
    tokensFrom offset text ('{' :: (body ++ '}' :: cs)) = do
      let token ← placeholder body offset
      let tokens ← tokensFrom (offset + byteCount body + 2) [] cs
      return literalToken text ++ token :: tokens := by
  have hsplit := splitAtChar_append (b := cs) hclose
  rw [tokensFrom]
  · split
    · next h =>
        rw [hsplit] at h
        cases h
    · next h =>
        rw [hsplit] at h
        cases h
        rfl
  · intro rest h
    cases body with
    | nil => cases h
    | cons d body =>
        cases h
        exact hnext rfl

end Steps

/-- Reading from `offset` on, with the literal text before it in reverse, gives tokens. -/
inductive Reads : Nat → List Char → List Char → List Token → Prop
  | done {offset text} : Reads offset text [] (literalToken text)
  | char {offset text c cs ts} (hopen : c ≠ '{') (hclose : c ≠ '}')
      (hrest : Reads (offset + c.utf8Size) (c :: text) cs ts) : Reads offset text (c :: cs) ts
  | brace {offset text c cs ts} (hc : c = '{' ∨ c = '}')
      (hrest : Reads (offset + 2) (c :: text) cs ts) : Reads offset text (c :: c :: cs) ts
  | hole {offset text body token cs ts} (hnext : body.head? ≠ some '{') (hclose : '}' ∉ body)
      (hbody : placeholder body offset = .ok token)
      (hrest : Reads (offset + byteCount body + 2) [] cs ts) :
      Reads offset text ('{' :: (body ++ '}' :: cs)) (literalToken text ++ token :: ts)

/-- Reading cannot go on at `offset`, in front of a text. -/
inductive Problem (offset : Nat) : List Char → TemplateError → Prop
  | unmatchedClose {after} (hnext : after.head? ≠ some '}') :
      Problem offset ('}' :: after) (.unmatchedClose offset)
  | unclosed {after} (hnext : after.head? ≠ some '{') (hclose : '}' ∉ after) :
      Problem offset ('{' :: after) (.unclosed offset)
  | placeholder {body after e} (hnext : body.head? ≠ some '{') (hclose : '}' ∉ body)
      (hbody : placeholder body offset = .error e) :
      Problem offset ('{' :: (body ++ '}' :: after)) e

section Reading

variable {offset : Nat} {text cs rest : List Char} {ts : List Token} {e : TemplateError}

theorem tokensFrom_of_reads (h : Reads offset text cs ts) : tokensFrom offset text cs = .ok ts := by
  induction h with
  | done => rw [tokensFrom]
  | char hopen hclose _ ih => rw [tokensFrom_char hopen hclose, ih]
  | brace hc _ ih => rw [tokensFrom_brace hc, ih]
  | hole hnext hclose hbody _ ih =>
      rw [tokensFrom_hole hnext hclose, hbody, ok_bind, ih]
      rfl

theorem tokensFrom_problem (h : Problem offset rest e) :
    tokensFrom offset text rest = .error e := by
  cases h with
  | unmatchedClose hnext =>
      rw [tokensFrom]
      intro after h
      rw [h] at hnext
      exact hnext rfl
  | unclosed hnext hclose =>
      rw [tokensFrom]
      · split
        · rfl
        · next h => exact absurd (by rw [(splitAtChar_eq_some h).2]; simp) hclose
      · intro after h
        rw [h] at hnext
        exact hnext rfl
  | placeholder hnext hclose hbody => rw [tokensFrom_hole hnext hclose, hbody, error_bind]

/-- Whatever comes before a problem, if it can be read, is read first. -/
theorem tokensFrom_of_problem (h : Reads offset text cs ts)
    (hrest : Problem (offset + byteCount cs) rest e) :
    tokensFrom offset text (cs ++ rest) = .error e := by
  induction h with
  | done => exact tokensFrom_problem (by simpa using hrest)
  | char hopen hclose _ ih =>
      rw [List.cons_append, tokensFrom_char hopen hclose]
      exact ih (by simpa [Nat.add_assoc] using hrest)
  | brace hc _ ih =>
      rw [List.cons_append, List.cons_append, tokensFrom_brace hc]
      refine ih ?_
      rwa [byteCount_brace hc, ← Nat.add_assoc] at hrest
  | @hole offset text body token cs ts hnext hclose hbody _ ih =>
      have herror : tokensFrom (offset + byteCount body + 2) [] (cs ++ rest) = .error e := by
        refine ih ?_
        rwa [byteCount_hole, ← Nat.add_assoc, ← Nat.add_assoc] at hrest
      rw [List.cons_append, List.append_assoc, List.cons_append, tokensFrom_hole hnext hclose,
        hbody, ok_bind, herror, error_bind]

/-- Reading comes to the end, or to a problem after something that can be read. -/
def Settles (offset : Nat) (text cs : List Char) : Prop :=
  (∃ ts, Reads offset text cs ts) ∨
    ∃ before ts rest e, cs = before ++ rest ∧ Reads offset text before ts ∧
      Problem (offset + byteCount before) rest e

/-- What is read in one step can be put in front. -/
theorem Settles.of_step {offset' : Nat} {text' : List Char} (h : Settles offset' text' cs)
    (piece : List Char) (hoffset : offset' = offset + byteCount piece)
    (hstep : ∀ cs ts, Reads offset' text' cs ts → ∃ ts', Reads offset text (piece ++ cs) ts') :
    Settles offset text (piece ++ cs) := by
  rcases h with ⟨ts, hts⟩ | ⟨before, ts, rest, e, rfl, hts, hproblem⟩
  · exact .inl (hstep cs ts hts)
  · obtain ⟨ts', hts'⟩ := hstep before ts hts
    refine .inr ⟨piece ++ before, ts', rest, e, by rw [List.append_assoc], hts', ?_⟩
    rwa [byteCount_append, ← Nat.add_assoc, ← hoffset]

theorem Settles.of_problem (h : Problem offset cs e) : Settles offset text cs :=
  .inr ⟨[], _, cs, e, rfl, .done, h⟩

theorem settles (offset : Nat) (text cs : List Char) : Settles offset text cs := by
  -- the cases are those of the reader: the end, the two doubled braces, the two lone ones, a
  -- placeholder, any other character
  induction offset, text, cs using tokensFrom.induct with
  | case1 offset text => exact .inl ⟨_, .done⟩
  | case2 offset text rest ih =>
      exact ih.of_step ['{', '{'] rfl fun _ ts h => ⟨ts, .brace (.inl rfl) h⟩
  | case3 offset text rest ih =>
      exact ih.of_step ['}', '}'] rfl fun _ ts h => ⟨ts, .brace (.inr rfl) h⟩
  | case4 offset text after hnext =>
      refine .of_problem (.unmatchedClose fun h => ?_)
      obtain ⟨rest, hrest⟩ := List.head?_eq_some_iff.1 h
      exact hnext rest hrest
  | case5 offset text after hnext _ hsplit =>
      refine .of_problem (.unclosed (fun h => ?_) (splitAtChar_eq_none hsplit))
      obtain ⟨rest, hrest⟩ := List.head?_eq_some_iff.1 h
      exact hnext rest hrest
  | case6 offset text after hnext body rest hsplit _ ih =>
      obtain ⟨hclose, rfl⟩ := splitAtChar_eq_some hsplit
      have hopen : body.head? ≠ some '{' := by
        intro h
        obtain ⟨body', rfl⟩ := List.head?_eq_some_iff.1 h
        exact hnext _ rfl
      cases hbody : placeholder body offset with
      | error e => exact .of_problem (.placeholder hopen hclose hbody)
      | ok token =>
          have hpiece : '{' :: (body ++ '}' :: rest) = ('{' :: (body ++ ['}'])) ++ rest := by simp
          rw [hpiece]
          refine ih.of_step _ (by rw [byteCount_hole]; rfl) fun cs ts h => ?_
          have hread : Reads offset text ('{' :: (body ++ '}' :: cs)) _ :=
            .hole hopen hclose hbody h
          exact ⟨_, by simpa using hread⟩
  | case7 offset text c rest _ _ hclose hopen ih =>
      exact ih.of_step [c] rfl fun _ ts h => ⟨ts, .char hopen hclose h⟩

theorem tokensFrom_eq_ok_iff : tokensFrom offset text cs = .ok ts ↔ Reads offset text cs ts := by
  constructor
  · intro h
    rcases settles offset text cs with ⟨ts', hts⟩ | ⟨before, ts', rest, e, rfl, hts, hproblem⟩
    · rw [tokensFrom_of_reads hts] at h
      cases h
      exact hts
    · rw [tokensFrom_of_problem hts hproblem] at h
      cases h
  · exact tokensFrom_of_reads

theorem tokensFrom_eq_error_iff :
    tokensFrom offset text cs = .error e ↔
      ∃ before ts rest, cs = before ++ rest ∧ Reads offset text before ts ∧
        Problem (offset + byteCount before) rest e := by
  constructor
  · intro h
    rcases settles offset text cs with ⟨ts, hts⟩ | ⟨before, ts, rest, e', rfl, hts, hproblem⟩
    · rw [tokensFrom_of_reads hts] at h
      cases h
    · rw [tokensFrom_of_problem hts hproblem] at h
      cases h
      exact ⟨before, ts, rest, rfl, hts, hproblem⟩
  · rintro ⟨before, ts, rest, rfl, hts, hproblem⟩
    exact tokensFrom_of_problem hts hproblem

end Reading

/-! ## The first problem of a template -/

/-- What stands before the byte `offset` of a template can be read by itself. There stands `c`, and
`after` follows it. -/
def ReadableTo (t : String) (offset : Nat) (c : Char) (after : List Char) : Prop :=
  ∃ before, t = before ++ String.ofList (c :: after) ∧ before.utf8ByteSize = offset ∧
    ∃ ts, tokens before = .ok ts

section Problems

variable {t : String} {offset : Nat} {c : Char} {after : List Char} {e : TemplateError}

theorem tokens_eq_ok_iff {ts : List Token} : tokens t = .ok ts ↔ Reads 0 [] t.toList ts :=
  tokensFrom_eq_ok_iff

theorem readableTo_iff :
    ReadableTo t offset c after ↔
      ∃ before ts, t.toList = before ++ c :: after ∧ byteCount before = offset ∧
        Reads 0 [] before ts := by
  constructor
  · rintro ⟨before, rfl, rfl, ts, hts⟩
    refine ⟨before.toList, ts, ?_, ?_, tokens_eq_ok_iff.1 hts⟩
    · rw [String.toList_append, String.toList_ofList]
    · rw [← utf8ByteSize_ofList, String.ofList_toList]
  · rintro ⟨before, ts, htext, rfl, hts⟩
    refine ⟨String.ofList before, ?_, utf8ByteSize_ofList before, ts, ?_⟩
    · rw [← String.ofList_append, ← htext, String.ofList_toList]
    · rw [tokens_eq_ok_iff, String.toList_ofList]
      exact hts

/-- The place and the character of a problem are those that it names. -/
theorem exists_readableTo_iff {d : Char} {P : List Char → Prop} :
    (∃ o c after, ReadableTo t o c after ∧ o = offset ∧ c = d ∧ P after) ↔
      ∃ after, ReadableTo t offset d after ∧ P after := by
  constructor
  · rintro ⟨_, _, after, hreadable, rfl, rfl, hafter⟩
    exact ⟨after, hreadable, hafter⟩
  · rintro ⟨after, hreadable, hafter⟩
    exact ⟨offset, d, after, hreadable, rfl, rfl, hafter⟩

/-- Reading fails if what stands before some place can be read by itself, and there it cannot go
on. -/
theorem tokens_eq_error_iff :
    tokens t = .error e ↔
      ∃ offset c after, ReadableTo t offset c after ∧ Problem offset (c :: after) e := by
  unfold tokens
  rw [tokensFrom_eq_error_iff]
  constructor
  · rintro ⟨before, ts, rest, htext, hts, hproblem⟩
    rw [Nat.zero_add] at hproblem
    cases rest with
    | nil => cases hproblem
    | cons c after =>
        exact ⟨_, c, after, readableTo_iff.2 ⟨before, ts, htext, rfl, hts⟩, hproblem⟩
  · rintro ⟨offset, c, after, hreadable, hproblem⟩
    obtain ⟨before, ts, htext, rfl, hts⟩ := readableTo_iff.1 hreadable
    exact ⟨before, ts, _, htext, hts, by rwa [Nat.zero_add]⟩

theorem problem_unmatchedClose_iff {o : Nat} :
    Problem o (c :: after) (.unmatchedClose offset) ↔
      o = offset ∧ c = '}' ∧ after.head? ≠ some '}' := by
  constructor
  · intro h
    cases h with
    | unmatchedClose hnext => exact ⟨rfl, rfl, hnext⟩
    | placeholder _ _ hbody =>
        rcases placeholder_eq_error hbody with ⟨-, heq⟩ | ⟨raw, heq⟩
        · cases heq
        · cases heq
  · rintro ⟨rfl, rfl, hnext⟩
    exact .unmatchedClose hnext

theorem problem_unclosed_iff {o : Nat} :
    Problem o (c :: after) (.unclosed offset) ↔
      o = offset ∧ c = '{' ∧ after.head? ≠ some '{' ∧ '}' ∉ after := by
  constructor
  · intro h
    cases h with
    | unclosed hnext hclose => exact ⟨rfl, rfl, hnext, hclose⟩
    | placeholder _ _ hbody =>
        rcases placeholder_eq_error hbody with ⟨-, heq⟩ | ⟨raw, heq⟩
        · cases heq
        · cases heq
  · rintro ⟨rfl, rfl, hnext, hclose⟩
    exact .unclosed hnext hclose

/-- A text up to the next closing brace starts like the text itself. -/
theorem head?_body_ne_iff {body rest : List Char} :
    (body ++ '}' :: rest).head? ≠ some '{' ↔ body.head? ≠ some '{' := by
  cases body with
  | nil => simp
  | cons d body => simp

theorem problem_emptyPlaceholder_iff {o : Nat} :
    Problem o (c :: after) (.emptyPlaceholder offset) ↔
      o = offset ∧ c = '{' ∧ after.head? ≠ some '{' ∧
        ∃ body rest, after = body ++ '}' :: rest ∧ '}' ∉ body ∧ Nameless body := by
  constructor
  · intro h
    cases h with
    | @placeholder body rest _ hnext hclose hbody =>
        rcases placeholder_eq_error hbody with ⟨hnameless, heq⟩ | ⟨raw, heq⟩
        · cases heq
          exact ⟨rfl, rfl, head?_body_ne_iff.2 hnext, body, rest, rfl, hclose, hnameless⟩
        · cases heq
  · rintro ⟨rfl, rfl, hnext, body, rest, rfl, hclose, hnameless⟩
    exact .placeholder (head?_body_ne_iff.1 hnext) hclose (placeholder_of_nameless hnameless)

end Problems

/-- A template is refused at its first problem, and at no other place: for each error that names a
byte, what has to stand there, with everything before it readable by itself. -/
theorem tokens_error_iff (t : String) (offset : Nat) :
    (tokens t = .error (.unmatchedClose offset) ↔
      ∃ after, ReadableTo t offset '}' after ∧ after.head? ≠ some '}') ∧
    (tokens t = .error (.unclosed offset) ↔
      ∃ after, ReadableTo t offset '{' after ∧ after.head? ≠ some '{' ∧ '}' ∉ after) ∧
    (tokens t = .error (.emptyPlaceholder offset) ↔
      ∃ after, ReadableTo t offset '{' after ∧ after.head? ≠ some '{' ∧
        ∃ body rest, after = body ++ '}' :: rest ∧ '}' ∉ body ∧ Nameless body) := by
  simp only [tokens_eq_error_iff, problem_unmatchedClose_iff, problem_unclosed_iff,
    problem_emptyPlaceholder_iff]
  exact ⟨exists_readableTo_iff, exists_readableTo_iff, exists_readableTo_iff⟩

end Definition

end Phrasebook
