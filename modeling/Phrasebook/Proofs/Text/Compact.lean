import Mathlib.Data.List.Basic
import Phrasebook.Text.Compact

set_option autoImplicit false

/-! # Code without its layout

A text of code is made of literals and of characters outside them, in one way only (`Pieces`,
`exists_pieces`, `Pieces.unique`). Its compact form is made of the same pieces without the blank
characters (`Pieces.compactFrom`): whatever is said here of the compact form is read off from
that. -/

namespace Phrasebook.Text

/-! ## Pieces -/

/-- What a text of code is made of: characters outside literals, literals between two quotes, and
at its end a literal that nothing closes. -/
inductive Piece where
  | code (c : Char)
  | literal (contents : List Char)
  | unclosed (contents : List Char)

namespace Piece

/-- How a piece is written. -/
def text : Piece → List Char
  | .code c => [c]
  | .literal contents => '"' :: (contents ++ ['"'])
  | .unclosed contents => '"' :: contents

def isLiteral : Piece → Bool
  | .code _ => false
  | .literal _ => true
  | .unclosed _ => true

/-- The piece does not last to the end of the text, whatever follows. -/
def isClosed : Piece → Bool
  | .unclosed _ => false
  | _ => true

/-- The piece is no blank between the others. -/
def isSolid : Piece → Bool
  | .code c => !isBlank c
  | _ => true

end Piece

/-- The text of pieces, one after the other. -/
def spell (ps : List Piece) : List Char := ps.flatMap Piece.text

/-- Characters of which every quote is escaped by a backslash, and every backslash that nothing
escapes escapes another one. -/
inductive Quotable : List Char → Prop
  | nil : Quotable []
  | plain {c cs} (hquote : c ≠ '"') (hslash : c ≠ '\\') (h : Quotable cs) : Quotable (c :: cs)
  | escape {c cs} (h : Quotable cs) : Quotable ('\\' :: c :: cs)

/-- The pieces of a text. A literal that nothing closes lasts to the end of the text, where a
backslash may have nothing left to escape. -/
inductive Pieces : List Char → List Piece → Prop
  | nil : Pieces [] []
  | code {c cs ps} (hc : c ≠ '"') (h : Pieces cs ps) : Pieces (c :: cs) (.code c :: ps)
  | literal {contents cs ps} (hcontents : Quotable contents) (h : Pieces cs ps) :
      Pieces ('"' :: (contents ++ '"' :: cs)) (.literal contents :: ps)
  | unclosed {contents tail} (hcontents : Quotable contents) (htail : tail = [] ∨ tail = ['\\']) :
      Pieces ('"' :: (contents ++ tail)) [.unclosed (contents ++ tail)]

theorem Pieces.spell {cs : List Char} {ps : List Piece} (h : Pieces cs ps) :
    Text.spell ps = cs := by
  induction h with
  | nil => rfl
  | code _ _ ih => exact congrArg _ ih
  | literal _ _ ih => simpa [Text.spell, Piece.text] using ih
  | unclosed _ _ => simp [Text.spell, Piece.text]

/-! ## A text has its pieces in one way -/

/-- What may follow the contents of a literal: its quote, or the end. -/
def Ends (tail : List Char) : Prop := (∃ cs, tail = '"' :: cs) ∨ tail = [] ∨ tail = ['\\']

theorem exists_quotable : ∀ cs : List Char,
    ∃ contents tail, Quotable contents ∧ Ends tail ∧ cs = contents ++ tail
  | [] => ⟨[], [], .nil, .inr (.inl rfl), rfl⟩
  | c :: cs => by
      by_cases hquote : c = '"'
      · exact ⟨[], c :: cs, .nil, .inl ⟨cs, by rw [hquote]⟩, rfl⟩
      · by_cases hslash : c = '\\'
        · subst hslash
          cases cs with
          | nil => exact ⟨[], ['\\'], .nil, .inr (.inr rfl), rfl⟩
          | cons d cs =>
              obtain ⟨contents, tail, hcontents, htail, rfl⟩ := exists_quotable cs
              exact ⟨'\\' :: d :: contents, tail, .escape hcontents, htail, rfl⟩
        · obtain ⟨contents, tail, hcontents, htail, rfl⟩ := exists_quotable cs
          exact ⟨c :: contents, tail, .plain hquote hslash hcontents, htail, rfl⟩

theorem exists_pieces (cs : List Char) : ∃ ps, Pieces cs ps := by
  induction hlength : cs.length using Nat.strongRecOn generalizing cs with
  | _ n ih =>
      cases cs with
      | nil => exact ⟨[], .nil⟩
      | cons c cs =>
          by_cases hquote : c = '"'
          · subst hquote
            obtain ⟨contents, tail, hcontents, htail, rfl⟩ := exists_quotable cs
            rcases htail with ⟨rest, rfl⟩ | htail
            · have hless : rest.length < n := by
                simp only [List.length_cons, List.length_append] at hlength
                omega
              obtain ⟨ps, hps⟩ := ih rest.length hless rest rfl
              exact ⟨_, .literal hcontents hps⟩
            · exact ⟨_, .unclosed hcontents htail⟩
          · obtain ⟨ps, hps⟩ := ih cs.length (by simp [← hlength]) cs rfl
            exact ⟨_, .code hquote hps⟩

/-- The contents of a literal do not start as what follows them does. -/
theorem Quotable.eq_nil_of_ends {contents tail : List Char} (h : Quotable contents)
    (hends : Ends (contents ++ tail)) : contents = [] := by
  cases h with
  | nil => rfl
  | plain hquote hslash _ =>
      rcases hends with ⟨cs, heq⟩ | heq | heq
      · exact absurd (List.cons.inj heq).1 hquote
      · cases heq
      · exact absurd (List.cons.inj heq).1 hslash
  | escape _ =>
      rcases hends with ⟨cs, heq⟩ | heq | heq
      · exact absurd (List.cons.inj heq).1 (by decide)
      · cases heq
      · cases (List.cons.inj heq).2

/-- The contents of a literal end in one place only. -/
theorem Quotable.append_inj {contents contents' tail tail' : List Char}
    (h : Quotable contents) (h' : Quotable contents') (htail : Ends tail) (htail' : Ends tail')
    (heq : contents ++ tail = contents' ++ tail') : contents = contents' ∧ tail = tail' := by
  -- character by character, and by two after a backslash, until one of the two contents ends
  induction h generalizing contents' with
  | nil =>
      rw [List.nil_append] at heq
      obtain rfl := h'.eq_nil_of_ends (heq ▸ htail)
      exact ⟨rfl, heq⟩
  | @plain c cs hquote hslash hcs ih =>
      cases h' with
      | nil =>
          rw [List.nil_append] at heq
          exact absurd ((hcs.plain hquote hslash).eq_nil_of_ends (heq ▸ htail')) (by simp)
      | plain _ _ h' =>
          obtain ⟨rfl, hrest⟩ := List.cons.inj heq
          obtain ⟨rfl, rfl⟩ := ih h' hrest
          exact ⟨rfl, rfl⟩
      | escape h' => exact absurd (List.cons.inj heq).1 hslash
  | @escape c cs hcs ih =>
      cases h' with
      | nil =>
          rw [List.nil_append] at heq
          exact absurd (hcs.escape.eq_nil_of_ends (heq ▸ htail')) (by simp)
      | plain _ hslash _ => exact absurd (List.cons.inj heq).1.symm hslash
      | escape h' =>
          obtain ⟨rfl, hrest⟩ := List.cons.inj (List.cons.inj heq).2
          obtain ⟨rfl, rfl⟩ := ih h' hrest
          exact ⟨rfl, rfl⟩

namespace Pieces

variable {cs ds : List Char} {ps qs : List Piece}

/-- A text that starts with a quote starts with a literal. -/
theorem quote_cases (h : Pieces ('"' :: cs) ps) :
    ∃ contents tail, Quotable contents ∧ Ends tail ∧ cs = contents ++ tail ∧
      ((∃ rest qs, tail = '"' :: rest ∧ Pieces rest qs ∧ ps = .literal contents :: qs) ∨
        (tail = [] ∨ tail = ['\\']) ∧ ps = [.unclosed (contents ++ tail)]) := by
  generalize htext : '"' :: cs = text at h
  cases h with
  | nil => cases htext
  | code hc _ => exact absurd (List.cons.inj htext).1.symm hc
  | @literal contents rest qs hcontents hrest =>
      obtain ⟨-, rfl⟩ := List.cons.inj htext
      exact ⟨contents, _, hcontents, .inl ⟨rest, rfl⟩, rfl, .inl ⟨rest, qs, rfl, hrest, rfl⟩⟩
  | @unclosed contents tail hcontents htail =>
      obtain ⟨-, rfl⟩ := List.cons.inj htext
      exact ⟨contents, tail, hcontents, .inr htail, rfl, .inr ⟨htail, rfl⟩⟩

theorem unique (h : Pieces cs ps) (h' : Pieces cs qs) : ps = qs := by
  induction h generalizing qs with
  | nil =>
      cases h'
      rfl
  | code hc _ ih =>
      cases h' with
      | code _ h' => rw [ih h']
      | literal _ _ => exact absurd rfl hc
      | unclosed _ _ => exact absurd rfl hc
  | literal hcontents _ ih =>
      obtain ⟨contents', tail', hcontents', htail', heq, hcases⟩ := h'.quote_cases
      obtain ⟨rfl, rfl⟩ := hcontents.append_inj hcontents' (.inl ⟨_, rfl⟩) htail' heq
      rcases hcases with ⟨rest, qs, hrest, hqs, rfl⟩ | ⟨hend | hend, -⟩
      · obtain ⟨-, rfl⟩ := List.cons.inj hrest
        rw [ih hqs]
      · cases hend
      · exact absurd (List.cons.inj hend).1 (by decide)
  | unclosed hcontents htail =>
      obtain ⟨contents', tail', hcontents', htail', heq, hcases⟩ := h'.quote_cases
      obtain ⟨rfl, rfl⟩ := hcontents.append_inj hcontents' (.inr htail) htail' heq
      rcases hcases with ⟨rest, qs, hrest, -, -⟩ | ⟨-, rfl⟩
      · rcases htail with rfl | rfl
        · cases hrest
        · exact absurd (List.cons.inj hrest).1 (by decide)
      · rfl

/-! ## Texts one after the other -/

/-- What follows a text without an open literal adds its own pieces. -/
theorem append (h : Pieces cs ps) (hclosed : ∀ p ∈ ps, p.isClosed) (h' : Pieces ds qs) :
    Pieces (cs ++ ds) (ps ++ qs) := by
  induction h with
  | nil => exact h'
  | code hc _ ih => exact .code hc (ih fun p hp => hclosed p (List.mem_cons_of_mem _ hp))
  | literal hcontents _ ih =>
      have hrest := ih fun p hp => hclosed p (List.mem_cons_of_mem _ hp)
      simpa using Pieces.literal hcontents hrest
  | unclosed _ _ => exact absurd (hclosed _ List.mem_cons_self) (by simp [Piece.isClosed])

/-- The pieces at the front of a text are those of a text of their own. -/
theorem of_append (h : Pieces cs (ps ++ qs)) (hclosed : ∀ p ∈ ps, p.isClosed) :
    Pieces (Text.spell ps) ps := by
  induction ps generalizing cs with
  | nil => exact .nil
  | cons p ps ih =>
      have hrest : ∀ q ∈ ps, q.isClosed := fun q hq => hclosed q (List.mem_cons_of_mem _ hq)
      rw [List.cons_append] at h
      generalize hall : ps ++ qs = all at h
      cases h with
      | code hc h => exact .code hc (ih (hall ▸ h) hrest)
      | literal hcontents h =>
          simpa [Text.spell, Piece.text] using Pieces.literal hcontents (ih (hall ▸ h) hrest)
      | unclosed _ _ => exact absurd (hclosed _ List.mem_cons_self) (by simp [Piece.isClosed])

end Pieces

/-- The position between two parts of a text is outside literals: it lies between two pieces, and
no literal before it is still open. -/
def Outside (before after : String) : Prop :=
  ∃ ps qs, Pieces (before ++ after).toList (ps ++ qs) ∧ spell ps = before.toList ∧
    ∀ p ∈ ps, p.isClosed

/-! ## Reading on -/

namespace Position

/-- The position after several characters. -/
def afterAll (p : Position) (cs : List Char) : Position := cs.foldl (fun p c => p.after c) p

theorem afterAll_append (p : Position) (cs ds : List Char) :
    p.afterAll (cs ++ ds) = (p.afterAll cs).afterAll ds := List.foldl_append

theorem after_code {c : Char} (h : c ≠ '"') : code.after c = code := if_neg h

theorem afterAll_quotable {contents : List Char} (h : Quotable contents) :
    literal.afterAll contents = literal := by
  induction h with
  | nil => rfl
  | plain hquote hslash _ ih =>
      rw [afterAll, List.foldl_cons, after, if_neg hslash, if_neg hquote]
      exact ih
  | escape _ ih => exact ih

end Position

theorem ne_quote_of_isBlank {c : Char} (h : isBlank c) : c ≠ '"' := by
  rintro rfl
  revert h
  decide

theorem Pieces.afterAll_eq_code_iff {cs : List Char} {ps : List Piece} (h : Pieces cs ps) :
    Position.code.afterAll cs = .code ↔ ∀ p ∈ ps, p.isClosed := by
  induction h with
  | nil => simp [Position.afterAll]
  | code hc _ ih =>
      rw [List.forall_mem_cons, ← ih, Position.afterAll, List.foldl_cons, Position.after_code hc]
      simp [Piece.isClosed, Position.afterAll]
  | @literal contents cs ps hcontents _ ih =>
      have hread : Position.code.afterAll ('"' :: (contents ++ '"' :: cs)) =
          Position.code.afterAll cs := by
        show Position.literal.afterAll (contents ++ '"' :: cs) = _
        rw [Position.afterAll_append, Position.afterAll_quotable hcontents]
        rfl
      rw [hread, ih, List.forall_mem_cons]
      simp [Piece.isClosed]
  | @unclosed contents tail hcontents htail =>
      have hread : Position.code.afterAll ('"' :: (contents ++ tail)) =
          Position.literal.afterAll tail := by
        show Position.literal.afterAll (contents ++ tail) = _
        rw [Position.afterAll_append, Position.afterAll_quotable hcontents]
      rw [hread]
      rcases htail with rfl | rfl <;> simp [Piece.isClosed, Position.afterAll, Position.after]

theorem outside_iff {before after : String} :
    Outside before after ↔ Position.code.afterAll before.toList = .code := by
  constructor
  · rintro ⟨ps, qs, hpieces, hbefore, hclosed⟩
    rw [← hbefore]
    exact (hpieces.of_append hclosed).afterAll_eq_code_iff.2 hclosed
  · intro h
    obtain ⟨ps, hps⟩ := exists_pieces before.toList
    obtain ⟨qs, hqs⟩ := exists_pieces after.toList
    have hclosed := hps.afterAll_eq_code_iff.1 h
    refine ⟨ps, qs, ?_, hps.spell, hclosed⟩
    rw [String.toList_append]
    exact hps.append hclosed hqs

/-! ## Dropping blanks -/

section Steps

variable {p : Position} {c : Char} {cs : List Char}

theorem compactFrom_blank (h : isBlank c) : compactFrom .code (c :: cs) = compactFrom .code cs := by
  simp [compactFrom, h]

/-- A character that is not a blank in code is kept. -/
theorem compactFrom_cons (h : p = .code → ¬ isBlank c) :
    compactFrom p (c :: cs) = c :: compactFrom (p.after c) cs := by
  rw [compactFrom, if_neg]
  simpa using h

/-- Inside a literal every character is. -/
theorem compactFrom_cons_of_ne (h : p ≠ .code) :
    compactFrom p (c :: cs) = c :: compactFrom (p.after c) cs :=
  compactFrom_cons fun hcode => absurd hcode h

end Steps

/-- The blanks of a text are dropped regardless of what follows it. -/
theorem compactFrom_append (p : Position) (cs ds : List Char) :
    compactFrom p (cs ++ ds) = compactFrom p cs ++ compactFrom (p.afterAll cs) ds := by
  induction cs generalizing p with
  | nil => rfl
  | cons c cs ih =>
      by_cases hblank : p = .code ∧ isBlank c
      · obtain ⟨rfl, hc⟩ := hblank
        rw [List.cons_append, compactFrom_blank hc, compactFrom_blank hc, ih, Position.afterAll,
          Position.afterAll, List.foldl_cons, Position.after_code (ne_quote_of_isBlank hc)]
      · rw [not_and] at hblank
        rw [List.cons_append, compactFrom_cons hblank, compactFrom_cons hblank, ih]
        rfl

theorem compactFrom_of_isBlank {blanks : List Char} (h : blanks.all isBlank) (cs : List Char) :
    compactFrom .code (blanks ++ cs) = compactFrom .code cs := by
  induction blanks with
  | nil => rfl
  | cons c blanks ih =>
      rw [List.all_cons, Bool.and_eq_true] at h
      rw [List.cons_append, compactFrom_blank h.1, ih h.2]

/-- Nothing is dropped from the contents of a literal. -/
theorem compactFrom_quotable {contents : List Char} (h : Quotable contents) :
    compactFrom .literal contents = contents := by
  induction h with
  | nil => rfl
  | plain hquote hslash _ ih =>
      rw [compactFrom_cons_of_ne (by decide), Position.after, if_neg hslash, if_neg hquote, ih]
  | @escape c cs _ ih =>
      rw [compactFrom_cons_of_ne (by decide), compactFrom_cons_of_ne (by decide)]
      exact congrArg (fun rest => '\\' :: c :: rest) ih

/-- The pieces of the compact form are those that are no blanks. -/
theorem Pieces.compactFrom {cs : List Char} {ps : List Piece} (h : Pieces cs ps) :
    Pieces (compactFrom .code cs) (ps.filter Piece.isSolid) := by
  have hquote : ∀ ds, Text.compactFrom .code ('"' :: ds) = '"' :: Text.compactFrom .literal ds :=
    fun ds => compactFrom_cons (by decide)
  induction h with
  | nil => exact .nil
  | @code c cs ps hc _ ih =>
      by_cases hblank : isBlank c
      · rw [compactFrom_blank hblank, List.filter_cons_of_neg (by simp [Piece.isSolid, hblank])]
        exact ih
      · rw [compactFrom_cons fun _ => hblank, Position.after_code hc,
          List.filter_cons_of_pos (by simp [Piece.isSolid, hblank])]
        exact .code hc ih
  | @literal contents cs ps hcontents _ ih =>
      rw [hquote, compactFrom_append, Position.afterAll_quotable hcontents,
        compactFrom_quotable hcontents, compactFrom_cons_of_ne (by decide)]
      exact .literal hcontents ih
  | @unclosed contents tail hcontents htail =>
      have hend : Text.compactFrom .literal tail = tail := by
        rcases htail with rfl | rfl <;> rfl
      rw [hquote, compactFrom_append, Position.afterAll_quotable hcontents,
        compactFrom_quotable hcontents, hend]
      exact .unclosed hcontents htail

theorem toList_compact (s : String) : (compact s).toList = compactFrom .code s.toList :=
  String.toList_ofList

theorem compact_compact (s : String) : compact (compact s) = compact s := by
  obtain ⟨ps, hps⟩ := exists_pieces s.toList
  have honce := hps.compactFrom
  have htwice := honce.compactFrom
  rw [List.filter_filter] at htwice
  simp only [Bool.and_self] at htwice
  rw [← String.toList_inj, toList_compact, toList_compact, ← htwice.spell, ← honce.spell]

/-- A space more inside a literal, be it after a backslash, makes a difference. -/
theorem compactFrom_space_ne {p : Position} (h : p ≠ .code) (cs : List Char) :
    compactFrom p (' ' :: cs) ≠ compactFrom p cs := by
  have hliteral : ∀ ds, compactFrom .literal (' ' :: ds) ≠ compactFrom .literal ds := by
    intro ds heq
    rw [compactFrom_cons_of_ne (by decide)] at heq
    exact absurd (congrArg List.length heq) (by simp [Position.after])
  cases p with
  | code => exact absurd rfl h
  | literal => exact hliteral cs
  | escaped =>
      -- the space is what the backslash escapes now, and what it escaped before is read anew
      have hescaped : ∀ d ds, compactFrom .escaped (d :: ds) = d :: compactFrom .literal ds :=
        fun d ds => compactFrom_cons_of_ne (by decide)
      rw [hescaped]
      cases cs with
      | nil => simp [compactFrom]
      | cons c cs =>
          rw [hescaped]
          intro heq
          obtain ⟨rfl, hrest⟩ := List.cons.inj heq
          exact hliteral cs hrest

/-- Positions outside literals are those where blanks make no difference. -/
theorem outside_iff_compact {before after : String} :
    Outside before after ↔ ∀ blanks : String, blanks.toList.all isBlank →
      compact (before ++ blanks ++ after) = compact (before ++ after) := by
  rw [outside_iff]
  constructor
  · intro hcode blanks hblanks
    rw [← String.toList_inj, toList_compact, toList_compact]
    simp only [String.toList_append, List.append_assoc]
    rw [compactFrom_append, hcode, compactFrom_of_isBlank hblanks, compactFrom_append, hcode]
  · intro h
    by_contra hcode
    have hspace := h " " (by decide)
    rw [← String.toList_inj, toList_compact, toList_compact] at hspace
    simp only [String.toList_append, List.append_assoc] at hspace
    rw [compactFrom_append, compactFrom_append _ before.toList] at hspace
    exact compactFrom_space_ne hcode _ (List.append_cancel_left hspace)

/-- The compact form is its own compact form. Blanks can be inserted into a text without effect on
the compact form exactly at the positions outside literals; the end of the text is none of these if
a literal is still open there. Every text has its pieces in one way, and those of its compact form
are the same but for blanks outside literals: in particular it has the same literals, to the
letter. -/
theorem compact_ignores_layout_only :
    (∀ s, compact (compact s) = compact s) ∧
    (∀ before after, Outside before after ↔ ∀ blanks : String, blanks.toList.all isBlank →
      compact (before ++ blanks ++ after) = compact (before ++ after)) ∧
    ∀ s, ∃ ps qs, (∀ rs, Pieces s.toList rs ↔ rs = ps) ∧
      (∀ rs, Pieces (compact s).toList rs ↔ rs = qs) ∧
      qs.filter Piece.isLiteral = ps.filter Piece.isLiteral ∧ qs = ps.filter Piece.isSolid := by
  refine ⟨compact_compact, fun before after => outside_iff_compact, fun s => ?_⟩
  obtain ⟨ps, hps⟩ := exists_pieces s.toList
  have hcompact := hps.compactFrom
  rw [← toList_compact] at hcompact
  have hliterals : (ps.filter Piece.isSolid).filter Piece.isLiteral =
      ps.filter Piece.isLiteral := by
    rw [List.filter_filter]
    refine List.filter_congr fun p _ => ?_
    cases p <;> simp [Piece.isLiteral, Piece.isSolid]
  exact ⟨ps, _, fun rs => ⟨fun h => h.unique hps, fun h => h ▸ hps⟩,
    fun rs => ⟨fun h => h.unique hcompact, fun h => h ▸ hcompact⟩, hliterals, rfl⟩

/-- The front of a call, up to the end of a literal with a quote and a backslash in it. -/
def callFront : String := "f (\"a \\\" b\\\\\""

/-- The rest of the call, with a literal that nothing closes. -/
def callRest : String := " , \"c d"

/-- Between the two parts blanks can be inserted, but not at the end. -/
theorem compact_ignores_layout_call : Outside callFront callRest ∧
    compact (callFront ++ "\n\t" ++ callRest) = compact (callFront ++ callRest) ∧
    ¬ Outside (callFront ++ callRest) "" := by
  have houtside : Outside callFront callRest := outside_iff.2 (by decide +kernel)
  refine ⟨houtside, ?_, fun hend => absurd (outside_iff.1 hend) (by decide +kernel)⟩
  exact (compact_ignores_layout_only.2.1 _ _).1 houtside "\n\t" (by decide +kernel)

end Phrasebook.Text
