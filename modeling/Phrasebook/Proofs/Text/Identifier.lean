import Mathlib.Data.List.TakeWhile
import Phrasebook.Text.Blank
import Phrasebook.Text.Identifier
import Phrasebook.Text.Word

set_option autoImplicit false

/-! # Identifiers and names in lower case

A name made of words in lower case never starts with an underscore (`snakeCase_head?_ne`), while an
underscore may be put in front of any identifier (`isIdentifier_underscore`): so the names with an
underscore in front and those without are kept apart.

What is said of characters outside ASCII is checked on the tables. Their spans are in order, so
that one pass over two tables shows that the one lies in the other (`leftover`). -/

namespace Phrasebook.Text

/-! ## Tables side by side -/

/-- All of `s` lies between the bounds of `t`, which leaves nothing out. -/
def Span.covers (t s : Span) : Bool :=
  Nat.ble t.first s.first && Nat.ble s.last t.last && Nat.beq t.step 1

theorem Span.contains_of_covers {s t : Span} (h : t.covers s) {n : Nat} (hn : s.contains n) :
    t.contains n := by
  simp only [covers, Bool.and_eq_true, Nat.ble_eq, Nat.beq_eq] at h
  simp only [contains, Bool.and_eq_true, decide_eq_true_eq] at hn
  obtain ⟨⟨hfirst, hlast⟩, hstep⟩ := h
  simp only [contains, Bool.and_eq_true, decide_eq_true_eq, hstep, Nat.mod_one, beq_self_eq_true,
    and_true]
  omega

/-- The spans that are left of `ss` when, one after another, each of `ts` has taken those it covers
from the front. -/
def leftover (ss : List Span) : List Span → List Span
  | [] => ss
  | t :: ts => leftover (ss.dropWhile t.covers) ts

theorem mem_leftover_or_covered {s : Span} (ts : List Span) {ss : List Span} (hs : s ∈ ss) :
    s ∈ leftover ss ts ∨ ∃ t ∈ ts, t.covers s := by
  induction ts generalizing ss with
  | nil => exact .inl hs
  | cons t ts ih =>
      rw [← List.takeWhile_append_dropWhile (p := t.covers) (l := ss), List.mem_append] at hs
      rcases hs with hs | hs
      · exact .inr ⟨t, List.mem_cons_self, List.mem_takeWhile_imp hs⟩
      · rcases ih hs with hleft | ⟨t', ht', hcovers⟩
        · exact .inl hleft
        · exact .inr ⟨t', List.mem_cons_of_mem _ ht', hcovers⟩

theorem CharSet.contains_of_leftover {a b : CharSet} (h : (leftover a.spans b.spans).isEmpty)
    {c : Char} (hc : a.contains c) : b.contains c := by
  simp only [contains, List.any_eq_true] at hc ⊢
  obtain ⟨s, hs, hcs⟩ := hc
  rcases mem_leftover_or_covered b.spans hs with hleft | ⟨t, ht, hcovers⟩
  · rw [List.isEmpty_iff.1 h] at hleft
    cases hleft
  · exact ⟨t, ht, Span.contains_of_covers hcovers hcs⟩

/-! ## Characters of identifiers -/

/-- What can be checked for the characters of ASCII one by one. -/
theorem of_ascii {P : Char → Prop} (h : ∀ n < 128, P (Char.ofNat n)) {c : Char}
    (hc : c.toNat < 128) : P c := by
  have hP := h c.toNat hc
  rwa [Char.ofNat_toNat] at hP

theorem identifierStartTable_subset :
    (leftover identifierStartTable.spans identifierContinueTable.spans).isEmpty := by
  decide +kernel

theorem isIdentifierContinue_of_isIdentifierStart {c : Char} (h : isIdentifierStart c) :
    isIdentifierContinue c := by
  unfold isIdentifierStart at h
  unfold isIdentifierContinue
  by_cases hascii : c.toNat < 128
  · rw [if_pos hascii] at h ⊢
    simp only [Char.isAlphanum, Bool.or_eq_true] at h ⊢
    exact h.imp_left .inl
  · rw [if_neg hascii] at h ⊢
    exact CharSet.contains_of_leftover identifierStartTable_subset h

/-- The spans of blanks outside ASCII, of the marks of direction and of the byte order mark. -/
def blankSpans : List (Nat × Nat) :=
  [(0x85, 0x85), (0xA0, 0xA0), (0x1680, 0x1680), (0x2000, 0x200A), (0x200E, 0x200F),
   (0x2028, 0x2029), (0x202F, 0x202F), (0x205F, 0x205F), (0x3000, 0x3000), (0xFEFF, 0xFEFF)]

theorem identifierStartTable_apart : identifierStartTable.spans.all (fun s =>
    blankSpans.all fun b => Nat.blt s.last b.1 || Nat.blt b.2 s.first) := by
  decide +kernel

theorem not_mem_blankSpans {c : Char} (h : isIdentifierStart c) (hascii : ¬ c.toNat < 128) :
    ∀ b ∈ blankSpans, ¬(b.1 ≤ c.toNat ∧ c.toNat ≤ b.2) := by
  rintro b hb ⟨hfirst, hlast⟩
  rw [isIdentifierStart, if_neg hascii, CharSet.contains, List.any_eq_true] at h
  obtain ⟨s, hs, hcs⟩ := h
  have hapart := List.all_eq_true.1 (List.all_eq_true.1 identifierStartTable_apart s hs) b hb
  simp only [Span.contains, Bool.and_eq_true, decide_eq_true_eq] at hcs
  simp only [Bool.or_eq_true, Nat.blt_eq] at hapart
  omega

/-- An identifier does not start with something that a reader would pass over. -/
theorem not_blank_of_isIdentifierStart {c : Char} (h : isIdentifierStart c) :
    isBlank c = false ∧ c ≠ '\u200e' ∧ c ≠ '\u200f' ∧ c ≠ '\ufeff' := by
  by_cases hascii : c.toNat < 128
  · have hcheck : ∀ n < 128, isIdentifierStart (Char.ofNat n) →
        isBlank (Char.ofNat n) = false ∧ Char.ofNat n ≠ '\u200e' ∧ Char.ofNat n ≠ '\u200f' ∧
          Char.ofNat n ≠ '\ufeff' := by decide
    exact of_ascii (P := fun c => isIdentifierStart c → isBlank c = false ∧ c ≠ '\u200e' ∧
      c ≠ '\u200f' ∧ c ≠ '\ufeff') hcheck hascii h
  · have hspans := not_mem_blankSpans h hascii
    simp only [blankSpans, List.forall_mem_cons, List.not_mem_nil, false_imp_iff, implies_true,
      and_true] at hspans
    refine ⟨?_, ?_, ?_, ?_⟩
    · by_contra hblank
      simp only [isBlank, Bool.not_eq_false, Bool.or_eq_true, Bool.and_eq_true, decide_eq_true_eq,
        beq_iff_eq] at hblank
      omega
    · rintro rfl
      exact absurd hspans (by decide)
    · rintro rfl
      exact absurd hspans (by decide)
    · rintro rfl
      exact absurd hspans (by decide)

/-! ## Identifiers -/

/-- An identifier is a start and more characters. -/
theorem isWordShaped_eq_true {name : String} (h : isWordShaped name) :
    ∃ c cs, name.toList = c :: cs ∧ isIdentifierStart c ∧ ∀ d ∈ cs, isIdentifierContinue d := by
  unfold isWordShaped at h
  split at h
  · cases h
  · next c cs heq =>
      rw [Bool.and_eq_true, List.all_eq_true] at h
      exact ⟨c, cs, heq, h.1, h.2⟩

theorem isWordShaped_of_isIdentifier {name : String} (h : isIdentifier name) :
    isWordShaped name := by
  unfold isIdentifier at h
  simp only [Bool.and_eq_true] at h
  exact h.1.1

theorem isIdentifier_of_isWordShaped {name : String} (h : isWordShaped name) (hne : name ≠ "_")
    (hfree : name ∉ reservedWords) : isIdentifier name := by
  unfold isIdentifier
  simp [h, hne, hfree]

theorem isWordShaped_of_toList {name : String} {c : Char} {cs : List Char}
    (h : name.toList = c :: cs) (hstart : isIdentifierStart c)
    (hcontinue : ∀ d ∈ cs, isIdentifierContinue d) : isWordShaped name := by
  unfold isWordShaped
  rw [h]
  simpa [hstart] using hcontinue

/-- A long name is not a word of the language. -/
theorem isIdentifier_of_length {name : String} (h : isWordShaped name) (hlength : 8 < name.length) :
    isIdentifier name := by
  refine isIdentifier_of_isWordShaped h ?_ fun hmem => ?_
  · rintro rfl
    exact absurd hlength (by decide)
  · have hshort : ∀ w ∈ reservedWords, w.length ≤ 8 := by decide
    exact Nat.not_le.2 hlength (hshort name hmem)

/-- An identifier stays one with an underscore in front. -/
theorem isIdentifier_underscore {name : String} (h : isIdentifier name) :
    isIdentifier ("_" ++ name) := by
  obtain ⟨c, cs, hname, hstart, hcontinue⟩ := isWordShaped_eq_true (isWordShaped_of_isIdentifier h)
  have hlist : ("_" ++ name).toList = '_' :: c :: cs := by
    rw [String.toList_append, hname]
    rfl
  refine isIdentifier_of_isWordShaped (isWordShaped_of_toList hlist (by decide) ?_) ?_ ?_
  · exact List.forall_mem_cons.2 ⟨isIdentifierContinue_of_isIdentifierStart hstart, hcontinue⟩
  · intro heq
    rw [heq] at hlist
    cases hlist
  · intro hmem
    have hreserved : ∀ w ∈ reservedWords, w.toList.head? ≠ some '_' := by decide
    exact hreserved _ hmem (by rw [hlist]; rfl)

/-! ## Names in lower case -/

theorem forall_mem_runs {keep : Char → Bool} {cs : List Char} :
    ∀ r ∈ runs keep cs, ∀ c ∈ r, keep c := by
  induction cs with
  | nil => simp [runs]
  | cons c cs ih =>
      unfold runs
      by_cases hc : keep c
      · rw [if_pos hc]
        split
        · next d _ r rs hruns =>
            rw [hruns] at ih
            by_cases hd : keep d
            · rw [List.forall_mem_cons] at ih
              rw [if_pos hd, List.forall_mem_cons, List.forall_mem_cons]
              exact ⟨⟨hc, ih.1⟩, ih.2⟩
            · rw [if_neg hd, List.forall_mem_cons]
              exact ⟨by simpa using hc, ih⟩
        · rw [List.forall_mem_cons]
          exact ⟨by simpa using hc, ih⟩
      · rw [if_neg hc]
        exact ih

/-- A run is cut into words that are not empty and have no other characters. A word that nothing
has been read of yet has no case. -/
theorem forall_mem_cutCase {keep : Char → Bool} :
    ∀ {s : LastCase} {word cs : List Char}, (word = [] → s = .uncased) →
      (∀ c ∈ word, keep c) → (∀ c ∈ cs, keep c) →
      ∀ w ∈ cutCase s word cs, w ≠ [] ∧ ∀ c ∈ w, keep c := by
  intro s word cs
  induction s, word, cs using cutCase.induct with
  | case1 s word hempty => simp [cutCase, hempty]
  | case2 s word hempty =>
      intro _ hword _ w hw
      simp only [cutCase, hempty, Bool.false_eq_true, if_false, List.mem_singleton] at hw
      subst hw
      exact ⟨by simpa using hempty, by simpa using hword⟩
  | case3 s word c =>
      intro _ hword hcs w hw
      simp only [cutCase, List.mem_singleton] at hw
      subst hw
      refine ⟨by simp, fun d hd => ?_⟩
      rw [List.mem_reverse] at hd
      rcases List.mem_cons.1 hd with rfl | hd
      · exact hcs d List.mem_cons_self
      · exact hword d hd
  | case4 s word c d cs hcut ih =>
      intro _ hword hcs
      rw [List.forall_mem_cons] at hcs
      rw [cutCase, if_pos hcut, List.forall_mem_cons]
      refine ⟨⟨by simp, fun x hx => ?_⟩, ih (fun _ => rfl) (by simp) hcs.2⟩
      rw [List.mem_reverse] at hx
      rcases List.mem_cons.1 hx with rfl | hx
      · exact hcs.1
      · exact hword x hx
  | case5 s word c d cs hcut hupper ih =>
      intro hstate hword hcs
      rw [List.forall_mem_cons] at hcs
      rw [cutCase, if_neg hcut, if_pos hupper, List.forall_mem_cons]
      refine ⟨⟨fun hnil => ?_, by simpa using hword⟩, ih (by simp) (by simpa using hcs.1) hcs.2⟩
      -- The word is cut before `c` only if it has a case, and then it is not empty.
      rw [hstate (List.reverse_eq_nil_iff.1 hnil)] at hupper
      simp at hupper
  | case6 s word c d cs hcut hupper ih =>
      intro _ hword hcs
      rw [List.forall_mem_cons] at hcs
      rw [cutCase, if_neg hcut, if_neg hupper]
      exact ih (by simp) (List.forall_mem_cons.2 ⟨hcs.1, hword⟩) hcs.2

theorem forall_mem_words {name : List Char} :
    ∀ w ∈ words name, w ≠ [] ∧ ∀ c ∈ w, isAlphanumeric c := by
  intro w hw
  obtain ⟨r, hr, hw⟩ := List.mem_flatMap.1 hw
  exact forall_mem_cutCase (fun _ => rfl) (by simp) (forall_mem_runs r hr) w hw

theorem lowerTable_above : lowerTable.shifts.all (fun s => Nat.ble 0x60 s.2) := by
  decide +kernel

theorem ofNat_ne_underscore {n : Nat} (h : 0x60 ≤ n) : Char.ofNat n ≠ '_' := by
  by_cases hvalid : n.isValidChar
  · rw [Char.ofNat, dif_pos hvalid]
    intro heq
    have hnat : n = 0x5F := congrArg Char.toNat heq
    omega
  · rw [Char.ofNat, dif_neg hvalid]
    decide

/-- Lower case does not turn anything into an underscore. -/
theorem toLowercase_head? {c : Char} (h : isAlphanumeric c) :
    ∃ d ds, toLowercase c = d :: ds ∧ d ≠ '_' := by
  unfold toLowercase
  by_cases hascii : c.toNat < 128
  · rw [if_pos hascii]
    rw [isAlphanumeric, if_pos hascii] at h
    have hcheck : ∀ n < 128, (Char.ofNat n).isAlphanum → (Char.ofNat n).toLower ≠ '_' := by decide
    exact ⟨_, _, rfl, of_ascii (P := fun c => c.isAlphanum → c.toLower ≠ '_') hcheck hascii h⟩
  · rw [if_neg hascii]
    split_ifs
    · exact ⟨_, _, rfl, by decide⟩
    · refine ⟨_, _, rfl, ?_⟩
      unfold CaseMap.apply
      split
      · next s target heq =>
          have habove := List.all_eq_true.1 lowerTable_above _ (List.mem_of_find?_eq_some heq)
          rw [Nat.ble_eq] at habove
          exact ofNat_ne_underscore (by omega)
      · rintro rfl
        exact hascii (by decide)

theorem lowerWord_head? {w : List Char} (hne : w ≠ []) (h : ∀ c ∈ w, isAlphanumeric c) :
    ∃ d ds, lowerWord w = d :: ds ∧ d ≠ '_' := by
  obtain ⟨c, cs, rfl⟩ := List.exists_cons_of_ne_nil hne
  obtain ⟨d, ds, hd, hdne⟩ := toLowercase_head? (h c List.mem_cons_self)
  cases cs with
  | nil =>
      rw [lowerWord]
      split_ifs
      · exact ⟨_, _, rfl, by decide⟩
      · exact ⟨d, ds, hd, hdne⟩
  | cons c' cs =>
      rw [lowerWord, hd]
      · exact ⟨d, _, rfl, hdne⟩
      · simp

/-- A name in lower case does not start with an underscore. -/
theorem snakeCase_head?_ne (name : String) : (snakeCase name).toList.head? ≠ some '_' := by
  rw [snakeCase, String.toList_ofList]
  cases hwords : words name.toList with
  | nil => simp [List.intercalate]
  | cons w ws =>
      have hw := forall_mem_words w (by rw [hwords]; exact List.mem_cons_self)
      obtain ⟨d, ds, hd, hdne⟩ := lowerWord_head? hw.1 hw.2
      cases ws with
      | nil => simpa [List.intercalate, hd] using hdne
      | cons w' ws => simpa [List.intercalate, hd] using hdne

end Phrasebook.Text
