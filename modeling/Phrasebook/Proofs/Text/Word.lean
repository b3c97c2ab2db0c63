import Mathlib
import Phrasebook.Proofs.Text.Identifier

set_option autoImplicit false

/-! # Two ways to join the words of a name

Words joined by underscores can be told apart again, but capitalised words that are joined directly
cannot: a digit has no capital form, so that it does not show where its word starts. Where every
word starts with a letter of ASCII, the capitals do show it, and two names that are joined to the
same capitalised name are joined to the same name with underscores
(`snakeCase_eq_of_camelCase_eq`).

The other result is that a name of small letters is its own name with underscores
(`snakeCase_of_isLower`). -/

namespace Phrasebook.Text

/-! ## Letters of ASCII -/

theorem toNat_lt_of_isAlphanum {c : Char} (h : c.isAlphanum) : c.toNat < 128 := by
  simp only [Char.isAlphanum, Char.isAlpha, Char.isUpper, Char.isLower, Char.isDigit,
    Bool.or_eq_true, Bool.and_eq_true, decide_eq_true_eq, ge_iff_le, UInt32.le_iff_toNat_le] at h
  show c.val.toNat < 128
  rcases h with (⟨-, h⟩ | ⟨-, h⟩) | ⟨-, h⟩ <;> exact Nat.lt_of_le_of_lt h (by decide)

theorem toLowercase_of_isAlphanum {c : Char} (h : c.isAlphanum) : toLowercase c = [c.toLower] := by
  rw [toLowercase, if_pos (toNat_lt_of_isAlphanum h)]

theorem lowerWord_of_isAlphanum {w : List Char} (h : ∀ c ∈ w, c.isAlphanum) :
    lowerWord w = w.map Char.toLower := by
  induction w with
  | nil => rfl
  | cons c w ih =>
      rw [List.forall_mem_cons] at h
      cases w with
      | nil =>
          have hsigma : c ≠ 'Σ' := by
            rintro rfl
            exact absurd h.1 (by decide)
          rw [lowerWord, if_neg hsigma, toLowercase_of_isAlphanum h.1]
          rfl
      | cons d w =>
          rw [lowerWord, ih h.2, toLowercase_of_isAlphanum h.1]
          · rfl
          · simp

/-! ## Capitals show where words start -/

/-- Blocks that each start with a marked element, and have no other, can be told apart. -/
theorem eq_of_flatten_eq {α : Type} {p : α → Bool} {xs ys : List (List α)}
    (hxs : ∀ x ∈ xs, ∃ a as, x = a :: as ∧ p a ∧ ∀ b ∈ as, p b = false)
    (hys : ∀ y ∈ ys, ∃ a as, y = a :: as ∧ p a ∧ ∀ b ∈ as, p b = false)
    (h : xs.flatten = ys.flatten) : xs = ys := by
  -- Up to the next marked element there is the rest of the first block.
  have hrest : ∀ {as : List α} {zs : List (List α)}, (∀ b ∈ as, p b = false) →
      (∀ z ∈ zs, ∃ a as, z = a :: as ∧ p a ∧ ∀ b ∈ as, p b = false) →
      (as ++ zs.flatten).takeWhile (!p ·) = as := by
    intro as zs has hzs
    rw [List.takeWhile_append_of_pos (by simpa using has)]
    cases zs with
    | nil => simp
    | cons z zs =>
        obtain ⟨a, as', rfl, ha, -⟩ := hzs z List.mem_cons_self
        simp [ha]
  induction xs generalizing ys with
  | nil =>
      cases ys with
      | nil => rfl
      | cons y ys =>
          obtain ⟨a, as, rfl, -⟩ := hys y List.mem_cons_self
          cases h
  | cons x xs ih =>
      obtain ⟨a, as, rfl, -, has⟩ := hxs x List.mem_cons_self
      cases ys with
      | nil => cases h
      | cons y ys =>
          obtain ⟨b, bs, rfl, -, hbs⟩ := hys y List.mem_cons_self
          rw [List.forall_mem_cons] at hxs hys
          rw [List.flatten_cons, List.flatten_cons, List.cons_append, List.cons_append,
            List.cons.injEq] at h
          obtain ⟨rfl, h⟩ := h
          have hsame : as = bs := by
            rw [← hrest has hxs.2, h, hrest hbs hys.2]
          subst hsame
          rw [ih hxs.2 hys.2 (List.append_cancel_left h)]

/-- A letter of ASCII and then letters and digits of ASCII. -/
def isLetterWord : List Char → Bool
  | [] => false
  | c :: cs => c.isAlpha && cs.all Char.isAlphanum

/-- All words of a name start with a letter. -/
def isLettered (name : String) : Bool := (words name.toList).all isLetterWord

theorem capitalWord_of_isLetterWord {w : List Char} (h : isLetterWord w) :
    ∃ c cs, capitalWord w = c :: cs ∧ c.isUpper ∧ ∀ d ∈ cs, d.isUpper = false := by
  cases w with
  | nil => cases h
  | cons c cs =>
      simp only [isLetterWord, Bool.and_eq_true, List.all_eq_true] at h
      have hc : c.isAlphanum := by simp [Char.isAlphanum, h.1]
      refine ⟨c.toUpper, cs.map Char.toLower, ?_, ?_, ?_⟩
      · rw [capitalWord, lowerWord_of_isAlphanum h.2, toUppercase,
          if_pos (toNat_lt_of_isAlphanum hc)]
        rfl
      · rw [Char.isUpper_toUpper_eq_isAlpha]
        exact h.1
      · intro d hd
        obtain ⟨e, -, rfl⟩ := List.mem_map.1 hd
        exact Char.isUpper_toLower_eq_false e

/-- The word in lower case is the capitalised word in lower case. -/
theorem map_toLower_capitalWord {w : List Char} (h : isLetterWord w) :
    (capitalWord w).map Char.toLower = lowerWord w := by
  cases w with
  | nil => cases h
  | cons c cs =>
      simp only [isLetterWord, Bool.and_eq_true, List.all_eq_true] at h
      have hc : c.isAlphanum := by simp [Char.isAlphanum, h.1]
      have hall : ∀ d ∈ c :: cs, d.isAlphanum := List.forall_mem_cons.2 ⟨hc, h.2⟩
      rw [lowerWord_of_isAlphanum hall, capitalWord, lowerWord_of_isAlphanum h.2, toUppercase,
        if_pos (toNat_lt_of_isAlphanum hc)]
      simp

theorem snakeCase_eq_of_camelCase_eq {a b : String} (ha : isLettered a) (hb : isLettered b)
    (h : camelCase a = camelCase b) : snakeCase a = snakeCase b := by
  rw [isLettered, List.all_eq_true] at ha hb
  have hcapital : (words a.toList).map capitalWord = (words b.toList).map capitalWord := by
    refine eq_of_flatten_eq (p := Char.isUpper) ?_ ?_ ?_
    · intro x hx
      obtain ⟨w, hw, rfl⟩ := List.mem_map.1 hx
      exact capitalWord_of_isLetterWord (ha w hw)
    · intro y hy
      obtain ⟨w, hw, rfl⟩ := List.mem_map.1 hy
      exact capitalWord_of_isLetterWord (hb w hw)
    · rw [← List.flatMap_def, ← List.flatMap_def]
      exact String.ofList_injective h
  have hlower : ∀ {ws : List (List Char)}, (∀ w ∈ ws, isLetterWord w) →
      ws.map lowerWord = (ws.map capitalWord).map (·.map Char.toLower) := by
    intro ws hws
    rw [List.map_map]
    exact List.map_congr_left fun w hw => (map_toLower_capitalWord (hws w hw)).symm
  rw [snakeCase, snakeCase, hlower ha, hlower hb, hcapital]

/-! ## Names of small letters -/

theorem isAlphanum_of_isLower {c : Char} (h : c.isLower) : c.isAlphanum := by
  simp [Char.isAlphanum, Char.isAlpha, h]

theorem isUppercase_of_isLower {c : Char} (h : c.isLower) : isUppercase c = false := by
  rw [isUppercase, if_pos (toNat_lt_of_isAlphanum (isAlphanum_of_isLower h))]
  exact Bool.eq_false_iff.2 (Char.not_isUpper_of_isLower h)

theorem runs_of_forall {keep : Char → Bool} {c : Char} {cs : List Char}
    (h : ∀ d ∈ c :: cs, keep d) : runs keep (c :: cs) = [c :: cs] := by
  induction cs generalizing c with
  | nil =>
      rw [List.forall_mem_singleton] at h
      simp [runs, h]
  | cons d cs ih =>
      rw [List.forall_mem_cons] at h
      unfold runs
      rw [if_pos h.1, ih h.2]
      simp [h.2 d List.mem_cons_self]

theorem cutCase_of_isLower {s : LastCase} {word : List Char} {c : Char} {cs : List Char}
    (h : ∀ d ∈ c :: cs, d.isLower) : cutCase s word (c :: cs) = [word.reverse ++ c :: cs] := by
  induction cs generalizing s word c with
  | nil => simp [cutCase]
  | cons d cs ih =>
      rw [List.forall_mem_cons] at h
      have hc := isUppercase_of_isLower h.1
      have hd := isUppercase_of_isLower (h.2 d List.mem_cons_self)
      rw [cutCase, hd, hc]
      simp only [Bool.and_false, Bool.false_and, Bool.false_eq_true, if_false]
      rw [ih h.2]
      simp

theorem snakeCase_of_isLower {cs : List Char} (hne : cs ≠ []) (h : ∀ c ∈ cs, c.isLower) :
    snakeCase (String.ofList cs) = String.ofList cs := by
  obtain ⟨c, cs, rfl⟩ := List.exists_cons_of_ne_nil hne
  have hletter : ∀ d ∈ c :: cs, isAlphanumeric d := by
    intro d hd
    have hd := isAlphanum_of_isLower (h d hd)
    rw [isAlphanumeric, if_pos (toNat_lt_of_isAlphanum hd)]
    exact hd
  have hlower : (c :: cs).map Char.toLower = c :: cs := by
    refine (List.map_congr_left fun d hd => ?_).trans (List.map_id _)
    exact Char.toLower_eq_of_not_isUpper (Char.not_isUpper_of_isLower (h d hd))
  have hwords : words (c :: cs) = [c :: cs] := by
    rw [words, runs_of_forall hletter, List.flatMap_singleton, cutCase_of_isLower h]
    rfl
  rw [snakeCase, String.toList_ofList, hwords, List.map_singleton,
    lowerWord_of_isAlphanum fun d hd => isAlphanum_of_isLower (h d hd), hlower]
  simp

end Phrasebook.Text
