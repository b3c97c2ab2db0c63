import Mathlib.Data.List.Nodup
import Mathlib.Data.List.Perm.Basic
import Mathlib.Data.String.Basic
import Phrasebook.Text.Sorting

set_option autoImplicit false

/-! # Lists in increasing order

Sorting keeps the members of a list and puts them in order (`pairwise_sortedBy`), and of different
members there is only one such order: a list that increases strictly is known by its members alone
(`eq_of_pairwise_lt`). -/

namespace Phrasebook

theorem decide_not_lt {a b : String} : (!decide (b < a)) = true ↔ a ≤ b := by
  rw [Bool.not_eq_true', decide_eq_false_iff_not, not_lt]

namespace Text

/-! ## Sorting -/

section SortedBy

variable {α : Type} {key : α → String}

theorem sortedBy_perm (l : List α) : (sortedBy key l).Perm l := List.mergeSort_perm _ _

theorem pairwise_sortedBy (l : List α) :
    (sortedBy key l).Pairwise fun a b => key a ≤ key b := by
  have hsorted : (sortedBy key l).Pairwise fun a b => (!decide (key b < key a)) = true := by
    apply List.pairwise_mergeSort
    · intro a b c hab hbc
      rw [decide_not_lt] at hab hbc ⊢
      exact hab.trans hbc
    · intro a b
      rw [Bool.or_eq_true, decide_not_lt, decide_not_lt]
      exact le_total (key a) (key b)
  exact hsorted.imp decide_not_lt.1

theorem sortedBy_of_pairwise {l : List α} (h : l.Pairwise fun a b => key a ≤ key b) :
    sortedBy key l = l :=
  List.mergeSort_of_pairwise (h.imp decide_not_lt.2)

/-- Keys that are all different come out in strictly increasing order. -/
theorem pairwise_lt_sortedBy {l : List α} (h : (l.map key).Nodup) :
    (sortedBy key l).Pairwise fun a b => key a < key b := by
  have hnodup : (sortedBy key l).Pairwise fun a b => key a ≠ key b :=
    List.pairwise_map.1 (((sortedBy_perm l).map key).nodup_iff.2 h)
  exact (pairwise_sortedBy l).imp₂ (fun a b hle hne => lt_of_le_of_ne hle hne) hnodup

end SortedBy

/-- Texts that are all different come out in strictly increasing order. -/
theorem pairwise_lt_sorted {l : List String} (h : l.Nodup) : (sorted l).Pairwise (· < ·) :=
  pairwise_lt_sortedBy (by simpa using h)

end Text

/-! ## Members by their keys -/

section Keys

variable {α : Type} {key : α → String}

theorem nodup_of_pairwise_lt {as : List α} (h : as.Pairwise fun a b => key a < key b) :
    as.Nodup :=
  h.imp fun hlt heq => (heq ▸ hlt).false

/-- Lists in the order of their keys are the same if they have the same members. -/
theorem eq_of_pairwise_lt {as bs : List α} (has : as.Pairwise fun a b => key a < key b)
    (hbs : bs.Pairwise fun a b => key a < key b) (h : ∀ a, a ∈ as ↔ a ∈ bs) : as = bs := by
  have hperm : as.Perm bs :=
    (List.perm_ext_iff_of_nodup (nodup_of_pairwise_lt has) (nodup_of_pairwise_lt hbs)).2 h
  exact hperm.eq_of_pairwise (fun a b _ _ hab hba => absurd hab hba.asymm) has hbs

/-- In a list in the order of its keys, a key belongs to one member. -/
theorem eq_of_key_eq {as : List α} (has : as.Pairwise fun a b => key a < key b) {a b : α}
    (ha : a ∈ as) (hb : b ∈ as) (h : key a = key b) : a = b := by
  have hnodup : (as.map key).Nodup := List.pairwise_map.2 (has.imp fun hlt => hlt.ne)
  exact List.inj_on_of_nodup_map hnodup ha hb h

end Keys

end Phrasebook
