set_option autoImplicit false

/-! # Texts in order

Texts are ordered by their characters, and characters by their numbers. -/

namespace Phrasebook.Text

/-- Things in the increasing order of their keys; those of equal keys stay as they are. -/
def sortedBy {α : Type} (key : α → String) (l : List α) : List α :=
  l.mergeSort fun a b => !decide (key b < key a)

/-- Texts in increasing order. -/
def sorted (l : List String) : List String := sortedBy id l

end Phrasebook.Text
