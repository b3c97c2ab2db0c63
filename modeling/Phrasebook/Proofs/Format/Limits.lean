import Mathlib.Tactic.SplitIfs
import Phrasebook.Format.Rendering

set_option autoImplicit false

/-! # What is beyond the limits

A value in the form of a directive is missing for two reasons only: the directive asks for more
digits of a double than there are to be had, or for a width that no text has room for
(`Spec.apply_eq_none_iff`, `Rendering.render?_eq_none_iff`). -/

namespace Phrasebook.Format

namespace Spec

variable {s : Spec} {fill : Char} {body : List Char}

/-- A text is shorter than the width, and padding it would take more bytes than a text has. -/
def TooWide (s : Spec) (fill : Char) (body : List Char) : Prop :=
  body.length < s.width.getD 0 ∧
    maxTextSize < (String.ofList body).utf8ByteSize +
      (s.width.getD 0 - body.length) * fill.utf8Size

theorem hasRoom_eq_false_iff :
    hasRoom body (s.width.getD 0 - body.length) fill = false ↔ s.TooWide fill body := by
  rw [hasRoom, TooWide, Bool.or_eq_false_iff, beq_eq_false_iff_ne, decide_eq_false_iff_not]
  refine and_congr ?_ Nat.not_le
  omega

theorem pad_eq_none_iff {side : Align} :
    s.pad side body = none ↔ s.TooWide (s.fill.getD ' ') body := by
  rw [← hasRoom_eq_false_iff]
  unfold pad
  dsimp only
  split_ifs with hroom
  · simp [hroom]
  · simp [hroom]

/-- What a number is padded with. -/
def numberFill (s : Spec) : Char := if s.zero then '0' else s.fill.getD ' '

theorem padNumber_eq_none_iff {sign mark digits : List Char} :
    s.padNumber sign mark digits = none ↔ s.TooWide s.numberFill (sign ++ mark ++ digits) := by
  unfold padNumber numberFill
  dsimp only
  split_ifs with hzero hroom
  · rw [← hasRoom_eq_false_iff, hroom]
    simp
  · rw [← hasRoom_eq_false_iff, Bool.eq_false_iff.2 hroom]
    simp
  · exact pad_eq_none_iff

theorem floatDigits_eq_none_iff {x : Number.Binary64} :
    s.floatDigits x = none ↔ maxPlaces < s.precision.getD 0 := by
  have hexponent : ∀ mark, exponentFloat mark s.precision x = none ↔
      maxPlaces < s.precision.getD 0 := by
    intro mark
    unfold exponentFloat
    split_ifs with hcount
    · simp [hcount]
    · simp [hcount]
  have hfixed : ∀ count, fixedFloat count x = none ↔ maxPlaces < count := by
    intro count
    unfold fixedFloat
    split_ifs with hcount
    · simp [hcount]
    · simp [hcount]
  unfold floatDigits
  split
  · exact hexponent 'e'
  · exact hexponent 'E'
  · next hprecision _ _ =>
      rw [hprecision]
      exact hfixed _
  · next hprecision _ _ => simp [hprecision]

theorem floatParts_eq_none_iff {x : Number.Binary64} :
    s.floatParts x = none ↔ x ≠ .nan ∧ maxPlaces < s.precision.getD 0 := by
  unfold floatParts
  dsimp only
  by_cases hnan : x = .nan
  · simp [hnan]
  · simp [hnan, floatDigits_eq_none_iff]

/-- A directive asks for a form of a value that there cannot be. -/
def Beyond (s : Spec) : Value → Prop
  | .integer n =>
      s.TooWide s.numberFill ((s.integerParts n).1 ++ s.radixMark ++ (s.integerParts n).2)
  | .float x =>
      (x ≠ .nan ∧ maxPlaces < s.precision.getD 0) ∨
        ∃ parts, s.floatParts x = some parts ∧ s.TooWide s.numberFill (parts.1 ++ [] ++ parts.2)
  | .text t => s.TooWide (s.fill.getD ' ') (s.cut t)
  | .display t => s.TooWide (s.fill.getD ' ') (s.cut t)

theorem apply_eq_none_iff {v : Value} : s.apply v = none ↔ s.Beyond v := by
  cases v with
  | integer n => exact padNumber_eq_none_iff
  | text t | display t => exact pad_eq_none_iff
  | float x =>
      rw [Beyond, ← floatParts_eq_none_iff]
      cases hparts : s.floatParts x with
      | none => simp [apply, hparts]
      | some parts => simp [apply, hparts, padNumber_eq_none_iff]

end Spec

namespace Rendering

/-- A rendering asks for a form of a value that there cannot be. -/
def Beyond : Rendering → Value → Prop
  | .fixedFloat count, .float _ => maxPlaces < count
  | .pattern s, v => s.Beyond v
  | _, _ => False

theorem render?_eq_none_iff {r : Rendering} {v : Value} : r.render? v = none ↔ r.Beyond v := by
  cases r with
  | pattern s => rw [render?, Beyond, Option.map_eq_none_iff, Spec.apply_eq_none_iff]
  | fixedFloat count =>
      cases v with
      | float x =>
          rw [render?, Beyond, Option.map_eq_none_iff]
          unfold Format.fixedFloat
          split_ifs with hcount
          · simp [hcount]
          · simp [hcount]
      | text | integer | display => simp [render?, Beyond]
  | passThrough | integerToText | display => simp [render?, Beyond]

theorem exists_render? {r : Rendering} {v : Value} (h : ¬ r.Beyond v) :
    ∃ text, r.render? v = some text := by
  rw [← render?_eq_none_iff] at h
  exact Option.ne_none_iff_exists'.1 h

end Rendering

end Phrasebook.Format
