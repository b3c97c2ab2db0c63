import Phrasebook.Format.Spec
import Phrasebook.Proofs.Number.Numeral
import Phrasebook.Proofs.Results

set_option autoImplicit false

/-! # Directives as they are spelled

A directive is a row of optional fields, and `Spelling` has them as they are written: numbers are
rows of digits, with leading zeros and of any length. The texts that are read as a directive are
exactly the spellings whose precision fits 64 bits (`parse_eq_ok_iff`), and what is read is each
field, with the value of its digits (`Spelling.spec`).

The width of a directive is kept if its digits fit 64 bits too. If they do not, it is read as if it
were not there, and only then the normal form is not the spelling with its digits in canonical form
(`text_eq_canonical_iff`). -/

namespace Phrasebook.Format

open Number

/-! ## Fields -/

theorem Align.eq_toChar_of_ofChar? {c : Char} {a : Align} (h : ofChar? c = some a) :
    c = a.toChar := by
  unfold ofChar? at h
  split at h <;> cases h <;> rfl

@[simp] theorem Align.ofChar?_toChar (a : Align) : ofChar? a.toChar = some a := by
  cases a <;> rfl

/-- The characters of a directive from its width on. -/
def isNumeric (c : Char) : Bool := c.isDigit || ['.', 'x', 'X', 'o', 'b', 'e', 'E'].contains c

/-- The characters of a directive after its alignment. -/
def isPlain (c : Char) : Bool := isNumeric c || c == '+' || c == '#'

theorem ofChar?_eq_none_of_isPlain {c : Char} (h : isPlain c) : Align.ofChar? c = none := by
  cases hc : Align.ofChar? c with
  | none => rfl
  | some a =>
      rw [Align.eq_toChar_of_ofChar? hc] at h
      cases a <;> cases h

namespace Spec

/-- The number of a row of digits fits 64 bits. -/
def Fits (ds : List Char) : Prop := valueOf ds < 2 ^ 64

instance : DecidablePred Fits := fun ds => inferInstanceAs (Decidable (valueOf ds < 2 ^ 64))

/-- The number that a row of digits stands for, if there are any and it fits. -/
def number? (ds : List Char) : Option Nat :=
  if ds ≠ [] ∧ Fits ds then some (valueOf ds) else none

@[simp] theorem number?_nil : number? [] = none := rfl

theorem number?_of_fits {ds : List Char} (hne : ds ≠ []) (h : Fits ds) :
    number? ds = some (valueOf ds) :=
  if_pos ⟨hne, h⟩

theorem number?_of_not_fits {ds : List Char} (h : ¬ Fits ds) : number? ds = none :=
  if_neg fun hds => h hds.2

/-- The text of a flag. -/
def flag (c : Char) (b : Bool) : List Char := if b then [c] else []

theorem readFlag_eq_iff {c : Char} {cs rest : List Char} {b : Bool} :
    readFlag c cs = (b, rest) ↔ cs = flag c b ++ rest ∧ (b = false → rest.head? ≠ some c) := by
  unfold flag
  cases cs with
  | nil =>
      cases b with
      | true => simp [readFlag]
      | false =>
          simp only [readFlag, Prod.mk.injEq, true_and, Bool.false_eq_true, if_false,
            List.nil_append, forall_const]
          constructor
          · rintro rfl
            simp
          · rintro ⟨rfl, -⟩
            rfl
  | cons d cs =>
      by_cases hd : d = c
      · subst hd
        cases b with
        | true => simp [readFlag]
        | false =>
            simp only [readFlag, if_true, Prod.mk.injEq, Bool.true_eq_false, false_and,
              Bool.false_eq_true, if_false, List.nil_append, forall_const, false_iff, not_and]
            rintro rfl
            simp
      · cases b with
        | true => simp [readFlag, hd]
        | false =>
            simp only [readFlag, hd, if_false, Prod.mk.injEq, true_and, Bool.false_eq_true,
              List.nil_append, forall_const]
            constructor
            · rintro rfl
              simpa using hd
            · exact fun h => h.1

theorem readNumber_eq {cs ds rest : List Char} (h : spanDigits cs = (ds, rest)) :
    readNumber cs = (number? ds, rest) := by
  have hiff : (ds.isEmpty || 0x10000000000000000 ≤ valueOf ds) ↔ ¬(ds ≠ [] ∧ Fits ds) := by
    rw [Bool.or_eq_true, List.isEmpty_iff, decide_eq_true_eq, Fits, not_and_or, not_not, not_lt]
    rfl
  simp only [readNumber, h, number?, hiff, ite_not]

/-- The text of a fill and an alignment. -/
def front (fill : Option Char) : Option Align → List Char
  | some a => fill.toList ++ [a.toChar]
  | none => []

theorem readAlign_append {fill : Option Char} {align : Option Align} {rest : List Char}
    (hfill : ∀ c ∈ fill, align.isSome ∧ c ≠ '{' ∧ c ≠ '}') (hrest : ∀ c ∈ rest, isPlain c) :
    readAlign (front fill align ++ rest) = .ok (fill, align, rest) := by
  have hnone : ∀ c ∈ rest, Align.ofChar? c = none := fun c hc =>
    ofChar?_eq_none_of_isPlain (hrest c hc)
  cases align with
  | none =>
      have hfill : fill = none := by
        cases fill with
        | none => rfl
        | some c => simpa using (hfill c rfl).1
      subst hfill
      rcases rest with _ | ⟨c, _ | ⟨d, cs⟩⟩
      · rfl
      · simp [front, readAlign, hnone c]
      · simp [front, readAlign, hnone c, hnone d]
  | some a =>
      cases fill with
      | some c =>
          obtain ⟨-, hopen, hclose⟩ := hfill c rfl
          simp [front, readAlign, hopen, hclose]
      | none =>
          rcases rest with _ | ⟨d, cs⟩
          · simp [front, readAlign]
          · simp [front, readAlign, hnone d]

theorem of_readAlign {raw cs : List Char} {fill : Option Char} {align : Option Align}
    (h : readAlign raw = .ok (fill, align, cs)) :
    raw = front fill align ++ cs ∧ ∀ c ∈ fill, align.isSome ∧ c ≠ '{' ∧ c ≠ '}' := by
  rcases raw with _ | ⟨c, _ | ⟨d, rest⟩⟩
  · cases h
    simp [front]
  · cases hc : Align.ofChar? c with
    | none =>
        simp only [readAlign, hc] at h
        cases h
        simp [front]
    | some a =>
        simp only [readAlign, hc] at h
        cases h
        simp [front, Align.eq_toChar_of_ofChar? hc]
  · cases hd : Align.ofChar? d with
    | some a =>
        by_cases hbrace : c = '{' ∨ c = '}'
        · simp [readAlign, hd, hbrace] at h
        · simp only [readAlign, hd, Bool.or_eq_true, decide_eq_true_eq, hbrace, if_false] at h
          cases h
          simpa [front, Align.eq_toChar_of_ofChar? hd] using hbrace
    | none =>
        cases hc : Align.ofChar? c with
        | none =>
            simp only [readAlign, hc, hd] at h
            cases h
            simp [front]
        | some a =>
            simp only [readAlign, hc, hd] at h
            cases h
            simp [front, Align.eq_toChar_of_ofChar? hc]

/-- The text of a precision. -/
def point : Option (List Char) → List Char
  | some ds => '.' :: ds
  | none => []

theorem readKind_eq_ok_iff {cs : List Char} {k : Kind} : readKind cs = .ok k ↔ cs = k.text := by
  constructor
  · intro h
    unfold readKind at h
    split at h
    · cases h
    · unfold Kind.ofText? at h
      split at h
      · next hk =>
          split at hk <;> cases hk <;> cases h <;> rfl
      · cases h
  · rintro rfl
    cases k <;> rfl

theorem readPrecision_of_head {c : Char} {cs : List Char} (h : c ≠ '.') :
    readPrecision (c :: cs) = .ok (none, c :: cs) := by
  unfold readPrecision
  split
  · next heq =>
      cases heq
      exact absurd rfl h
  · rfl

theorem readPrecision_append {precision : Option (List Char)} {rest : List Char}
    (hdigits : ∀ ds ∈ precision, ds ≠ [] ∧ ∀ c ∈ ds, c.isDigit)
    (hrest : ∀ c ∈ rest.head?, c.isDigit = false ∧ c ≠ '.') :
    readPrecision (point precision ++ rest) =
      if ∀ ds ∈ precision, Fits ds then .ok (precision.map valueOf, rest)
      else .error .noPrecision := by
  cases precision with
  | none =>
      rw [if_pos (by simp)]
      rcases rest with _ | ⟨c, cs⟩
      · rfl
      · exact readPrecision_of_head (hrest c rfl).2
  | some ds =>
      obtain ⟨hne, hds⟩ := hdigits ds rfl
      have hspan := spanDigits_eq_iff.2 ⟨rfl, hds, fun c hc => (hrest c hc).1⟩
      have hread := readNumber_eq hspan
      simp only [point, List.cons_append, readPrecision, hread]
      by_cases hfits : Fits ds
      · rw [number?_of_fits hne hfits, if_pos (by simpa using hfits)]
        rfl
      · rw [number?_of_not_fits hfits, if_neg (by simpa using hfits)]

theorem of_readPrecision {cs rest : List Char} {n : Option Nat}
    (h : readPrecision cs = .ok (n, rest)) :
    ∃ precision, cs = point precision ++ rest ∧
      ∀ ds ∈ precision, ds ≠ [] ∧ ∀ c ∈ ds, c.isDigit := by
  rcases cs with _ | ⟨c, cs⟩
  · cases h
    exact ⟨none, rfl, by simp⟩
  · by_cases hc : c = '.'
    · subst hc
      obtain ⟨ds, rest', hspan⟩ : ∃ ds rest', spanDigits cs = (ds, rest') := ⟨_, _, rfl⟩
      obtain ⟨rfl, hds, -⟩ := spanDigits_eq_iff.1 hspan
      simp only [readPrecision, readNumber_eq hspan] at h
      cases hn : number? ds with
      | none => simp [hn] at h
      | some n =>
          simp only [hn] at h
          cases h
          refine ⟨some ds, rfl, ?_⟩
          rintro _ ⟨⟩
          refine ⟨?_, hds⟩
          rintro rfl
          cases hn
    · rw [readPrecision_of_head hc] at h
      cases h
      exact ⟨none, rfl, by simp⟩

end Spec

/-! ## Spellings -/

/-- A directive as it is spelled. Its numbers are rows of digits; a width without digits is not
there. -/
structure Spelling where
  fill : Option Char
  align : Option Align
  plus : Bool
  alternate : Bool
  zero : Bool
  width : List Char
  precision : Option (List Char)
  kind : Kind
  fill_align : ∀ c ∈ fill, align.isSome ∧ c ≠ '{' ∧ c ≠ '}'
  width_digits : ∀ c ∈ width, c.isDigit
  /-- A zero in front of the width would be the flag. -/
  width_lead : zero = false → width.head? ≠ some '0'
  precision_digits : ∀ ds ∈ precision, ds ≠ [] ∧ ∀ c ∈ ds, c.isDigit

namespace Spelling

open Spec

/-- The text from the width on. -/
def numbers (p : Spelling) : List Char := p.width ++ (point p.precision ++ p.kind.text)

/-- The text after the alignment. -/
def flagged (p : Spelling) : List Char :=
  flag '+' p.plus ++ (flag '#' p.alternate ++ (flag '0' p.zero ++ p.numbers))

/-- The text of a spelling. -/
def text (p : Spelling) : List Char := front p.fill p.align ++ p.flagged

/-- What a spelling means. A width that does not fit 64 bits is not there. -/
def spec (p : Spelling) : Spec :=
  { fill := p.fill
    align := p.align
    plus := p.plus
    alternate := p.alternate
    zero := p.zero
    width := number? p.width
    precision := p.precision.map valueOf
    kind := p.kind }

def PrecisionFits (p : Spelling) : Prop := ∀ ds ∈ p.precision, Fits ds

variable (p : Spelling)

theorem head?_kind_text (k : Kind) : ∀ c ∈ k.text.head?, c.isDigit = false ∧ c ≠ '.' := by
  cases k <;> simp [Kind.text]

theorem head?_point : ∀ c ∈ (point p.precision ++ p.kind.text).head?, c.isDigit = false := by
  cases p.precision with
  | none => exact fun c hc => (head?_kind_text p.kind c hc).1
  | some ds => simp [point]

/-- A zero in front of the numbers is the flag. -/
theorem head?_numbers_ne (h : p.zero = false) : p.numbers.head? ≠ some '0' := by
  have hlead := p.width_lead h
  unfold numbers
  cases hw : p.width with
  | nil => exact fun hhead => Bool.noConfusion (p.head?_point '0' hhead)
  | cons c ds =>
      rw [hw] at hlead
      exact hlead

theorem isNumeric_of_mem_numbers {c : Char} (h : c ∈ p.numbers) : isNumeric c := by
  have hdigit : ∀ {c : Char}, c.isDigit → isNumeric c := fun hc => by simp [isNumeric, hc]
  have hkind : ∀ k : Kind, k.text.all isNumeric := by
    intro k
    cases k <;> decide
  simp only [numbers, List.mem_append] at h
  rcases h with h | h | h
  · exact hdigit (p.width_digits c h)
  · cases hp : p.precision with
    | none =>
        rw [hp] at h
        cases h
    | some ds =>
        rw [hp] at h
        rcases List.mem_cons.1 h with rfl | h
        · decide
        · exact hdigit ((p.precision_digits ds hp).2 c h)
  · exact List.all_eq_true.1 (hkind p.kind) c h

theorem mem_flag {c d : Char} {b : Bool} : c ∈ flag d b ↔ b ∧ c = d := by
  cases b <;> simp [flag]

/-- Before the numbers there is nothing but flags. -/
theorem isPlain_of_mem_flagged {c : Char} (h : c ∈ p.flagged) : isPlain c := by
  simp only [flagged, List.mem_append, mem_flag] at h
  rcases h with ⟨-, rfl⟩ | ⟨-, rfl⟩ | ⟨-, rfl⟩ | h
  · decide
  · decide
  · decide
  · simp [isPlain, p.isNumeric_of_mem_numbers h]

theorem isNumeric_of_mem_zero {c : Char} (h : c ∈ flag '0' p.zero ++ p.numbers) :
    isNumeric c := by
  rcases List.mem_append.1 h with h | h
  · rw [(mem_flag.1 h).2]
    decide
  · exact p.isNumeric_of_mem_numbers h

theorem isNumeric_or_of_mem_alternate {c : Char}
    (h : c ∈ flag '#' p.alternate ++ (flag '0' p.zero ++ p.numbers)) : isNumeric c ∨ c = '#' := by
  rcases List.mem_append.1 h with h | h
  · exact .inr (mem_flag.1 h).2
  · exact .inl (p.isNumeric_of_mem_zero h)

/-- A spelling is read field by field: no field can be taken for the one before it. -/
theorem parse_text_eq : parse p.text = do
    let (precision, cs) ← readPrecision (point p.precision ++ p.kind.text)
    let kind ← readKind cs
    return { p.spec with precision, kind } := by
  have halign : readAlign p.text = .ok (p.fill, p.align, p.flagged) :=
    readAlign_append p.fill_align fun c hc => p.isPlain_of_mem_flagged hc
  have hother : ∀ c, c = '+' ∨ c = '-' →
      (flag '#' p.alternate ++ (flag '0' p.zero ++ p.numbers)).head? ≠ some c := by
    rintro c hc hhead
    have hmem := p.isNumeric_or_of_mem_alternate (List.mem_of_head? hhead)
    rcases hc with rfl | rfl <;> revert hmem <;> decide
  have hplus : readFlag '+' p.flagged =
      (p.plus, flag '#' p.alternate ++ (flag '0' p.zero ++ p.numbers)) :=
    readFlag_eq_iff.2 ⟨rfl, fun _ => hother '+' (.inl rfl)⟩
  have hminus := hother '-' (.inr rfl)
  have halternate : readFlag '#' (flag '#' p.alternate ++ (flag '0' p.zero ++ p.numbers)) =
      (p.alternate, flag '0' p.zero ++ p.numbers) := by
    refine readFlag_eq_iff.2 ⟨rfl, fun _ hhead => ?_⟩
    cases p.isNumeric_of_mem_zero (List.mem_of_head? hhead)
  have hzero : readFlag '0' (flag '0' p.zero ++ p.numbers) = (p.zero, p.numbers) :=
    readFlag_eq_iff.2 ⟨rfl, p.head?_numbers_ne⟩
  have hwidth : readNumber p.numbers = (number? p.width, point p.precision ++ p.kind.text) :=
    readNumber_eq (spanDigits_eq_iff.2 ⟨rfl, p.width_digits, p.head?_point⟩)
  rw [parse, halign]
  simp only [ok_bind, hplus, halternate, hzero, hwidth, hminus, decide_false, Bool.and_false]
  rfl

theorem parse_text_eq_ok_iff {s : Spec} : parse p.text = .ok s ↔ p.PrecisionFits ∧ p.spec = s := by
  have hread := readPrecision_append p.precision_digits (head?_kind_text p.kind)
  have hkind := readKind_eq_ok_iff.2 (rfl : p.kind.text = p.kind.text)
  rw [parse_text_eq, hread]
  by_cases h : ∀ ds ∈ p.precision, Fits ds
  · rw [if_pos h]
    simp only [ok_bind, hkind, pure_eq_ok, Except.ok.injEq]
    exact ⟨fun hs => ⟨h, hs⟩, fun hs => hs.2⟩
  · rw [if_neg h]
    constructor
    · intro hs
      cases hs
    · exact fun hs => absurd hs.1 h

/-- Whatever can be read is a spelling. -/
theorem exists_text_eq {raw : List Char} {s : Spec} (h : parse raw = .ok s) :
    ∃ p : Spelling, p.text = raw := by
  unfold parse at h
  obtain ⟨⟨fill, align, afterAlign⟩, halign, h⟩ := bind_eq_ok.1 h
  obtain ⟨plus, afterPlus, hplus⟩ : ∃ b rest, readFlag '+' afterAlign = (b, rest) := ⟨_, _, rfl⟩
  obtain ⟨alternate, afterAlternate, halternate⟩ : ∃ b rest, readFlag '#' afterPlus = (b, rest) :=
    ⟨_, _, rfl⟩
  obtain ⟨zero, afterZero, hzero⟩ : ∃ b rest, readFlag '0' afterAlternate = (b, rest) :=
    ⟨_, _, rfl⟩
  obtain ⟨width, afterWidth, hwidth⟩ : ∃ ds rest, spanDigits afterZero = (ds, rest) := ⟨_, _, rfl⟩
  simp only [hplus, halternate, hzero, readNumber_eq hwidth] at h
  split at h
  · cases h
  · obtain ⟨⟨n, afterPrecision⟩, hprecision, h⟩ := bind_eq_ok.1 h
    obtain ⟨kind, hkind, -⟩ := bind_eq_ok.1 h
    obtain ⟨rfl, hfill⟩ := of_readAlign halign
    obtain ⟨rfl, -⟩ := readFlag_eq_iff.1 hplus
    obtain ⟨rfl, -⟩ := readFlag_eq_iff.1 halternate
    obtain ⟨rfl, hlead⟩ := readFlag_eq_iff.1 hzero
    obtain ⟨rfl, hdigits, -⟩ := spanDigits_eq_iff.1 hwidth
    obtain ⟨precision, rfl, hplaces⟩ := of_readPrecision hprecision
    obtain rfl := readKind_eq_ok_iff.1 hkind
    refine ⟨⟨fill, align, plus, alternate, zero, width, precision, kind, hfill, hdigits, ?_,
      hplaces⟩, rfl⟩
    intro h hhead
    refine hlead h ?_
    rw [List.head?_append, hhead]
    rfl

end Spelling

/-- The texts that are read as a directive, and what they are read as. -/
theorem Spec.parse_eq_ok_iff {raw : List Char} {s : Spec} :
    parse raw = .ok s ↔ ∃ p : Spelling, p.text = raw ∧ p.PrecisionFits ∧ p.spec = s := by
  constructor
  · intro h
    obtain ⟨p, rfl⟩ := Spelling.exists_text_eq h
    exact ⟨p, rfl, p.parse_text_eq_ok_iff.1 h⟩
  · rintro ⟨p, rfl, h⟩
    exact p.parse_text_eq_ok_iff.2 h

/-! ## Normal forms -/

namespace Spelling

open Spec

/-- The spelling with canonical numerals for its numbers. -/
def canonical (p : Spelling) : Spelling :=
  { p with
    width := if p.width = [] then [] else decimal (valueOf p.width)
    precision := p.precision.map fun ds => decimal (valueOf ds)
    width_digits := by
      split_ifs
      · simp
      · exact fun c hc => isDigit_of_mem_decimal hc
    width_lead := by
      intro h
      split_ifs with hw
      · simp
      · exact head?_decimal_ne (valueOf_ne_zero hw p.width_digits (p.width_lead h))
    precision_digits := by
      intro ds hds
      obtain ⟨_, -, rfl⟩ := Option.map_eq_some_iff.1 hds
      exact ⟨(isNumeral_decimal _).nonempty, fun c hc => isDigit_of_mem_decimal hc⟩ }

/-- The spelling without its width. -/
def withoutWidth (p : Spelling) : Spelling :=
  { p with
    width := []
    width_digits := by simp
    width_lead := by simp }

variable (p : Spelling)

theorem number?_decimal_valueOf {ds : List Char} (hne : ds ≠ []) :
    number? (decimal (valueOf ds)) = number? ds := by
  simp [number?, Fits, (isNumeral_decimal _).nonempty, hne]

/-- Canonical numerals mean the same. -/
theorem spec_canonical : p.canonical.spec = p.spec := by
  have hwidth : number? p.canonical.width = number? p.width := by
    by_cases hw : p.width = []
    · simp [canonical, hw]
    · simp [canonical, hw, number?_decimal_valueOf]
  have hprecision : p.canonical.precision.map valueOf = p.precision.map valueOf := by
    simp [canonical, Function.comp_def]
  rw [spec, hwidth, hprecision]
  rfl

theorem precisionFits_canonical (h : p.PrecisionFits) : p.canonical.PrecisionFits := by
  intro ds hds
  obtain ⟨ds', hds', rfl⟩ := Option.map_eq_some_iff.1 hds
  rw [Fits, valueOf_decimal]
  exact h ds' hds'

theorem spec_withoutWidth (h : ¬ Fits p.width) : p.withoutWidth.spec = p.spec := by
  rw [spec, spec, number?_of_not_fits h]
  rfl

end Spelling

namespace Spec

theorem text_eq (s : Spec) :
    s.text = front s.fill s.align ++ (flag '+' s.plus ++ (flag '#' s.alternate ++
      (flag '0' s.zero ++ (s.width.elim [] decimal ++
        (point (s.precision.map decimal) ++ s.kind.text))))) := by
  unfold text front point flag
  cases s.align <;> cases s.width <;> cases s.precision <;> simp

end Spec

namespace Spelling

open Spec

variable (p : Spelling)

/-- If the width fits, the normal form has every field of the spelling. -/
theorem text_spec (h : Fits p.width) : p.spec.text = p.canonical.text := by
  have hwidth : (number? p.width).elim [] decimal = p.canonical.width := by
    by_cases hw : p.width = []
    · simp [canonical, hw]
    · simp [canonical, hw, number?_of_fits hw h]
  have hprecision : (p.precision.map valueOf).map decimal = p.canonical.precision := by
    simp [canonical, Function.comp_def]
  rw [text_eq, spec, hwidth, hprecision]
  rfl

theorem canonical_width_ne (h : ¬ Fits p.width) : p.canonical.width ≠ [] := by
  have hne : p.width ≠ [] := by
    intro hw
    rw [hw] at h
    exact h (by decide)
  rw [canonical]
  simp [hne, (isNumeral_decimal _).nonempty]

theorem length_text : p.text.length = p.withoutWidth.text.length + p.width.length := by
  simp only [text, flagged, numbers, withoutWidth, List.length_append, List.length_nil]
  omega

end Spelling

namespace Spec

/-- The normal form of a directive is its spelling with canonical numerals, if the width fits 64
bits. A width that does not is lost, and nothing else is. -/
theorem text_eq_canonical_iff {raw : List Char} {s : Spec} (h : parse raw = .ok s) :
    (∃ p : Spelling, p.text = raw) ∧ ∀ p : Spelling, p.text = raw →
      (s.text = p.canonical.text ↔ Fits p.width) ∧
      (p.width ≠ [] → (s.width = some (valueOf p.width) ↔ Fits p.width)) ∧
      (¬ Fits p.width → s.width = none ∧ s.text = p.canonical.withoutWidth.text) := by
  refine ⟨Spelling.exists_text_eq h, ?_⟩
  rintro p rfl
  obtain ⟨-, rfl⟩ := p.parse_text_eq_ok_iff.1 h
  by_cases hfits : Fits p.width
  · refine ⟨?_, fun hne => ?_, fun hlost => absurd hfits hlost⟩
    · simp [hfits, p.text_spec hfits]
    · simp [Spelling.spec, hfits, number?_of_fits hne hfits]
  · have htext : p.spec.text = p.canonical.withoutWidth.text := by
      rw [← p.spec_withoutWidth hfits]
      exact p.withoutWidth.text_spec (show valueOf [] < 2 ^ 64 by decide)
    refine ⟨?_, fun _ => ?_, fun _ => ⟨number?_of_not_fits hfits, htext⟩⟩
    · simp only [hfits, iff_false, htext]
      intro heq
      -- the text with the width is longer
      have hlength := p.canonical.length_text
      rw [← heq] at hlength
      exact p.canonical_width_ne hfits (List.length_eq_zero_iff.1 (by omega))
    · simp [Spelling.spec, hfits, number?_of_not_fits hfits]

/-- Every field at once, with zeros in front of the numbers. -/
def fullSpelling : Spelling :=
  { fill := some '*'
    align := some .center
    plus := true
    alternate := true
    zero := true
    width := "0012".toList
    precision := some "007".toList
    kind := .lowerExp
    fill_align := by simp
    width_digits := List.all_eq_true.1 (by decide)
    width_lead := by simp
    precision_digits := by
      rintro _ ⟨⟩
      exact ⟨by decide, List.all_eq_true.1 (by decide)⟩ }

theorem text_fullSpelling : ∃ s, parse "*^+#00012.007e".toList = .ok s ∧
    s.width = some 12 ∧ s.text = "*^+#012.7e".toList := by
  obtain ⟨-, hspelling⟩ := text_eq_canonical_iff
    (rfl : parse "*^+#00012.007e".toList = .ok fullSpelling.spec)
  obtain ⟨htext, hwidth, -⟩ := hspelling fullSpelling rfl
  have hfits : Fits fullSpelling.width := by decide
  refine ⟨_, rfl, (hwidth (by decide)).2 hfits, (htext.2 hfits).trans ?_⟩
  have htwelve : decimal 12 = ['1', '2'] := by
    rw [decimal, digits_of_le (by omega), digits_of_lt (by omega)]
    rfl
  have hseven : decimal 7 = ['7'] := digits_of_lt (by omega)
  calc
    fullSpelling.canonical.text =
        "*^+#0".toList ++ (decimal 12 ++ ('.' :: decimal 7 ++ ['e'])) := rfl
    _ = "*^+#012.7e".toList := by rw [htwelve, hseven]; rfl

/-- A width of `2 ^ 64`. -/
def wideSpelling : Spelling :=
  { fill := none
    align := none
    plus := false
    alternate := false
    zero := false
    width := "18446744073709551616".toList
    precision := none
    kind := .display
    fill_align := by simp
    width_digits := List.all_eq_true.1 (by decide)
    width_lead := by decide
    precision_digits := by simp }

/-- The directive is accepted, and there is no width in what is read. -/
theorem width_lost : parse wideSpelling.text = .ok {} ∧ wideSpelling.width ≠ [] ∧
    ({} : Spec).width = none ∧ ({} : Spec).text ≠ wideSpelling.canonical.text := by
  refine ⟨rfl, by decide, rfl, fun htext => ?_⟩
  have hempty : ({} : Spec).text.length = 0 := rfl
  have hlength := wideSpelling.canonical.length_text
  rw [← htext, hempty] at hlength
  exact wideSpelling.canonical_width_ne (by decide) (List.length_eq_zero_iff.1 (by omega))

end Spec

end Phrasebook.Format
