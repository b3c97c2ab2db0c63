import Phrasebook.Proofs.Format.Limits
import Phrasebook.Proofs.Number.Numeral

set_option autoImplicit false

/-! # How integers are laid out

What a directive makes of an integer that fits 64 bits, signed or unsigned, is a sign, the mark of
a base and digits, with padding around them or between mark and digits (`apply_integer`). What each
of these is follows from the directive and the number: `Spec.WritesInteger` says it of the text,
`Padding.Suits` of the padding. In a base other than ten the digits are those of the number modulo
`2 ^ 64`, so that a negative number shows its 64-bit pattern and no minus sign.

A directive may be correct and still ask for more padding than a text has room for. There is nothing
to be laid out then (`apply_integer_of_tooWide`). -/

namespace Phrasebook.Format

open Number

/-! ## The text of an integer -/

namespace Kind

/-- The kinds that show a number in a base other than ten. -/
def isRadix : Kind → Bool
  | .lowerHex | .upperHex | .octal | .binary => true
  | .display | .lowerExp | .upperExp => false

/-- The mark of the base. -/
def mark : Kind → List Char
  | .lowerHex | .upperHex => ['0', 'x']
  | .octal => ['0', 'o']
  | .binary => ['0', 'b']
  | .display | .lowerExp | .upperExp => []

/-- The digits show the number in the way of the kind. -/
def Shows (k : Kind) (n : Int) (ds : List Char) : Prop :=
  match k with
  | .display => IsNumeral 10 false n.natAbs ds
  | .lowerExp => ∃ x : Scientific, ds = x.text 'e' ∧ x.Shows n.natAbs
  | .upperExp => ∃ x : Scientific, ds = x.text 'E' ∧ x.Shows n.natAbs
  | .lowerHex => IsNumeral 16 false (n % 2 ^ 64).toNat ds
  | .upperHex => IsNumeral 16 true (n % 2 ^ 64).toNat ds
  | .octal => IsNumeral 8 false (n % 2 ^ 64).toNat ds
  | .binary => IsNumeral 2 false (n % 2 ^ 64).toNat ds

end Kind

/-- An integer as it is written, apart from padding. -/
structure IntegerText where
  sign : List Char
  mark : List Char
  digits : List Char

def IntegerText.length (t : IntegerText) : Nat := (t.sign ++ t.mark ++ t.digits).length

namespace Spec

/-- The text that a directive asks for. There is a minus sign only where the digits are those of the
magnitude. -/
structure WritesInteger (s : Spec) (n : Int) (t : IntegerText) : Prop where
  sign : t.sign = if s.kind.isRadix = false ∧ n < 0 then ['-'] else if s.plus then ['+'] else []
  mark : t.mark = if s.alternate then s.kind.mark else []
  digits : s.kind.Shows n t.digits

variable {n : Int}

theorem integerParts_sign (s : Spec) (n : Int) :
    (s.integerParts n).1 =
      if s.kind.isRadix = false ∧ n < 0 then ['-'] else if s.plus then ['+'] else [] := by
  unfold integerParts
  cases s.kind <;> simp [Kind.isRadix, plusSign]

theorem radixMark_eq (s : Spec) : s.radixMark = if s.alternate then s.kind.mark else [] := by
  unfold radixMark
  cases s.kind <;> rfl

/-- The 64-bit pattern of a number is what it is modulo `2 ^ 64`. -/
theorem isNumeral_patternDigits {base : Nat} (hbase : 2 ≤ base ∧ base ≤ 16) (uppercase : Bool)
    (hn : -2 ^ 63 ≤ n ∧ n < 2 ^ 64) :
    IsNumeral base uppercase (n % 2 ^ 64).toNat (patternDigits base uppercase n) := by
  have hfits : (-0x8000000000000000 ≤ n && n < 0x10000000000000000) = true := by
    simp only [Bool.and_eq_true, decide_eq_true_eq]
    omega
  obtain ⟨b, rfl⟩ : ∃ b, base = b + 2 := ⟨base - 2, by omega⟩
  rw [patternDigits, if_pos hfits]
  exact isNumeral_digits hbase.2 uppercase _

theorem shows_integerParts (s : Spec) (hn : -2 ^ 63 ≤ n ∧ n < 2 ^ 64) :
    s.kind.Shows n (s.integerParts n).2 := by
  unfold integerParts
  cases s.kind with
  | display => exact isNumeral_decimal n.natAbs
  | lowerExp => exact exists_scientific 'e' n.natAbs
  | upperExp => exact exists_scientific 'E' n.natAbs
  | lowerHex | upperHex | octal | binary => exact isNumeral_patternDigits (by omega) _ hn

end Spec

/-! ## Padding -/

/-- The characters that a number is padded with: before it, between mark and digits, and after
it. -/
structure Padding where
  before : Nat
  zeros : Nat
  after : Nat

namespace Padding

/-- The side on which the number stands; in the middle the smaller half comes first. -/
def Aligned (p : Padding) : Align → Prop
  | .left => p.before = 0
  | .right => p.after = 0
  | .center => p.before ≤ p.after ∧ p.after ≤ p.before + 1

/-- The padding of a number of `length` characters: no more than the width asks for, and where the
directive has it. Zeros leave no room for an alignment. -/
structure Suits (p : Padding) (s : Spec) (length : Nat) : Prop where
  total : p.before + p.zeros + p.after + length = max (s.width.getD 0) length
  zero : s.zero → p.before = 0 ∧ p.after = 0
  fill : s.zero = false → p.zeros = 0 ∧ p.Aligned (s.align.getD .right)

/-- A number with its padding. -/
def around (p : Padding) (fill : Char) (t : IntegerText) : List Char :=
  List.replicate p.before fill ++ t.sign ++ t.mark ++ List.replicate p.zeros '0' ++ t.digits ++
    List.replicate p.after fill

theorem length_around (p : Padding) (fill : Char) (t : IntegerText) :
    (p.around fill t).length = p.before + p.zeros + p.after + t.length := by
  simp only [around, IntegerText.length, List.length_append, List.length_replicate]
  omega

theorem utf8ByteSize_replicate (n : Nat) (c : Char) :
    (String.ofList (List.replicate n c)).utf8ByteSize = n * c.utf8Size := by
  induction n with
  | zero => simp
  | succ n ih =>
      have hsplit : List.replicate (n + 1) c = [c] ++ List.replicate n c := rfl
      have hone : (String.ofList [c]).utf8ByteSize = c.utf8Size := String.utf8ByteSize_singleton
      rw [hsplit, String.ofList_append, String.utf8ByteSize_append, ih, hone, Nat.succ_mul,
        Nat.add_comm]

/-- The bytes of a number with its padding. -/
theorem utf8ByteSize_around (p : Padding) (fill : Char) (t : IntegerText) :
    (String.ofList (p.around fill t)).utf8ByteSize =
      (String.ofList (t.sign ++ t.mark ++ t.digits)).utf8ByteSize +
        p.zeros * '0'.utf8Size + (p.before + p.after) * fill.utf8Size := by
  simp only [around, String.ofList_append, String.utf8ByteSize_append, utf8ByteSize_replicate,
    Nat.add_mul]
  omega

end Padding

namespace Spec

theorem aligned_sides (total : Nat) (side : Align) :
    (sides total side).1 + (sides total side).2 = total ∧
      Padding.Aligned ⟨(sides total side).1, 0, (sides total side).2⟩ side := by
  cases side with
  | left | right => simp [sides, Padding.Aligned]
  | center =>
      simp only [sides, Padding.Aligned]
      omega

/-- The padding of a number, whatever its characters are: where there is room for it, the number is
laid out with it. -/
theorem exists_padding (s : Spec) (t : IntegerText) :
    ∃ p : Padding, p.Suits s t.length ∧
      (s.TooWide s.numberFill (t.sign ++ t.mark ++ t.digits) ↔ t.length < s.width.getD 0 ∧
        maxTextSize < (String.ofList (p.around (s.fill.getD ' ') t)).utf8ByteSize) ∧
      (¬ s.TooWide s.numberFill (t.sign ++ t.mark ++ t.digits) →
        s.padNumber t.sign t.mark t.digits = some (p.around (s.fill.getD ' ') t)) := by
  have hlength : (t.sign ++ t.mark ++ t.digits).length = t.length := rfl
  cases hzero : s.zero with
  | true =>
      have hfill : s.numberFill = '0' := by simp [numberFill, hzero]
      refine ⟨⟨0, s.width.getD 0 - t.length, 0⟩, ⟨?_, fun _ => ⟨rfl, rfl⟩, ?_⟩, ?_, fun hroom => ?_⟩
      · simp only
        omega
      · simp [hzero]
      · rw [TooWide, hfill, hlength, Padding.utf8ByteSize_around]
        simp
      · rw [hfill, ← hasRoom_eq_false_iff, Bool.not_eq_false] at hroom
        simp only [padNumber, hzero, if_true, hroom]
        simp [Padding.around, IntegerText.length]
  | false =>
      obtain ⟨htotal, haligned⟩ :=
        aligned_sides (s.width.getD 0 - t.length) (s.align.getD .right)
      have hfill : s.numberFill = s.fill.getD ' ' := by simp [numberFill, hzero]
      refine ⟨⟨_, 0, _⟩, ⟨?_, ?_, fun _ => ⟨rfl, haligned⟩⟩, ?_, fun hroom => ?_⟩
      · simp only
        omega
      · simp [hzero]
      · rw [TooWide, hfill, hlength, Padding.utf8ByteSize_around, htotal]
        simp
      · rw [hfill, ← hasRoom_eq_false_iff, Bool.not_eq_false] at hroom
        simp only [padNumber, hzero, Bool.false_eq_true, if_false, pad, hroom, if_true]
        simp [Padding.around, IntegerText.length]

/-- An integer that fits 64 bits, signed or not, in the form of a directive: the text that the
directive asks for, padded to the width. It is missing if and only if it has to be padded and would
have more than `maxTextSize` bytes then. -/
theorem apply_integer (s : Spec) (n : Int) (hn : -2 ^ 63 ≤ n ∧ n < 2 ^ 64) :
    ∃ (t : IntegerText) (p : Padding), s.WritesInteger n t ∧ p.Suits s t.length ∧
      (p.around (s.fill.getD ' ') t).length = max (s.width.getD 0) t.length ∧
      s.apply (.integer n) =
        if t.length < s.width.getD 0 ∧
            maxTextSize < (String.ofList (p.around (s.fill.getD ' ') t)).utf8ByteSize
          then none else some (p.around (s.fill.getD ' ') t) := by
  obtain ⟨p, hp, hwide, hpadded⟩ :=
    s.exists_padding ⟨(s.integerParts n).1, s.radixMark, (s.integerParts n).2⟩
  refine ⟨_, p, ⟨s.integerParts_sign n, s.radixMark_eq, s.shows_integerParts hn⟩, hp, ?_, ?_⟩
  · rw [Padding.length_around, hp.total]
  · split_ifs with hbeyond
    · exact padNumber_eq_none_iff.2 (hwide.2 hbeyond)
    · exact hpadded fun h => hbeyond (hwide.1 h)

/-- The bits of a number in the middle of a row of stars. -/
def starred : Spec :=
  { fill := some '*', align := some .center, plus := true, alternate := true, width := some 24,
    kind := .lowerHex }

/-- The least integer is written with a plus sign, and stars stand on both sides of it. -/
theorem apply_integer_starred :
    parse "*^+#24x".toList = .ok starred ∧ starred.check .integer = .ok () ∧
      ∃ t before after, starred.apply (.integer (-2 ^ 63)) =
          some (List.replicate before '*' ++ ['+', '0', 'x'] ++ t ++ List.replicate after '*') ∧
        IsNumeral 16 false (2 ^ 63) t ∧ before ≤ after ∧ after ≤ before + 1 := by
  refine ⟨rfl, rfl, ?_⟩
  obtain ⟨⟨sign, mark, digits⟩, ⟨before, zeros, after⟩, htext, hpadding, -, happly⟩ :=
    apply_integer starred (-2 ^ 63) (by decide)
  have hthere : starred.apply (.integer (-2 ^ 63)) ≠ none := by decide +kernel
  split_ifs at happly with hbeyond
  · exact absurd happly hthere
  obtain ⟨rfl, hbefore, hafter⟩ := hpadding.fill rfl
  obtain ⟨rfl, rfl, hdigits⟩ := htext
  refine ⟨digits, before, after, ?_, hdigits, hbefore, hafter⟩
  rw [happly]
  simp [Padding.around, starred, Kind.isRadix, Kind.mark]

/-- One character more on the left than a text has bytes. -/
def widest : Spec := { align := some .right, width := some (maxTextSize + 1) }

/-- A directive that suits integers, and nothing to be laid out for any of them. -/
theorem apply_integer_of_tooWide :
    parse ">9223372036854775808".toList = .ok widest ∧ widest.check .integer = .ok () ∧
      widest.apply (.integer 0) = none :=
  ⟨rfl, rfl, by decide +kernel⟩

end Spec

end Phrasebook.Format
