import Mathlib.Data.List.Induction
import Mathlib.Data.List.TakeWhile
import Mathlib.Tactic.IntervalCases
import Phrasebook.Number.Shortest

set_option autoImplicit false

/-! # Numerals are read as what they were written from

The digits that a number is written with are its numeral (`isNumeral_digits`): reading them gives
the number back, they are digits of the base in the case asked for, and none is a leading zero. A
number with an exponent stands for exactly that number and has no digit too many
(`exists_scientific`). -/

namespace Phrasebook.Number

variable {base b n : Nat} {uppercase : Bool} {c : Char} {ds : List Char}

/-! ## Single digits -/

theorem digitIn?_digitChar {d : Nat} (hd : d < base) (hbase : base ≤ 16) :
    digitIn? base (digitChar uppercase d) = some d := by
  have hsixteen : d < 16 := by omega
  interval_cases d <;> cases uppercase <;> simp [digitIn?, digitChar, hd]

theorem digitChar_eq_zero_iff {d : Nat} (hd : d < 16) : digitChar uppercase d = '0' ↔ d = 0 := by
  interval_cases d <;> cases uppercase <;> decide

theorem isDigit_digitChar {d : Nat} (hd : d < 10) : (digitChar uppercase d).isDigit := by
  interval_cases d <;> cases uppercase <;> decide

theorem digitIn?_ten (hc : c.isDigit) : digitIn? 10 c = some (digitValue c) := by
  have hlt : c.toNat - 48 < 10 := by
    simp only [Char.isDigit, Bool.and_eq_true, decide_eq_true_eq] at hc
    have hle : c.toNat ≤ 57 := hc.2
    omega
  simp [digitIn?, digitValue, hc, hlt]

/-! ## Digits of a number -/

theorem digits_of_lt (h : n < b + 2) : digits b uppercase n = [digitChar uppercase n] := by
  rw [digits, if_pos h]

theorem digits_of_le (h : b + 2 ≤ n) :
    digits b uppercase n =
      digits b uppercase (n / (b + 2)) ++ [digitChar uppercase (n % (b + 2))] := by
  rw [digits, if_neg (by omega)]

theorem exists_of_mem_digits (h : c ∈ digits b uppercase n) :
    ∃ d < b + 2, c = digitChar uppercase d := by
  fun_induction digits b uppercase n with
  | case1 n hn => exact ⟨n, hn, List.mem_singleton.1 h⟩
  | case2 n _ ih =>
      rcases List.mem_append.1 h with h | h
      · exact ih h
      · exact ⟨n % (b + 2), Nat.mod_lt _ (by omega), List.mem_singleton.1 h⟩

/-- The first digit of a number is zero only for zero itself. -/
theorem exists_digits_eq_cons (b : Nat) (uppercase : Bool) (n : Nat) :
    ∃ d rest, d < b + 2 ∧ digits b uppercase n = digitChar uppercase d :: rest ∧
      (d = 0 → n = 0 ∧ rest = []) := by
  fun_induction digits b uppercase n with
  | case1 n hn => exact ⟨n, [], hn, rfl, fun h => ⟨h, rfl⟩⟩
  | case2 n hn ih =>
      obtain ⟨d, rest, hd, hdigits, hzero⟩ := ih
      have hpositive : 0 < n / (b + 2) := Nat.div_pos (by omega) (by omega)
      refine ⟨d, _, hd, by rw [hdigits, List.cons_append], fun h => ?_⟩
      have := (hzero h).1
      omega

theorem getLast?_digits (b : Nat) (uppercase : Bool) (n : Nat) :
    (digits b uppercase n).getLast? = some (digitChar uppercase (n % (b + 2))) := by
  by_cases h : n < b + 2
  · rw [digits_of_lt h, Nat.mod_eq_of_lt h]
    rfl
  · rw [digits_of_le (by omega), List.getLast?_concat]

theorem lt_pow_length_digits (b : Nat) (uppercase : Bool) (n : Nat) :
    n < (b + 2) ^ (digits b uppercase n).length := by
  fun_induction digits b uppercase n with
  | case1 n hn => simpa using hn
  | case2 n _ ih =>
      rw [List.length_append, List.length_singleton, pow_succ]
      exact (Nat.div_lt_iff_lt_mul (by omega)).1 ih

/-! ## Reading digits -/

theorem valueIn?_concat (base : Nat) (ds : List Char) (c : Char) :
    valueIn? base (ds ++ [c]) = do return base * (← valueIn? base ds) + (← digitIn? base c) := by
  rw [valueIn?, List.foldl_append]
  rfl

theorem valueIn?_digits (hb : b + 2 ≤ 16) (uppercase : Bool) (n : Nat) :
    valueIn? (b + 2) (digits b uppercase n) = some n := by
  fun_induction digits b uppercase n with
  | case1 n hn => simp [valueIn?, digitIn?_digitChar hn hb]
  | case2 n _ ih =>
      rw [valueIn?_concat, ih, digitIn?_digitChar (Nat.mod_lt _ (by omega)) hb]
      simp [Nat.div_add_mod]

theorem valueOf_concat (ds : List Char) (c : Char) :
    valueOf (ds ++ [c]) = 10 * valueOf ds + digitValue c := by
  rw [valueOf, List.foldl_append]
  rfl

/-- On decimal digits the two ways to read them agree. -/
theorem valueIn?_ten (h : ∀ c ∈ ds, c.isDigit) : valueIn? 10 ds = some (valueOf ds) := by
  induction ds using List.reverseRecOn with
  | nil => rfl
  | append_singleton ds c ih =>
      rw [List.forall_mem_append, List.forall_mem_singleton] at h
      rw [valueIn?_concat, ih h.1, digitIn?_ten h.2, valueOf_concat]
      rfl

/-- Digits are read up to the first character that is none. -/
theorem spanDigits_eq_iff {cs rest : List Char} :
    spanDigits cs = (ds, rest) ↔
      cs = ds ++ rest ∧ (∀ c ∈ ds, c.isDigit) ∧ ∀ c ∈ rest.head?, c.isDigit = false := by
  constructor
  · intro h
    cases h
    refine ⟨List.takeWhile_append_dropWhile.symm, fun c hc => List.mem_takeWhile_imp hc, ?_⟩
    intro c hc
    have hhead := List.head?_dropWhile_not Char.isDigit cs
    simpa [Option.mem_def.1 hc] using hhead
  · rintro ⟨rfl, hds, hrest⟩
    have hnone : rest.takeWhile Char.isDigit = [] ∧ rest.dropWhile Char.isDigit = rest := by
      cases rest with
      | nil => exact ⟨rfl, rfl⟩
      | cons c cs =>
          have hc : ¬ c.isDigit := by simp [hrest c rfl]
          exact ⟨List.takeWhile_cons_of_neg hc, List.dropWhile_cons_of_neg hc⟩
    rw [spanDigits, List.takeWhile_append_of_pos hds, List.dropWhile_append_of_pos hds, hnone.1,
      hnone.2, List.append_nil]

theorem le_foldl_valueOf (n : Nat) (ds : List Char) :
    n ≤ ds.foldl (fun n c => 10 * n + digitValue c) n := by
  induction ds generalizing n with
  | nil => exact le_refl n
  | cons c ds ih => exact le_trans (by omega) (ih (10 * n + digitValue c))

/-- Digits without a leading zero are not zero. -/
theorem valueOf_ne_zero (hne : ds ≠ []) (h : ∀ c ∈ ds, c.isDigit) (hlead : ds.head? ≠ some '0') :
    valueOf ds ≠ 0 := by
  obtain ⟨c, ds, rfl⟩ := List.exists_cons_of_ne_nil hne
  have hpositive : 0 < digitValue c := by
    have hc := h c List.mem_cons_self
    simp only [Char.isDigit, Bool.and_eq_true, decide_eq_true_eq] at hc
    have hlow : 48 ≤ c.toNat := hc.1
    have hne : c.toNat ≠ 48 := by
      intro heq
      have hzero : c = '0' := Char.toNat_inj.1 heq
      exact hlead (by rw [hzero]; rfl)
    rw [digitValue]
    omega
  have hle := le_foldl_valueOf (10 * 0 + digitValue c) ds
  rw [valueOf, List.foldl_cons]
  omega

/-! ## Numerals -/

/-- The digits are those of the number in a base, in lower or upper case: they are read as the
number, and there is no zero in front. -/
structure IsNumeral (base : Nat) (uppercase : Bool) (n : Nat) (ds : List Char) : Prop where
  value : valueIn? base ds = some n
  digits : ∀ c ∈ ds, ∃ d < base, c = digitChar uppercase d
  nonempty : ds ≠ []
  lead : ds.head? = some '0' → ds = ['0']

theorem isNumeral_digits (hb : b + 2 ≤ 16) (uppercase : Bool) (n : Nat) :
    IsNumeral (b + 2) uppercase n (Number.digits b uppercase n) := by
  obtain ⟨d, rest, hd, hdigits, hzero⟩ := exists_digits_eq_cons b uppercase n
  refine ⟨valueIn?_digits hb uppercase n, fun c hc => exists_of_mem_digits hc, ?_, ?_⟩
  · rw [hdigits]
    exact List.cons_ne_nil _ _
  · intro hhead
    rw [hdigits, List.head?_cons, Option.some.injEq, digitChar_eq_zero_iff (by omega)] at hhead
    rw [hdigits, (hzero hhead).2, (digitChar_eq_zero_iff (by omega)).2 hhead]

theorem isNumeral_decimal (n : Nat) : IsNumeral 10 false n (decimal n) :=
  isNumeral_digits (by omega) false n

theorem isDigit_of_mem_decimal (h : c ∈ decimal n) : c.isDigit := by
  obtain ⟨d, hd, rfl⟩ := (isNumeral_decimal n).digits c h
  exact isDigit_digitChar hd

@[simp] theorem valueOf_decimal (n : Nat) : valueOf (decimal n) = n := by
  have hvalue := (isNumeral_decimal n).value
  rw [valueIn?_ten fun c hc => isDigit_of_mem_decimal hc] at hvalue
  exact Option.some.inj hvalue

theorem head?_decimal_ne (hn : n ≠ 0) : (decimal n).head? ≠ some '0' := by
  intro hhead
  have hvalue := valueOf_decimal n
  rw [(isNumeral_decimal n).lead hhead] at hvalue
  exact hn hvalue.symm

/-! ## Numbers with an exponent -/

/-- A number with an exponent: the digit before the point, those after it, and a power of ten. -/
structure Scientific where
  first : Char
  rest : List Char
  exponent : Nat

namespace Scientific

/-- Without digits after the point there is no point. -/
def text (x : Scientific) (mark : Char) : List Char :=
  x.first :: (if x.rest = [] then [] else '.' :: x.rest) ++ mark :: decimal x.exponent

/-- The number is exactly `n`, there is a digit other than zero at either end of the mantissa, and
zero has no more than it needs. -/
structure Shows (x : Scientific) (n : Nat) : Prop where
  digits : ∀ c ∈ x.first :: x.rest, c.isDigit
  /-- The mantissa is the number that all its digits are, with the point moved. -/
  value : valueOf (x.first :: x.rest) * 10 ^ x.exponent = n * 10 ^ x.rest.length
  lead : n ≠ 0 → x.first ≠ '0'
  trail : x.rest.getLast? ≠ some '0'
  zero : n = 0 → x = ⟨'0', [], 0⟩

end Scientific

theorem exists_stripZeros_eq (fuel n : Nat) (k : Int) :
    ∃ m j : Nat, stripZeros fuel n k = (m, k + j) ∧ n = m * 10 ^ j := by
  fun_induction stripZeros fuel n k with
  | case1 n k => exact ⟨n, 0, by simp, by simp⟩
  | case2 fuel n k h ih =>
      obtain ⟨m, j, heq, hvalue⟩ := ih
      refine ⟨m, j + 1, ?_, ?_⟩
      · rw [heq]
        congr 1
        omega
      · simp only [Bool.and_eq_true, decide_eq_true_eq] at h
        rw [pow_succ, ← mul_assoc, ← hvalue]
        omega
  | case3 fuel n k _ => exact ⟨n, 0, by simp, by simp⟩

/-- With as many steps as there are digits no trailing zero is left. -/
theorem stripZeros_mod_ne {fuel : Nat} {k : Int} (hfuel : n < 10 ^ fuel) (hn : n ≠ 0) :
    (stripZeros fuel n k).1 % 10 ≠ 0 := by
  fun_induction stripZeros fuel n k with
  | case1 n k =>
      rw [pow_zero] at hfuel
      omega
  | case2 fuel n k h ih =>
      simp only [Bool.and_eq_true, decide_eq_true_eq] at h
      refine ih ?_ (by omega)
      rw [pow_succ] at hfuel
      omega
  | case3 fuel n k h =>
      intro hmod
      simp [hmod, hn] at h

theorem exponential_eq {mark d : Char} {k : Nat} (h : decimal n = d :: ds) :
    exponential mark n k = Scientific.text ⟨d, ds, k + ds.length⟩ mark := by
  have hexponent : (k : Int) + ds.length = Int.ofNat (k + ds.length) := by simp
  unfold exponential
  rw [h]
  cases ds with
  | nil => rfl
  | cons e ds =>
      simp only [hexponent]
      rfl

/-- A natural number with an exponent is shown exactly. -/
theorem exists_scientific (mark : Char) (n : Nat) :
    ∃ x : Scientific, exponentialNat mark n = x.text mark ∧ x.Shows n := by
  by_cases hn : n = 0
  · subst hn
    refine ⟨⟨'0', [], 0⟩, ?_, ?_, rfl, fun h => absurd rfl h, by simp, fun _ => rfl⟩
    · have hdecimal : decimal 0 = ['0'] := digits_of_lt (by omega)
      simp [exponentialNat, stripZeros, exponential, Scientific.text, hdecimal, decimalInt]
    · simp
  · obtain ⟨m, j, hstrip, hvalue⟩ := exists_stripZeros_eq (log10 n + 1) n 0
    have hm : m % 10 ≠ 0 := by
      have hfuel : n < 10 ^ (log10 n + 1) := by
        have hlength := lt_pow_length_digits 8 false n
        have hpositive := List.length_pos_iff.2 (isNumeral_decimal n).nonempty
        rwa [log10, Nat.sub_add_cancel hpositive]
      simpa [hstrip] using stripZeros_mod_ne (k := 0) hfuel hn
    obtain ⟨d, ds, hdecimal⟩ := List.exists_cons_of_ne_nil (isNumeral_decimal m).nonempty
    refine ⟨⟨d, ds, j + ds.length⟩, ?_, ?_, ?_, ?_, ?_, fun h => absurd h hn⟩
    · rw [exponentialNat, hstrip]
      simp only [zero_add]
      exact exponential_eq hdecimal
    · intro c hc
      rw [← hdecimal] at hc
      exact isDigit_of_mem_decimal hc
    · simp only
      rw [← hdecimal, valueOf_decimal, hvalue, pow_add, mul_assoc]
    · rintro - rfl
      exact head?_decimal_ne (n := m) (by omega) (by rw [hdecimal]; rfl)
    · intro hlast
      -- the last digit after the point is the last one of all
      have hall : (decimal m).getLast? = some '0' := by
        rw [hdecimal, List.getLast?_cons, hlast]
        rfl
      rw [decimal, getLast?_digits, Option.some.injEq, digitChar_eq_zero_iff (by omega)] at hall
      exact hm hall

end Phrasebook.Number
