import Phrasebook.Proofs.Code.Emission

set_option autoImplicit false

/-! # The arms of a choice

The code of a plural is a choice between arms, of which the first that takes the number counts. It
has an arm for each branch that can be taken, and one more if some number has no branch. That is
neither too few nor too many: every number that the integer type has is taken by the arm of the
branch that the plan selects, and every arm is there for some such number
(`arms_exhaustive_irredundant`).

The numbers 0, 1, 2 and -1 stand for the four categories. Each is a case of its own category and of
no other one but the last, so that each branch has a number of its own (`accepts_sample_iff`). Only
the last branch may have to do without -1, and then it takes the number of a branch that is missing
(`Scope.exists_untaken`). -/

namespace Phrasebook

/-! ## Branches in their order -/

namespace Category

/-- A number that is a case of the category. -/
def sample : Category → Int
  | .zero => 0
  | .one => 1
  | .many => 2
  | .other => -1

theorem accepts_sample_iff {c d : Category} :
    d.condition.accepts c.sample ↔ d = c ∨ d = .other := by
  cases c <;> cases d <;> decide

theorem contains_sample {c : Category} (width : IntegerWidth) (h : c ≠ .other) :
    width.contains c.sample := by
  cases c with
  | other => exact absurd rfl h
  | zero | one | many => cases width <;> decide

end Category

theorem Plural.map_fst_branches (p : Plural) :
    p.branches.map (·.1) = Category.all.filter fun c => (p.branch? c).isSome := by
  rw [branches, List.map_filterMap, ← List.filterMap_eq_filter]
  refine List.filterMap_congr fun c _ => ?_
  cases hc : p.branch? c with
  | none => simp [Option.guard, hc]
  | some b => simp [Option.guard, hc]

namespace Scope

variable {s : Scope} {direct : Bool} {p : Plural} {d : Dispatch}

/-- The branches of a choice are those of the plural, in the order of the categories. -/
theorem map_category_branches (hd : (s.plural direct p).result = .ok d) :
    d.branches.map (·.category) = Category.all.filter fun c => (p.branch? c).isSome := by
  obtain ⟨-, -, hbranches, -⟩ := plural_eq_ok.1 hd
  rw [← p.map_fst_branches]
  exact (map_eq_map_of_forall₂ (branches_eq_ok.1 hbranches) fun b branch h => h.1.1.symm).symm

theorem isSome_branch?_of_mem (hd : (s.plural direct p).result = .ok d) {b : Branch}
    (hb : b ∈ d.branches) : (p.branch? b.category).isSome := by
  have hmem : b.category ∈ d.branches.map (·.category) := List.mem_map_of_mem hb
  rw [map_category_branches hd] at hmem
  exact (List.mem_filter.1 hmem).2

/-- No two branches are of the same category, and none comes after the last category. -/
theorem pairwise_live (hd : (s.plural direct p).result = .ok d) :
    d.live.Pairwise fun a b => a.category ≠ b.category ∧ a.category ≠ .other := by
  have hall : Category.all.Pairwise fun a b => a ≠ b ∧ a ≠ .other := by decide
  have hbranches : (d.branches.map (·.category)).Pairwise fun a b => a ≠ b ∧ a ≠ .other := by
    rw [map_category_branches hd]
    exact hall.sublist List.filter_sublist
  rw [List.pairwise_map] at hbranches
  exact hbranches.sublist List.filter_sublist

/-- If the branches for 0, 1 and more do not take every number, they leave one that the type has. -/
theorem exists_untaken (hd : (s.plural direct p).result = .ok d) (hcovered : d.covered = false) :
    ∃ n, s.width.contains n ∧ ∀ b ∈ d.branches, b.condition.accepts n → b.category = .other := by
  obtain ⟨-, -, -, hcovers⟩ := plural_eq_ok.1 hd
  -- a category that is missing is enough, and so is the one for negative numbers
  have hmissing : ∀ c : Category, c ≠ .other → p.branch? c = none →
      ∃ n, s.width.contains n ∧ ∀ b ∈ d.branches, b.condition.accepts n → b.category = .other := by
    intro c hc hnone
    refine ⟨c.sample, Category.contains_sample _ hc, fun b hb haccepts => ?_⟩
    rw [condition_of_mem hd hb] at haccepts
    rcases Category.accepts_sample_iff.1 haccepts with hsame | hother
    · have hsome := isSome_branch?_of_mem hd hb
      rw [hsame, hnone] at hsome
      cases hsome
    · exact hother
  rw [hcovers, Plural.coversWidth, Bool.and_eq_false_iff] at hcovered
  rcases hcovered with hsigned | hnaturals
  · have hwidth : s.width = .signed := by
      cases hwidth : s.width with
      | signed => rfl
      | unsigned =>
          rw [hwidth] at hsigned
          cases hsigned
    refine ⟨Category.other.sample, ?_, fun b hb haccepts => ?_⟩
    · rw [hwidth]
      decide
    · rw [condition_of_mem hd hb] at haccepts
      exact (Category.accepts_sample_iff.1 haccepts).elim id id
  · simp only [Plural.coversNaturals, Bool.and_eq_false_iff, Option.isSome_eq_false_iff,
      Option.isNone_iff_eq_none] at hnaturals
    rcases hnaturals with (hzero | hone) | hmany
    · exact hmissing .zero (by decide) hzero
    · exact hmissing .one (by decide) hone
    · exact hmissing .many (by decide) hmany

/-- Each branch that is kept has a number that no branch before it takes. -/
theorem exists_taken (hd : (s.plural direct p).result = .ok d) {b : Branch} (hb : b ∈ d.live) :
    ∃ n, s.width.contains n ∧ b.condition.accepts n ∧
      ∀ b' ∈ d.live, b'.category ≠ b.category → b'.category ≠ .other →
        ¬b'.condition.accepts n := by
  obtain ⟨hbranch, hkept⟩ := List.mem_filter.1 hb
  by_cases hother : b.category = .other
  · have hhas : d.has .other := List.any_eq_true.2 ⟨b, hbranch, by simp [hother]⟩
    have hcovered : d.covered = false := by
      simpa [hother, Dispatch.otherUnreachable, hhas] using hkept
    obtain ⟨n, hn, huntaken⟩ := exists_untaken hd hcovered
    refine ⟨n, hn, by rw [condition_of_mem hd hbranch, hother]; rfl,
      fun b' hb' _ hne haccepts => ?_⟩
    exact hne (huntaken b' (List.mem_of_mem_filter hb') haccepts)
  · refine ⟨b.category.sample, Category.contains_sample _ hother, ?_, ?_⟩
    · rw [condition_of_mem hd hbranch]
      exact Category.accepts_sample_iff.2 (.inl rfl)
    · intro b' hb' hne hne' haccepts
      rw [condition_of_mem hd (List.mem_of_mem_filter hb')] at haccepts
      rcases Category.accepts_sample_iff.1 haccepts with h | h
      · exact hne h
      · exact hne' h

end Scope

namespace Code

/-! ## Arms -/

/-- The place of the first arm that takes a number. -/
def firstArm? {α : Type} (as : List (Pattern × α)) (n : Int) : Option Nat :=
  as.findIdx? fun a => a.1.accepts n

section Arms

variable {α : Type} {s : Scope} {direct : Bool} {p : Plural} {d : Dispatch}
  {arm : Block → Except CompileError α} {fallback : α} {as : List (Pattern × α)} {n : Int}

/-- The arms stand in the order of the branches that can be taken, and the last one after them. -/
theorem getElem?_arms (has : arms d arm fallback = .ok as) :
    (∀ (i : Nat) (b : Branch), d.live[i]? = some b →
      ∃ x, arm b.body = .ok x ∧ as[i]? = some (Pattern.ofCondition b.condition, x)) ∧
      (d.needsFallback → as[d.live.length]? = some (.any, fallback)) := by
  obtain ⟨taken, htaken, rfl⟩ := arms_eq_ok.1 has
  have hlength := htaken.length_eq
  constructor
  · intro i b hb
    obtain ⟨a, ha, hpattern, harm⟩ := exists_getElem?_of_forall₂ htaken hb
    have hi : i < taken.length := (List.getElem?_eq_some_iff.1 ha).1
    refine ⟨a.2, harm, ?_⟩
    rw [List.getElem?_append_left hi, ha, ← hpattern]
  · intro hneeds
    rw [if_pos hneeds, hlength, List.getElem?_append_right (le_refl _)]
    simp

theorem length_arms (has : arms d arm fallback = .ok as) :
    as.length = d.live.length + if d.needsFallback then 1 else 0 := by
  obtain ⟨taken, htaken, rfl⟩ := arms_eq_ok.1 has
  rw [List.length_append, htaken.length_eq]
  split_ifs <;> rfl

/-- The first arm is that of the first branch, and only if there is none, the last one. -/
theorem firstArm?_arms (has : arms d arm fallback = .ok as) (n : Int) :
    firstArm? as n = (d.live.findIdx? fun b => b.condition.accepts n).or
      (if d.needsFallback then some d.live.length else none) := by
  obtain ⟨taken, htaken, rfl⟩ := arms_eq_ok.1 has
  have hlength := htaken.length_eq
  have hpatterns : taken.map (·.1) = d.live.map fun b => Pattern.ofCondition b.condition :=
    (map_eq_map_of_forall₂ htaken fun b a h => h.1.symm).symm
  have hfirst : (taken.findIdx? fun a => a.1.accepts n) =
      d.live.findIdx? fun b => b.condition.accepts n := by
    have h := congrArg (List.findIdx? (·.accepts n)) hpatterns
    simpa only [List.findIdx?_map, Function.comp_def, accepts_ofCondition] using h
  rw [firstArm?, List.findIdx?_append, hfirst, hlength]
  split_ifs
  · simp [Pattern.accepts]
  · simp

/-- A number that the type has is taken by the arm of the branch selected, or else by the last. -/
theorem exists_firstArm? (hd : (s.plural direct p).result = .ok d)
    (has : arms d arm fallback = .ok as) (hn : s.width.contains n) :
    ∃ i a, firstArm? as n = some i ∧ as[i]? = some a ∧
      ((∃ b, d.select n = some b ∧ d.live[i]? = some b ∧
          a.1 = .ofCondition b.category.condition ∧ arm b.body = .ok a.2) ∨
        (d.select n = none ∧ i = d.live.length ∧ a = (.any, fallback))) := by
  obtain ⟨hbranch, hlast⟩ := getElem?_arms has
  have hselect : ((d.live.findIdx? fun b => b.condition.accepts n).bind fun i => d.live[i]?) =
      d.select n := by
    rw [← List.find?_eq_bind_findIdx?_getElem?, Scope.find?_live hd hn]
  cases hi : d.live.findIdx? fun b => b.condition.accepts n with
  | none =>
      rw [hi] at hselect
      have hneeds := Scope.needsFallback_of_select_eq_none hd hn hselect.symm
      refine ⟨d.live.length, _, ?_, hlast hneeds, .inr ⟨hselect.symm, rfl, rfl⟩⟩
      rw [firstArm?_arms has, hi, if_pos hneeds]
      rfl
  | some i =>
      rw [hi] at hselect
      obtain ⟨hlt, -⟩ := List.findIdx?_eq_some_iff_getElem.1 hi
      have hb : d.live[i]? = some d.live[i] := List.getElem?_eq_getElem hlt
      obtain ⟨x, hx, ha⟩ := hbranch i _ hb
      have hcondition := Scope.condition_of_mem hd (List.mem_of_mem_filter (List.getElem_mem hlt))
      rw [hcondition] at ha
      refine ⟨i, _, ?_, ha, .inl ⟨_, hselect.symm.trans hb, hb, rfl, hx⟩⟩
      rw [firstArm?_arms has, hi]
      rfl

/-- Every arm is the first for some number that the type has. -/
theorem exists_firstArm?_eq (hd : (s.plural direct p).result = .ok d)
    (has : arms d arm fallback = .ok as) {i : Nat} (hi : i < as.length) :
    ∃ n, s.width.contains n ∧ firstArm? as n = some i := by
  by_cases hlt : i < d.live.length
  · obtain ⟨n, hn, haccepts, hothers⟩ := Scope.exists_taken hd (List.getElem_mem hlt)
    refine ⟨n, hn, ?_⟩
    have hfirst : (d.live.findIdx? fun b => b.condition.accepts n) = some i := by
      refine List.findIdx?_eq_some_iff_getElem.2 ⟨hlt, haccepts, fun j hj => ?_⟩
      -- the branches before are of other categories, and none of them is the last one
      obtain ⟨hne, hother⟩ := List.pairwise_iff_getElem.1 (Scope.pairwise_live hd) j i
        (hj.trans hlt) hlt hj
      exact hothers _ (List.getElem_mem _) hne hother
    rw [firstArm?_arms has, hfirst]
    rfl
  · -- the only arm after those of the branches is the one for numbers without a branch
    rw [length_arms has] at hi
    have hneeds : d.needsFallback := by
      by_contra hneeds
      rw [if_neg hneeds] at hi
      omega
    rw [if_pos hneeds] at hi
    obtain rfl : i = d.live.length := by omega
    have hcovered : d.covered = false ∧ d.has .other = false := by
      simpa [Dispatch.needsFallback] using hneeds
    obtain ⟨n, hn, huntaken⟩ := Scope.exists_untaken hd hcovered.1
    have hfirst : (d.live.findIdx? fun b => b.condition.accepts n) = none := by
      refine List.findIdx?_eq_none_iff.2 fun b hb => Bool.eq_false_iff.2 fun haccepts => ?_
      have hbranch := List.mem_of_mem_filter hb
      have hother := List.any_eq_false.1 hcovered.2 b hbranch
      exact hother (beq_iff_eq.2 (huntaken b hbranch haccepts))
    refine ⟨n, hn, ?_⟩
    rw [firstArm?_arms has, hfirst, if_pos hneeds]
    rfl

end Arms

/-- A plural that can be lowered is written as a choice between arms, for any body of a function.
Each number that the type has is taken first by the arm of the branch that the plan selects, or by
the last arm if it selects none, and each arm is the first for some such number. -/
theorem arms_exhaustive_irredundant {s : Scope} {direct : Bool} {p : Plural} {d : Dispatch}
    (hd : (s.plural direct p).result = .ok d) :
    (∀ own, ∃ as, arms d (statements own) [] = .ok as ∧
      procedure own (.dispatch d) = .ok (.choice d.driver.ident as)) ∧
    (∃ as, arms d (fun b => .ok (some (b.constant?.getD ""))) none = .ok as ∧
      constantBody (.dispatch d) = .ok (.texts d.driver.ident as)) ∧
    ∀ {α : Type} (arm : Block → Except CompileError α) (fallback : α) (as : List (Pattern × α)),
      arms d arm fallback = .ok as →
        (∀ n, s.width.contains n → ∃ i a, firstArm? as n = some i ∧ as[i]? = some a ∧
          ((∃ b, d.select n = some b ∧ d.live[i]? = some b ∧
              a.1 = .ofCondition b.category.condition ∧ arm b.body = .ok a.2) ∨
            (d.select n = none ∧ i = d.live.length ∧ a = (.any, fallback)))) ∧
        ∀ i < as.length, ∃ n, s.width.contains n ∧ firstArm? as n = some i := by
  have hdriver : identifier d.driver.ident = .ok d.driver.ident := by
    obtain ⟨-, hbinding, -, -⟩ := Scope.plural_eq_ok.1 hd
    exact identifier_of_isIdentifier (isIdentifier_of_binds ⟨_, hbinding⟩)
  refine ⟨fun own => ?_, ?_, fun arm fallback as has => ⟨fun n hn => ?_, fun i hi => ?_⟩⟩
  · have hplanned := Scope.planned_of_template (Scope.template_plural_eq_ok.2 ⟨d, hd, rfl⟩)
    obtain ⟨as, has⟩ : ∃ as, arms d (statements own) [] = .ok as :=
      exists_arms fun b hb => exists_statements own (hplanned b.body (List.mem_map_of_mem hb))
    refine ⟨as, has, ?_⟩
    rw [procedure, hdriver, ok_bind, has]
    rfl
  · obtain ⟨as, has⟩ : ∃ as, arms d (fun b => .ok (some (b.constant?.getD ""))) none = .ok as :=
      exists_arms fun b _ => ⟨_, rfl⟩
    refine ⟨as, has, ?_⟩
    rw [constantBody, hdriver, ok_bind]
    exact bind_eq_ok.2 ⟨as, has, rfl⟩
  · exact exists_firstArm? hd has hn
  · exact exists_firstArm?_eq hd has hi

/-- A text for each category. -/
def replies : Plural :=
  { argument := "count"
    zero := some [.literal "no reply"]
    one := some [.literal "one reply"]
    many := some [.literal "replies"]
    other := some [.literal "never"] }

def repliesScope : Scope :=
  { message :=
      { name := "replies", arguments := [⟨"count", .integer⟩], template := .plural replies }
    location := .inMessage "en" "replies"
    width := .unsigned
    visible := none }

def repliesChoice : Dispatch :=
  { driver := ⟨"count", "count"⟩
    branches := [
      ⟨.zero, .equals 0, .constant, [.giveBack "no reply"]⟩,
      ⟨.one, .equals 1, .constant, [.giveBack "one reply"]⟩,
      ⟨.many, .greaterThan 1, .constant, [.giveBack "replies"]⟩,
      ⟨.other, .otherwise, .constant, [.giveBack "never"]⟩]
    covered := true }

theorem plural_replies : (repliesScope.plural true replies).result = .ok repliesChoice := by
  refine Scope.plural_eq_ok.2 ⟨by decide, ?_, rfl, rfl⟩
  exact Scope.binding_eq_ok.2 ⟨⟨⟨"count", .integer⟩, rfl, by simp [Visible, repliesScope], rfl⟩,
    by decide +kernel, rfl⟩

/-- Without negative numbers the last of the four texts has no arm, and the other three do. -/
theorem exists_three_arms_replies : ∃ as,
    arms repliesChoice (statements true) [] = .ok as ∧ as.length = 3 ∧
      ∀ i < 3, ∃ n, IntegerWidth.unsigned.contains n ∧ firstArm? as n = some i := by
  obtain ⟨hwritten, -, hfits⟩ := arms_exhaustive_irredundant plural_replies
  obtain ⟨as, has, -⟩ := hwritten true
  have hlength : as.length = 3 := length_arms has
  refine ⟨as, has, hlength, fun i hi => ?_⟩
  exact (hfits _ _ as has).2 i (hlength ▸ hi)

end Code

end Phrasebook
