import Phrasebook.Plan.Evaluation
import Phrasebook.Proofs.Schema.WellFormed

set_option autoImplicit false

/-! # What a message means

The text of a message, told from its templates alone: a body is the text of its parts one after
another, a variable stands for the text of its own template, and of a plural the branch counts that
the number of the driver chooses. There are no plans here and no names of functions.

The meaning is a relation, since a variable may refer to others and only the absence of cycles
makes an end of it. It gives at most one text (`Message.Means.unique`). -/

namespace Phrasebook

/-! ## The branch of a plural -/

namespace Plural

/-- The body for a number: the branch for 0, for 1 or for more if the number is such and the branch
is there, and the branch for the others if not. -/
def bodyFor? (p : Plural) (n : Int) : Option Body :=
  if n = 0 ∧ p.zero.isSome then p.zero
  else if n = 1 ∧ p.one.isSome then p.one
  else if 1 < n ∧ p.many.isSome then p.many
  else p.other

/-- The branch for the first category is taken if it is there and accepts the number, and one of the
rest if not. -/
theorem find?_branch_cons (p : Plural) (n : Int) (c : Category) (cs : List Category) :
    (((c :: cs).filterMap fun c => (p.branch? c).map fun b => (c, b)).find?
        fun b => b.1.condition.accepts n).map (·.2) =
      if c.condition.accepts n ∧ (p.branch? c).isSome then p.branch? c
      else ((cs.filterMap fun c => (p.branch? c).map fun b => (c, b)).find?
        fun b => b.1.condition.accepts n).map (·.2) := by
  cases hb : p.branch? c with
  | none => simp [hb]
  | some b =>
      rw [List.filterMap_cons_some (b := (c, b)) (by simp [hb]), List.find?_cons]
      cases c.condition.accepts n <;> simp

/-- The branches in their order give the same body as the four cases. -/
theorem find?_branches (p : Plural) (n : Int) :
    (p.branches.find? fun b => b.1.condition.accepts n).map (·.2) = p.bodyFor? n := by
  have hother : (if p.other.isSome then p.other else none) = p.other := by
    cases p.other <;> rfl
  rw [branches, Category.all, find?_branch_cons, find?_branch_cons, find?_branch_cons,
    find?_branch_cons]
  simp [Category.condition, Condition.accepts, branch?, bodyFor?, hother]

/-- A plural that keeps the rules has a body for every number of the integer type. -/
theorem isSome_bodyFor? {m : Message} {width : IntegerWidth} {visible : Option (List String)}
    {p : Plural} (h : m.PluralOk width visible p) {n : Int} (hn : width.contains n) :
    (p.bodyFor? n).isSome := by
  unfold bodyFor?
  split_ifs with h0 h1 h2
  · exact h0.2
  · exact h1.2
  · exact h2.2
  · rcases h.covered with hother | ⟨rfl, hzero, hone, hmany⟩
    · exact hother
    · -- Without negative numbers one of the three cases applies.
      exfalso
      simp only [IntegerWidth.contains, Bool.and_eq_true, decide_eq_true_eq] at hn
      have hnot0 : n ≠ 0 := fun h => h0 ⟨h, hzero⟩
      have hnot1 : n ≠ 1 := fun h => h1 ⟨h, hone⟩
      have hnot2 : ¬ 1 < n := fun h => h2 ⟨h, hmany⟩
      omega

end Plural

/-- The body of a template under values for its arguments. -/
def Template.bodyFor? (args : Values) : Template → Option Body
  | .unset => none
  | .plain b => some b
  | .plural p =>
      match args.lookup p.argument with
      | some (.integer n) => p.bodyFor? n
      | _ => none

/-! ## Meaning -/

namespace Message

/-- The text of a body. -/
inductive BodyMeans (m : Message) (args : Values) : Body → String → Prop
  | nil : BodyMeans m args [] ""
  | literal {text rest s} (hrest : BodyMeans m args rest s) :
      BodyMeans m args (.literal text :: rest) (text ++ s)
  | argument {name directive a r v t rest s} (ha : m.argumentNamed? name = some a)
      (hr : Format.Rendering.resolve a.type directive = .ok r) (hv : args.lookup name = some v)
      (ht : r.render? v = some t) (hrest : BodyMeans m args rest s) :
      BodyMeans m args (.argument name directive :: rest) (t ++ s)
  | var {name v b t rest s} (hv : m.variableNamed? name = some v)
      (hb : v.template.bodyFor? args = some b) (ht : BodyMeans m args b t)
      (hrest : BodyMeans m args rest s) :
      BodyMeans m args (.var name :: rest) (t ++ s)

/-- The text of a message. -/
def Means (m : Message) (args : Values) (text : String) : Prop :=
  ∃ b, m.template.bodyFor? args = some b ∧ m.BodyMeans args b text

variable {m : Message} {args : Values}

theorem BodyMeans.unique {b : Body} {s t : String} (hs : m.BodyMeans args b s)
    (ht : m.BodyMeans args b t) : s = t := by
  induction hs generalizing t with
  | nil =>
      cases ht
      rfl
  | literal _ ih =>
      cases ht with
      | literal hrest => rw [ih hrest]
  | argument ha hr hv hs _ ih =>
      cases ht with
      | argument ha' hr' hv' hs' hrest =>
          rw [ha] at ha'
          cases ha'
          rw [hr] at hr'
          cases hr'
          rw [hv] at hv'
          cases hv'
          rw [hs] at hs'
          cases hs'
          rw [ih hrest]
  | var hv hb _ _ ihb ih =>
      cases ht with
      | var hv' hb' hbody hrest =>
          rw [hv] at hv'
          cases hv'
          rw [hb] at hb'
          cases hb'
          rw [ihb hbody, ih hrest]

theorem Means.unique {s t : String} (hs : m.Means args s) (ht : m.Means args t) : s = t := by
  obtain ⟨b, hb, hs⟩ := hs
  obtain ⟨b', hb', ht⟩ := ht
  rw [hb] at hb'
  cases hb'
  exact hs.unique ht

/-- A body that is literal throughout means its text. -/
theorem bodyMeans_literalText {b : Body} (h : b.isConstant) :
    m.BodyMeans args b b.literalText := by
  induction b with
  | nil => exact .nil
  | cons p b ih =>
      rw [Body.isConstant, List.all_cons, Bool.and_eq_true] at h
      cases p with
      | literal text =>
          have htext : Body.literalText (.literal text :: b) = text ++ Body.literalText b := by
            simp [Body.literalText, Part.literal?, String.join_cons]
          rw [htext]
          exact .literal (ih h.2)
      | argument name directive => cases h.1
      | var name => cases h.1

end Message

end Phrasebook
