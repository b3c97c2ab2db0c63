import Phrasebook.Compiler
import Phrasebook.Proofs.Results

set_option autoImplicit false

/-! # When an evaluation gives a text

What has been done where carrying out a plan has not failed: one statement for each of its
functions. -/

namespace Phrasebook

open Format (Value maxTextSize)

namespace Plan

/-! ## Values -/

theorem value_eq_ok {message : String} {values : Values} {b : Binding} {v : Value} :
    value message values b = .ok v ↔ values.lookup b.argument = some v := by
  unfold value
  cases values.lookup b.argument <;> simp

theorem passed_eq_ok {message : String} {values passed : Values} {bs : List Binding} :
    Plan.passed message values bs = .ok passed ↔
      List.Forall₂ (fun b e => e.1 = b.argument ∧ values.lookup b.argument = some e.2)
        bs passed := by
  rw [Plan.passed, mapM_eq_ok]
  have hone : ∀ (b : Binding) (e : String × Value),
      (do return (b.argument, ← value message values b) : Except EvalError _) = .ok e ↔
        e.1 = b.argument ∧ values.lookup b.argument = some e.2 := by
    rintro b ⟨x, v⟩
    rw [Phrasebook.bind_eq_ok]
    constructor
    · rintro ⟨v', hv, heq⟩
      cases heq
      exact ⟨rfl, value_eq_ok.1 hv⟩
    · rintro ⟨rfl, hv⟩
      exact ⟨v, value_eq_ok.2 hv, rfl⟩
  simp only [hone]

/-- What is taken for a parameter was supplied under its name, suits its type and fits. -/
theorem of_supplied_eq_ok {width : IntegerWidth} {f : Function} {args : Values} {q : Param}
    {e : String × Value} (h : Plan.supplied width f args q = .ok e) :
    e.1 = q.binding.argument ∧ args.lookup e.1 = some e.2 ∧ e.2.suits q.type ∧
      ∀ n, e.2 = .integer n → width.contains n := by
  unfold Plan.supplied at h
  dsimp only at h
  split at h
  · cases h
  · next v hv =>
      have hsuits : v.suits q.type := by
        by_contra hnot
        rw [Bool.not_eq_true] at hnot
        simp [hnot] at h
      simp only [hsuits, Bool.not_true, Bool.false_eq_true, if_false] at h
      split at h
      · next n =>
          split at h
          · next hfits =>
              cases h
              refine ⟨rfl, hv, hsuits, fun k hk => ?_⟩
              cases hk
              exact hfits
          · cases h
      · next hint =>
          cases h
          exact ⟨rfl, hv, hsuits, fun k hk => absurd hk (hint k)⟩

theorem forall₂_of_bind {width : IntegerWidth} {f : Function} {args values : Values}
    (h : Plan.bind width f args = .ok values) :
    List.Forall₂ (fun q e => Plan.supplied width f args q = .ok e) f.params values := by
  unfold Plan.bind at h
  split at h
  · cases h
  · exact mapM_eq_ok.1 h

/-! ## Operations, flows and calls -/

section Running

variable {message : String} {call : Caller} {values : Values} {room : Nat}

theorem write_eq_ok {text : String} {next : Nat → Attempt EvalError Outcome} {o : Outcome} :
    write room text next = .ok o ↔ text.utf8ByteSize ≤ room ∧
      ∃ o', next (room - text.utf8ByteSize) = .ok o' ∧ o'.after text = o := by
  unfold write
  split
  · next hroom => simp [Attempt.bind_eq_ok, hroom]
  · next hroom => simp [hroom]

theorem runOps_literal_eq_ok {text : String} {ops : List Op} {o : Outcome} :
    runOps message call values room (.literal text :: ops) = .ok o ↔ text.utf8ByteSize ≤ room ∧
      ∃ o', runOps message call values (room - text.utf8ByteSize) ops = .ok o' ∧
        o'.after text = o := by
  rw [runOps, write_eq_ok]

theorem runOps_argument_eq_ok {b : Binding} {type : ArgType} {r : Format.Rendering}
    {ops : List Op} {o : Outcome} :
    runOps message call values room (.argument b type r :: ops) = .ok o ↔
      ∃ v, values.lookup b.argument = some v ∧ ∃ text, r.render? v = some text ∧
        text.utf8ByteSize ≤ room ∧
        ∃ o', runOps message call values (room - text.utf8ByteSize) ops = .ok o' ∧
          o'.after text = o := by
  simp only [runOps, Attempt.bind_eq_ok, Attempt.liftM_eq_ok, Attempt.ofOption_eq_ok, value_eq_ok,
    write_eq_ok]

theorem runOps_call_eq_ok {name function : String} {bs : List Binding} {ops : List Op}
    {o : Outcome} :
    runOps message call values room (.call name function bs :: ops) = .ok o ↔
      ∃ text, call room function values bs = .ok text ∧ text.utf8ByteSize ≤ room ∧
        ∃ o', runOps message call values (room - text.utf8ByteSize) ops = .ok o' ∧
          o'.after text = o := by
  simp only [runOps, Attempt.bind_eq_ok, write_eq_ok]

theorem runFlow_dispatch_eq_ok {d : Dispatch} {o : Outcome} :
    runFlow message call values room (.dispatch d) = .ok o ↔
      ∃ n, values.lookup d.driver.argument = some (.integer n) ∧
        (match d.select n with
          | some b => runOps message call values room b.body.ops
          | none => .ok ⟨"", none⟩) = .ok o := by
  rw [runFlow, Attempt.bind_eq_ok]
  constructor
  · rintro ⟨v, hv, h⟩
    rw [Attempt.liftM_eq_ok, value_eq_ok] at hv
    cases v with
    | integer n => exact ⟨n, hv, h⟩
    | text _ | float _ | display _ => cases h
  · rintro ⟨n, hn, h⟩
    exact ⟨.integer n, Attempt.liftM_eq_ok.2 (value_eq_ok.2 hn), h⟩

end Running

theorem call_eq_ok {p : Plan} {message function text : String} {depth room : Nat}
    {values : Values} {bs : List Binding} :
    p.call message (depth + 1) room function values bs = .ok text ↔
      ∃ f passed o, p.auxiliaryNamed? function = some f ∧
        Plan.passed message values bs = .ok passed ∧
        runFlow message (p.call message depth) passed room f.flow = .ok o ∧ o.callText = text := by
  rw [call]
  cases p.auxiliaryNamed? function with
  | none => simp
  | some f => simp [Attempt.bind_eq_ok, Attempt.liftM_eq_ok]

/-! ## Messages -/

theorem evaluate_eq_ok {p : Plan} {width : IntegerWidth} {message text : String}
    {args : Values} :
    p.evaluate width message args = .ok text ↔
      ∃ f values o, p.messageNamed? message = some f ∧ Plan.bind width f args = .ok values ∧
        runFlow message (p.call message maxDepth) values maxTextSize f.flow = .ok o ∧
        o.messageText = text ∧ text.utf8ByteSize ≤ maxTextSize := by
  rw [evaluate]
  cases p.messageNamed? message with
  | none => simp
  | some f =>
      have hgiven : ∀ o : Outcome, (if o.messageText.utf8ByteSize ≤ maxTextSize then
          Attempt.ok o.messageText else Attempt.overflow : Attempt EvalError String) = .ok text ↔
            o.messageText = text ∧ text.utf8ByteSize ≤ maxTextSize := by
        intro o
        split
        · next hroom =>
            simp only [Attempt.ok.injEq, iff_self_and]
            rintro rfl
            exact hroom
        · next hroom =>
            simp only [reduceCtorEq, false_iff, not_and]
            rintro rfl
            exact hroom
      simp [Attempt.bind_eq_ok, Attempt.liftM_eq_ok, hgiven]

end Plan

theorem Compiled.evaluate_eq_ok {c : Compiled} {language message text : String}
    {args : Values} :
    c.evaluate language message args = .ok text ↔
      ∃ p, c.planOf? language = some p ∧
        p.evaluate c.settings.integer message args = .ok text := by
  rw [evaluate]
  cases c.planOf? language <;> simp

end Phrasebook
