import Phrasebook.Proofs.Plan.Evaluation

set_option autoImplicit false

/-! # Errors about arguments name the message

An error about an argument is raised in the function of the message itself, where its parameters are
bound, or in a function of a variable, however deep in the calls. It always names the message that
was asked for, never the variable at whose function it came up (`Plan.evaluate_names_message`).

Nothing is assumed of the plan: functions may call each other in circles, pass on too little, or not
be there at all. What carries the proof is a property of computations, `NamesOnly`: whatever they
fail with, no other message is named. It holds of two in a row if it holds of both, so that it
passes from operations to flows, and by induction on the calls that are left to all functions. -/

namespace Phrasebook

open Format (Value)

namespace EvalError

/-- The message for which an error about an argument was raised. -/
def raisedFor? : EvalError → Option String
  | .missingArgument message _ => some message
  | .unexpectedArgument message _ => some message
  | .argumentType message _ _ _ => some message
  | .integerOutOfRange message _ _ _ => some message
  | .unknownLanguage _ => none
  | .unknownMessage _ _ => none
  | .unknownFunction _ => none
  | .recursionLimit _ => none

end EvalError

namespace Plan

variable {α β : Type} {message : String}

/-- If a computation fails with an error about an argument, that error names the message. -/
def NamesOnly (message : String) (r : Attempt EvalError α) : Prop :=
  ∀ e, r = .error e → ∀ m, e.raisedFor? = some m → m = message

namespace NamesOnly

theorem ok (a : α) : NamesOnly message (.ok a) := by
  intro e h
  cases h

theorem overflow : NamesOnly message (.overflow : Attempt EvalError α) := by
  intro e h
  cases h

/-- An error about an argument of the message. -/
theorem error {e : EvalError} (h : e.raisedFor? = some message) :
    NamesOnly message (.error e : Attempt EvalError α) := by
  intro e' he' m hm
  cases he'
  rw [h] at hm
  exact (Option.some.inj hm).symm

/-- An error about something else. -/
theorem error_of_eq_none {e : EvalError} (h : e.raisedFor? = none) :
    NamesOnly message (.error e : Attempt EvalError α) := by
  intro e' he' m hm
  cases he'
  rw [h] at hm
  cases hm

/-- One computation after the other. -/
theorem bind {r : Attempt EvalError α} {f : α → Attempt EvalError β} (hr : NamesOnly message r)
    (hf : ∀ a, NamesOnly message (f a)) : NamesOnly message (r >>= f) := by
  intro e he
  rcases Attempt.bind_eq_error.1 he with hfail | ⟨a, -, hfail⟩
  · exact hr e hfail
  · exact hf a e hfail

theorem mapM {f : α → Except EvalError β} {as : List α}
    (h : ∀ a, NamesOnly message (liftM (f a))) : NamesOnly message (liftM (as.mapM f)) := by
  intro e he
  obtain ⟨a, -, ha⟩ := exists_of_mapM_eq_error (Attempt.liftM_eq_error.1 he)
  exact h a e (Attempt.liftM_eq_error.2 ha)

theorem write {room : Nat} {text : String} {next : Nat → Attempt EvalError Outcome}
    (h : ∀ room, NamesOnly message (next room)) :
    NamesOnly message (Plan.write room text next) := by
  unfold Plan.write
  split
  · exact (h _).bind fun o => .ok (o.after text)
  · exact .overflow

end NamesOnly

/-! ## Reading values -/

theorem namesOnly_value (values : Values) (b : Binding) :
    NamesOnly message (liftM (value message values b)) := by
  unfold value
  cases values.lookup b.argument with
  | some v => exact .ok v
  | none => exact .error rfl

theorem namesOnly_passed (values : Values) (bs : List Binding) :
    NamesOnly message (liftM (passed message values bs)) := by
  refine .mapM fun b => ?_
  intro e he
  rcases bind_eq_error.1 (Attempt.liftM_eq_error.1 he) with hfail | ⟨v, -, hfail⟩
  · exact namesOnly_value values b e (Attempt.liftM_eq_error.2 hfail)
  · cases hfail

/-! ## Operations, flows and calls -/

section Running

variable {call : Caller}

theorem namesOnly_runOps
    (hcall : ∀ room function values bs, NamesOnly message (call room function values bs))
    (values : Values) (room : Nat) (ops : List Op) :
    NamesOnly message (runOps message call values room ops) := by
  induction ops generalizing room with
  | nil =>
      rw [runOps]
      exact .ok _
  | cons op ops ih =>
      cases op with
      | giveBack text =>
          rw [runOps]
          exact .ok _
      | literal text =>
          rw [runOps]
          exact .write ih
      | argument b type rendering =>
          rw [runOps]
          refine (namesOnly_value values b).bind fun v => ?_
          cases rendering.render? v with
          | none => exact .overflow
          | some text => exact .write ih
      | call name function bs =>
          rw [runOps]
          exact (hcall room function values bs).bind fun text => .write ih

theorem namesOnly_runFlow
    (hcall : ∀ room function values bs, NamesOnly message (call room function values bs))
    (values : Values) (room : Nat) (flow : Flow) :
    NamesOnly message (runFlow message call values room flow) := by
  cases flow with
  | sequence b => exact namesOnly_runOps hcall values room b.ops
  | dispatch d =>
      refine (namesOnly_value values d.driver).bind fun v => ?_
      cases v with
      | integer n =>
          dsimp only
          cases d.select n with
          | some b => exact namesOnly_runOps hcall values room b.body.ops
          | none => exact .ok _
      | text _ | float _ | display _ => exact .error rfl

end Running

/-- A function of a variable raises no error for another message, whatever plan it is in. -/
theorem namesOnly_call (p : Plan) (depth room : Nat) (function : String) (values : Values)
    (bs : List Binding) : NamesOnly message (p.call message depth room function values bs) := by
  -- The name of the message is handed down unchanged, so the calls that are left carry it on.
  induction depth generalizing room function values bs with
  | zero => exact .error_of_eq_none rfl
  | succ depth ih =>
      rw [call]
      cases p.auxiliaryNamed? function with
      | none => exact .error_of_eq_none rfl
      | some f =>
          refine (namesOnly_passed values bs).bind fun passed => ?_
          exact (namesOnly_runFlow ih passed room f.flow).bind fun o => .ok o.callText

/-! ## Messages -/

theorem namesOnly_supplied (width : IntegerWidth) (f : Function) (args : Values) (q : Param) :
    NamesOnly f.source (liftM (supplied width f args q)) := by
  unfold supplied
  dsimp only
  cases args.lookup q.binding.argument with
  | none => exact .error rfl
  | some v =>
      by_cases hsuits : v.suits q.type
      · simp only [hsuits, Bool.not_true, Bool.false_eq_true, if_false]
        cases v with
        | integer n =>
            by_cases hfits : width.contains n
            · simp only [hfits, if_true]
              exact .ok _
            · simp only [hfits]
              exact .error rfl
        | text _ | float _ | display _ => exact .ok _
      · simp only [hsuits]
        exact .error rfl

theorem namesOnly_bind (width : IntegerWidth) (f : Function) (args : Values) :
    NamesOnly f.source (liftM (Plan.bind width f args)) := by
  unfold Plan.bind
  cases args.find? fun a => (f.paramFor? a.1).isNone with
  | some a => exact .error rfl
  | none => exact .mapM fun q => namesOnly_supplied width f args q

/-- The function of a message is found by the name of the message. -/
theorem source_of_messageNamed? {p : Plan} {f : Function} (h : p.messageNamed? message = some f) :
    f.source = message := by
  simpa using List.find?_some h

/-- An error about an argument names the message that was asked for, whatever the plan and wherever
in nested calls it was raised. -/
theorem evaluate_names_message (p : Plan) (width : IntegerWidth) (message : String) (args : Values)
    (e : EvalError) (he : p.evaluate width message args = .error e) :
    ∀ m, e.raisedFor? = some m → m = message := by
  have hnames : NamesOnly message (p.evaluate width message args) := by
    rw [evaluate]
    cases hf : p.messageNamed? message with
    | none => exact .error_of_eq_none rfl
    | some f =>
        -- Binding speaks of the source of the function, all else of the message.
        have hbind : NamesOnly message (liftM (Plan.bind width f args)) :=
          source_of_messageNamed? hf ▸ namesOnly_bind width f args
        refine hbind.bind fun values => ?_
        refine (namesOnly_runFlow (namesOnly_call p maxDepth) values _ f.flow).bind fun o => ?_
        split
        · exact .ok _
        · exact .overflow
  exact hnames e he

end Plan

/-! ## An example -/

/-- A plan in which the functions of two variables call each other. The second one reads an argument
that the first does not pass on. -/
def circularTour : Plan :=
  let city : Binding := ⟨"city", "city"⟩
  { language := "en"
    messages := [
      { name := "tour", source := "tour", shape := .general, referenced := true
        params := [⟨city, .text, true⟩]
        flow := .sequence ⟨.accumulate, [.literal "By ", .call "leg" "tour_leg" [city]]⟩ }]
    auxiliaries := [
      { name := "tour_leg", source := "leg", shape := .auxiliary, referenced := true
        params := [⟨city, .text, true⟩]
        flow := .sequence ⟨.accumulate, [.argument city .text .passThrough,
          .call "stop" "tour_stop" []]⟩ },
      { name := "tour_stop", source := "stop", shape := .auxiliary, referenced := true
        params := []
        flow := .sequence ⟨.accumulate, [.argument city .text .passThrough,
          .call "leg" "tour_leg" [city]]⟩ }]
    capabilities := .empty }

/-- What is missing two calls down is missing for the message. -/
theorem names_message_circularTour : ∃ m, m = "tour" ∧
    circularTour.evaluate .signed "tour" [("city", .text "rail")] =
      .error (.missingArgument m "city") := by
  have hevaluate : circularTour.evaluate .signed "tour" [("city", .text "rail")] =
      .error (.missingArgument "tour" "city") := by decide +kernel
  exact ⟨_, Plan.evaluate_names_message circularTour _ _ _ _ hevaluate _ rfl, hevaluate⟩

end Phrasebook
