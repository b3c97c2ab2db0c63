import Phrasebook.Proofs.Plan.Meaning

set_option autoImplicit false

/-! # Where an evaluation breaks off

An evaluation breaks off only where the message has no text that could be given: none at all, or one
that is too long (`Plan.evaluate_overflow`). The same is said of every piece of a plan with regard
to the room that is left in the buffer when it is carried out. The proof goes along the evaluation,
as that of `Plan.evaluate_means` does, and needs it: what was written before is the text of the
parts before. -/

namespace Phrasebook

open Format (Value maxTextSize)

namespace Plan

/-! ## Operations and flows -/

section Running

variable {message : String} {call : Caller} {s : Scope} {args values : Values} {room : Nat}

theorem write_eq_overflow {text : String} {next : Nat → Attempt EvalError Outcome} :
    write room text next = .overflow ↔ room < text.utf8ByteSize ∨
      text.utf8ByteSize ≤ room ∧ next (room - text.utf8ByteSize) = .overflow := by
  unfold write
  split
  · next hroom => simp [Attempt.bind_eq_overflow, hroom]
  · next hroom => simp [Nat.lt_of_not_le hroom]

/-- What is written does not fit, or what follows it does not. -/
theorem lt_of_write_eq_overflow {text rest : String} {next : Nat → Attempt EvalError Outcome}
    (h : write room text next = .overflow)
    (hnext : next (room - text.utf8ByteSize) = .overflow →
      room - text.utf8ByteSize < rest.utf8ByteSize) : room < (text ++ rest).utf8ByteSize := by
  rw [String.utf8ByteSize_append]
  rcases write_eq_overflow.1 h with hroom | ⟨hroom, hover⟩
  · omega
  · have := hnext hover
    omega

/-- Calls break off only if the variables that they are made for have no text for the room that is
left. -/
def CallsOverflow (m : Message) (args values : Values) (call : Caller) : Prop :=
  ∀ {room name v function bs b text}, m.variableNamed? name = some v →
    auxiliaryName m.name name = .ok function → call room function values bs = .overflow →
    v.template.bodyFor? args = some b → m.BodyMeans args b text → room < text.utf8ByteSize

theorem runOps_overflow (hcalls : CallsMean s.message args values call)
    (hovers : CallsOverflow s.message args values call) (hgiven : Given s.width args values)
    {ps : List Part} {ops : List Op} {text : String} (hops : (s.parts ps).result = .ok ops)
    (hrun : runOps message call values room ops = .overflow)
    (hmeans : s.message.BodyMeans args ps text) : room < text.utf8ByteSize := by
  -- Along the meaning: with each part the room shrinks as much as the text that is left.
  induction hmeans generalizing ops room with
  | nil =>
      cases hops
      cases hrun
  | @literal literal rest t hrest ih =>
      obtain ⟨op, rest', hop, hrest', rfl⟩ := Scope.parts_cons_eq_ok.1 hops
      rw [Scope.part_literal] at hop
      by_cases hempty : literal.isEmpty
      · rw [if_pos hempty] at hop
        cases hop
        rw [String.isEmpty_iff] at hempty
        rw [hempty, String.empty_append]
        exact ih hrest' hrun
      · rw [if_neg hempty] at hop
        cases hop
        rw [Scope.joinedOption, runOps_joined, runOps] at hrun
        exact lt_of_write_eq_overflow hrun (ih hrest')
  | @argument name directive a r v t rest u ha hr hv ht hrest ih =>
      obtain ⟨op, rest', hop, hrest', rfl⟩ := Scope.parts_cons_eq_ok.1 hops
      obtain ⟨b, type, r', hb, hr', rfl⟩ := Scope.part_argument_eq_ok.1 hop
      obtain ⟨⟨a', ha', -, rfl⟩, -, hname⟩ := Scope.binding_eq_ok.1 hb
      rw [ha] at ha'
      cases ha'
      rw [hr] at hr'
      cases hr'
      rw [Scope.joinedOption, runOps_joined, runOps, Attempt.bind_eq_overflow] at hrun
      rcases hrun with hvalue | ⟨v', hv', hrun⟩
      · exact absurd hvalue Attempt.liftM_ne_overflow
      · -- The value is the one that was supplied, and so it has the text of the meaning.
        rw [Attempt.liftM_eq_ok, value_eq_ok, hname] at hv'
        have hsame := hgiven.supplied hv'
        rw [hv] at hsame
        cases hsame
        rw [ht, Attempt.ofOption_some, Attempt.ok_bind] at hrun
        exact lt_of_write_eq_overflow hrun (ih hrest')
  | @var name v b t rest u hv hb hbody hrest _ ih =>
      obtain ⟨op, rest', hop, hrest', rfl⟩ := Scope.parts_cons_eq_ok.1 hops
      obtain ⟨op, hcall, rfl⟩ := Scope.part_var_eq_ok.1 hop
      obtain ⟨v', function, bs, hv', hfunction, -, rfl⟩ := Scope.call_eq_ok.1 hcall
      rw [Scope.joinedOption, runOps_joined, runOps, Attempt.bind_eq_overflow] at hrun
      rcases hrun with hover | ⟨t', ht', hrun⟩
      · have := hovers hv hfunction hover hb hbody
        rw [String.utf8ByteSize_append]
        omega
      · obtain ⟨b', hb', hbody'⟩ := hcalls hv hfunction ht'
        rw [hb] at hb'
        cases hb'
        rw [hbody'.unique hbody] at hrun
        exact lt_of_write_eq_overflow hrun (ih hrest')

theorem runBody_overflow (hcalls : CallsMean s.message args values call)
    (hovers : CallsOverflow s.message args values call) (hgiven : Given s.width args values)
    {direct : Bool} {b : Body} {block : Block} {text : String}
    (hblock : (s.body direct b).result = .ok block)
    (hrun : runOps message call values room block.ops = .overflow)
    (hmeans : s.message.BodyMeans args b text) : room < text.utf8ByteSize := by
  by_cases hconstant : direct ∧ b.isConstant
  · obtain ⟨rfl, hconstant⟩ := hconstant
    rw [Scope.body_eq_ok_of_constant hconstant] at hblock
    subst hblock
    cases hrun
  · obtain ⟨ops, hops, rfl⟩ := (Scope.body_eq_ok_of_accumulate hconstant).1 hblock
    exact runOps_overflow hcalls hovers hgiven hops hrun hmeans

theorem runFlow_overflow (hcalls : CallsMean s.message args values call)
    (hovers : CallsOverflow s.message args values call) (hgiven : Given s.width args values)
    {direct : Bool} {t : Template} {flow : Flow} {b : Body} {text : String}
    (hflow : (s.template direct t).result = .ok flow)
    (hrun : runFlow message call values room flow = .overflow)
    (hb : t.bodyFor? args = some b) (hmeans : s.message.BodyMeans args b text) :
    room < text.utf8ByteSize := by
  cases t with
  | unset => cases hflow
  | plain body =>
      cases hb
      obtain ⟨block, hblock, rfl⟩ := Scope.template_plain_eq_ok.1 hflow
      exact runBody_overflow hcalls hovers hgiven hblock hrun hmeans
  | plural p =>
      obtain ⟨d, hd, rfl⟩ := Scope.template_plural_eq_ok.1 hflow
      obtain ⟨-, hdriver, -⟩ := Scope.plural_eq_ok.1 hd
      obtain ⟨-, -, hname⟩ := Scope.binding_eq_ok.1 hdriver
      rw [runFlow, Attempt.bind_eq_overflow] at hrun
      rcases hrun with hvalue | ⟨v, hv, hrun⟩
      · exact absurd hvalue Attempt.liftM_ne_overflow
      · rw [Attempt.liftM_eq_ok, value_eq_ok, hname] at hv
        cases v with
        | text _ | float _ | display _ => cases hrun
        | integer n =>
            have hbody : (Template.plural p).bodyFor? args = p.bodyFor? n := by
              simp only [Template.bodyFor?, hgiven.supplied hv]
            rw [hbody] at hb
            rcases select_means hd (n := n) with ⟨hnone, -⟩ | ⟨branch, b', hselect, hb', hblock⟩
            · simp only [hnone] at hrun
              cases hrun
            · rw [hb] at hb'
              cases hb'
              simp only [hselect] at hrun
              exact runBody_overflow hcalls hovers hgiven hblock hrun hmeans

end Running

/-! ## Calls and messages -/

theorem call_overflow {p : Plan} {m : Message} {language message : String} {width : IntegerWidth}
    {args : Values} (hm : m.WellFormed width) (hserves : p.Serves m language width)
    (depth : Nat) : ∀ {values}, Given width args values →
      CallsOverflow m args values (p.call message depth) := by
  -- On the calls that may still nest; where none may, a call fails and does not break off.
  induction depth with
  | zero =>
      intro values _ room name v function bs b text _ _ h
      cases h
  | succ depth ih =>
      intro values hgiven room name v function bs b text hv hfunction h hb hmeans
      obtain ⟨f, hf, hvf⟩ := hserves hv hfunction
      rw [call, hf] at h
      simp only [Attempt.bind_eq_overflow, Attempt.liftM_ne_overflow, false_or,
        Attempt.liftM_eq_ok, Attempt.pure_eq_ok, reduceCtorEq, and_false, exists_false,
        or_false] at h
      obtain ⟨passed, hpassed, hrun⟩ := h
      have hgiven' := given_of_passed hgiven hpassed
      exact runFlow_overflow (s := m.variableScope language width v)
        (call_means hm hserves depth hgiven') (ih hgiven') hgiven' hvf.flow hrun hb hmeans

/-- If the evaluation of a message breaks off, it has no text that is short enough. -/
theorem evaluate_overflow {p : Plan} {l : Localization} {width : IntegerWidth} {m : Message}
    {args : Values} {text : String} (hl : l.WellFormed width)
    (hp : (l.lower width).result = .ok p) (hm : m ∈ l.messages)
    (h : p.evaluate width m.name args = .overflow) (hmeans : m.Means args text) :
    maxTextSize < text.utf8ByteSize := by
  obtain ⟨b, hb, hbody⟩ := hmeans
  obtain ⟨f, hf, hmf⟩ := Localization.exists_messageNamed? hl hp hm
  have hwell := hl.messages m hm
  rw [evaluate, hf] at h
  simp only [Attempt.bind_eq_overflow, Attempt.liftM_ne_overflow, false_or,
    Attempt.liftM_eq_ok] at h
  obtain ⟨values, hvalues, h⟩ := h
  have hgiven := given_of_bind hvalues
  have hserves : p.Serves m l.language width := Localization.serves hl hp hm
  have hcalls : CallsMean m args values (p.call m.name maxDepth) :=
    call_means hwell hserves maxDepth hgiven
  rcases h with hrun | ⟨o, ho, hsize⟩
  · exact runFlow_overflow (s := m.scope l.language width) hcalls
      (call_overflow hwell hserves maxDepth hgiven) hgiven hmf.flow hrun hb hbody
  · -- All of it could be carried out, but the text that is given back is too long.
    obtain ⟨-, b', hb', hbody'⟩ :=
      runFlow_means (s := m.scope l.language width) hcalls hgiven hwell.template hmf.flow ho
    rw [hb] at hb'
    cases hb'
    rw [hbody.unique hbody']
    split at hsize
    · cases hsize
    · next hroom => exact Nat.lt_of_not_le hroom

end Plan

end Phrasebook
