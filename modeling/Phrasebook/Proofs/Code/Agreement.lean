import Phrasebook.Proofs.Code.Emission
import Phrasebook.Proofs.Plan.Meaning

set_option autoImplicit false

/-! # Code does what plans say

Running the method of a message gives the text that carrying out its plan gives
(`Compiled.evaluate_iff_returns`). A plan is carried out on values by the names of arguments, code
on values by position and under the names of parameters; a plan goes through all branches, code
leaves out one that cannot be taken; a plan calls any function, code has those that something leads
to. The proof goes along the evaluation, as that of `Plan.evaluate_means` does: `runs_of_runOps` for
operations, `runs_of_runFlow` for flows, and `call_runs` for calls, by induction on their depth. -/

namespace Phrasebook

open Format (Value maxTextSize)
open Plan (Caller)

/-! ## Values of the right types -/

/-- Values of arguments of a message, each of the type that is declared. -/
def Typed (m : Message) (width : IntegerWidth) (values : Values) : Prop :=
  ∀ {x v}, values.lookup x = some v → ∃ a, m.argumentNamed? x = some a ∧ v.suits a.type ∧
    ∀ n, v = .integer n → width.contains n

theorem typed_of_passed {m : Message} {message : String} {width : IntegerWidth}
    {values passed : Values} {bs : List Binding} (htyped : Typed m width values)
    (h : Plan.passed message values bs = .ok passed) : Typed m width passed := by
  intro x v hx
  obtain ⟨b, -, hname, hvalue⟩ :=
    exists_of_forall₂_right (Plan.passed_eq_ok.1 h) (mem_of_lookup hx)
  cases hname
  exact htyped hvalue

theorem typed_of_bind {s : Scope} {direct : Bool} {t : Template} {names : List String}
    {f : Function} {args values : Values} (hf : s.Plans direct t names f)
    (h : Plan.bind s.width f args = .ok values) : Typed s.message s.width values := by
  intro x v hx
  obtain ⟨q, hq, hsupplied⟩ :=
    exists_of_forall₂_right (Plan.forall₂_of_bind h) (mem_of_lookup hx)
  obtain ⟨hname, -, hsuits, hfits⟩ := Plan.of_supplied_eq_ok hsupplied
  obtain ⟨y, -, hy⟩ := exists_of_forall₂_right hf.params hq
  obtain ⟨a, ha, -, hargument, htype, -⟩ := Scope.param_eq_ok.1 hy
  refine ⟨a, ?_, ?_, hfits⟩
  · rw [← ha, ← hargument]
    exact congrArg _ hname
  · rw [← htype]
    exact hsuits

namespace Code

/-! ## Entering a function -/

/-- A frame has the values of what is read, under the names of parameters. -/
def Frame.Holds (fr : Frame) (values : Values) (bs : List Binding) : Prop :=
  ∀ b ∈ bs, ∀ v, values.lookup b.argument = some v → fr.value? b.ident = some v

section Entry

variable {s : Scope} {direct : Bool} {t : Template} {names : List String} {f : Function}
  {xs : List Parameter} {vs : List Value}

/-- What a body reads, it finds under the name of the parameter. -/
theorem holds_of_plans (hf : s.Plans direct t names f)
    (hxs : List.Forall₂ (fun q x => parameter s.width q = .ok x) f.params xs) {fr : Frame}
    (hstore : fr.store = bound xs vs)
    (hbuffer : fr.buffer = bufferName ∨ fr.buffer = "_" ++ bufferName) :
    fr.Holds ((f.params.map (·.binding.argument)).zip vs) f.flow.reads := by
  intro b hb v hv
  obtain ⟨q, hq, hbinding, hused⟩ := hf.exists_param_of_mem_reads hb
  have hname : q.codeName = b.ident := by
    rw [Param.codeName, if_pos hused, hbinding]
  have hmem : (q, v) ∈ f.params.zip vs := by
    have hpair := mem_of_lookup hv
    rw [List.zip_map_left] at hpair
    obtain ⟨⟨q', v'⟩, hmem, heq⟩ := List.mem_map.1 hpair
    have hargument : q'.binding.argument = b.argument := (Prod.mk.inj heq).1
    obtain rfl : v' = v := (Prod.mk.inj heq).2
    -- Only one parameter is for this argument.
    have hsame : q' = q := by
      have hnodup : (f.params.map (·.binding.argument)).Nodup := by
        rw [hf.arguments_eq]
        exact hf.nodup
      refine List.inj_on_of_nodup_map hnodup (List.of_mem_zip hmem).1 hq ?_
      rw [hargument, hbinding]
    rwa [← hsame]
  have hcode : (b.ident, v) ∈ (f.params.map Param.codeName).zip vs := by
    rw [List.zip_map_left]
    exact List.mem_map.2 ⟨(q, v), hmem, by rw [Prod.map_apply, hname]; rfl⟩
  have hother : b.ident ≠ fr.buffer := by
    obtain ⟨hout, hunused⟩ := codeName_ne_buffer (hf.isParameterName hq)
    rw [← hname]
    rcases hbuffer with h | h
    · rwa [h]
    · rwa [h]
  rw [Frame.value?, if_neg hother, hstore, bound, map_name_eq hf hxs]
  exact lookup_zip_of_nodup hf.nodup_codeNames hcode

/-- Values of the right types can be given to the parameters. -/
theorem takes_of_plans (hf : s.Plans direct t names f)
    (hxs : List.Forall₂ (fun q x => parameter s.width q = .ok x) f.params xs)
    (hvs : List.Forall₂ (fun q v => v.suits q.type ∧ ∀ n, v = .integer n → s.width.contains n)
      f.params vs) : List.Forall₂ (fun x v => x.type.takes v) xs vs :=
  forall₂_of_common hxs hvs fun _ hq _ _ hx hv =>
    takes_of_suits ((parameter_eq_ok (hf.isParameterName hq)).1 hx).2 hv.1 hv.2

theorem suits_of_typed (hf : s.Plans direct t names f) {values : Values}
    (htyped : Typed s.message s.width values)
    (hvs : List.Forall₂ (fun q v => values.lookup q.binding.argument = some v) f.params vs) :
    List.Forall₂ (fun q v => v.suits q.type ∧ ∀ n, v = .integer n → s.width.contains n)
      f.params vs := by
  have hmem := (List.forall₂_and_left _ _).2 ⟨fun q (hq : q ∈ f.params) => hq, hvs⟩
  refine hmem.imp fun q v ⟨hq, hv⟩ => ?_
  obtain ⟨y, -, hy⟩ := exists_of_forall₂_right hf.params hq
  obtain ⟨a, ha, -, hargument, htype, -⟩ := Scope.param_eq_ok.1 hy
  obtain ⟨a', ha', hsuits, hfits⟩ := htyped hv
  rw [hargument, ha] at ha'
  cases ha'
  rw [htype]
  exact ⟨hsuits, hfits⟩

/-- What a message is given are values of the right types for its parameters. -/
theorem exists_values_of_bind {width : IntegerWidth} {args values : Values}
    (h : Plan.bind width f args = .ok values) :
    ∃ vs, values = (f.params.map (·.binding.argument)).zip vs ∧
      List.Forall₂ (fun q v => args.lookup q.binding.argument = some v) f.params vs ∧
      List.Forall₂ (fun q v => v.suits q.type ∧ ∀ n, v = .integer n → width.contains n)
        f.params vs := by
  have hentries := (Plan.forall₂_of_bind h).imp fun q e => Plan.of_supplied_eq_ok
  refine ⟨values.map (·.2), eq_zip_of_forall₂ (hentries.imp fun q e h => h.1), ?_, ?_⟩
  · refine List.forall₂_map_right_iff.2 (hentries.imp fun q e h => ?_)
    rw [← h.1]
    exact h.2.1
  · exact List.forall₂_map_right_iff.2 (hentries.imp fun q e h => h.2.2)

/-- What is passed in a call are values for the parameters of the function. -/
theorem exists_values_of_passed {message : String} {values passed : Values} {bs : List Binding}
    (hf : s.Plans direct t names f) (harguments : bs.map (·.argument) = names)
    (h : Plan.passed message values bs = .ok passed) :
    ∃ vs, passed = (f.params.map (·.binding.argument)).zip vs ∧
      List.Forall₂ (fun b v => values.lookup b.argument = some v) bs vs ∧
      List.Forall₂ (fun q v => values.lookup q.binding.argument = some v) f.params vs := by
  have hentries := Plan.passed_eq_ok.1 h
  have hvs : List.Forall₂ (fun x v => values.lookup x = some v) names (passed.map (·.2)) := by
    rw [← harguments, List.forall₂_map_left_iff, List.forall₂_map_right_iff]
    exact hentries.imp fun b e h => h.2
  refine ⟨passed.map (·.2), ?_, ?_, ?_⟩
  · rw [hf.arguments_eq, ← harguments]
    exact eq_zip_of_forall₂ (hentries.imp fun b e h => h.1)
  · rw [← harguments] at hvs
    exact List.forall₂_map_left_iff.1 hvs
  · rw [← hf.arguments_eq] at hvs
    exact List.forall₂_map_left_iff.1 hvs

/-- A function for a variable can be called with values of the right types. -/
theorem auxiliaryTakes_of_plans {a : AuxiliaryCode} (hf : s.Plans direct t names f)
    (hxs : List.Forall₂ (fun q x => parameter s.width q = .ok x) f.params a.params)
    (hbuffer : a.buffer = bufferName ∨ a.buffer = "_" ++ bufferName)
    (hvs : List.Forall₂ (fun q v => v.suits q.type ∧ ∀ n, v = .integer n → s.width.contains n)
      f.params vs) : a.Takes vs := by
  refine ⟨?_, takes_of_plans hf hxs hvs⟩
  rw [map_name_eq hf hxs, List.nodup_cons]
  refine ⟨fun hmem => ?_, hf.nodup_codeNames⟩
  obtain ⟨q, hq, hname⟩ := List.mem_map.1 hmem
  obtain ⟨hout, hunused⟩ := codeName_ne_buffer (hf.isParameterName hq)
  rcases hbuffer with h | h
  · exact hout (hname.trans h)
  · exact hunused (hname.trans h)

end Entry

/-! ## Operations -/

section Running

variable {s : Scope} {auxiliaries : List AuxiliaryCode} {message : String} {call : Caller}
  {values : Values} {fr : Frame} {room : Nat}

/-- Calls in the code do what calls in the plan do. -/
def CallsRun (m : Message) (auxiliaries : List AuxiliaryCode) (values : Values)
    (call : Caller) : Prop :=
  ∀ {room name v function bs text}, m.variableNamed? name = some v → name ∈ m.referenced →
    auxiliaryName m.name name = .ok function → bs.map (·.argument) = v.arguments →
    call room function values bs = .ok text →
    ∃ ws a body o, List.Forall₂ (fun b w => values.lookup b.argument = some w) bs ws ∧
      auxiliaries.find? (·.name == function) = some a ∧ a.Takes ws ∧
      (a.frame ws).chosen? a.body = some body ∧ Runs auxiliaries (a.frame ws) body o ∧
      o.written = text

/-- The statement for an argument appends what the rendering gives. -/
theorem runs_argument {b : Binding} {type : ArgType} {directive : Option String}
    {r : Format.Rendering} {v : Value} {text : String} {ss : List Statement} {o : Outcome}
    (hr : Format.Rendering.resolve type directive = .ok r) (hsuits : v.suits type)
    (htext : r.render? v = some text) (hv : fr.value? b.ident = some v)
    (hbuffer : fr.buffer = bufferName) (hss : Runs auxiliaries fr ss o) :
    Runs auxiliaries fr (argumentStatement b.ident r :: ss) (o.after text) := by
  cases directive with
  | some directive =>
      obtain ⟨spec, -, hr⟩ := bind_eq_ok.1 hr
      obtain ⟨_, -, heq⟩ := bind_eq_ok.1 hr
      cases heq
      exact .write hbuffer hv htext hss
  | none =>
      cases hr
      cases type with
      | text =>
          cases v with
          | text t =>
              cases htext
              exact .pushParameter hbuffer hv hss
          | integer _ | float _ | display _ => cases hsuits
      | integer =>
          cases v with
          | integer n =>
              cases htext
              exact .pushNumber hbuffer hv hss
          | text _ | float _ | display _ => cases hsuits
      | float =>
          cases v with
          | float x =>
              exact .write hbuffer hv (shown_places htext) hss
          | text _ | integer _ | display _ => cases hsuits
      | display | custom _ =>
          have hplain : Form.plain.shown? v = some text := by
            rw [shown_plain]
            exact htext
          exact .write hbuffer hv hplain hss

/-- The statement for a call appends what the function of the variable writes. -/
theorem runs_call {name function text : String} {bs : List Binding} {ss : List Statement}
    {o : Outcome} (htext : call room function values bs = .ok text)
    (hcalls : CallsRun s.message auxiliaries values call) (hname : name ∈ s.message.referenced)
    (hcall : (s.call name).result = .ok (.call name function bs)) (hholds : fr.Holds values bs)
    (hbuffer : fr.buffer = bufferName) (hss : Runs auxiliaries fr ss o) :
    Runs auxiliaries fr (.call function fr.own (bs.map (·.ident)) :: ss) (o.after text) := by
  obtain ⟨v, function', bs', hv, hfunction, hbs, heq⟩ := Scope.call_eq_ok.1 hcall
  cases heq
  obtain ⟨ws, a, body, o', hws, ha, htakes, hbody, hrun, rfl⟩ :=
    hcalls hv hname hfunction (Scope.arguments_of_binds hbs) htext
  have hvalues : List.Forall₂ (fun x w => fr.value? x = some w) (bs.map (·.ident)) ws := by
    rw [List.forall₂_map_left_iff]
    have hboth := (List.forall₂_and_left _ _).2 ⟨hholds, hws⟩
    exact hboth.imp fun b w h => h.1 w h.2
  exact .call hbuffer ha hvalues htakes hbody hrun hss

theorem runs_of_runOps {refs : List String} {ops : List Op} {ss : List Statement} {o : Outcome}
    (hcalls : CallsRun s.message auxiliaries values call)
    (htyped : Typed s.message s.width values) (hrefs : ∀ x ∈ refs, x ∈ s.message.referenced)
    (hplanned : ∀ op ∈ ops, s.Planned fr.own refs op)
    (hholds : fr.Holds values (ops.flatMap Op.reads))
    (hbuffer : ops ≠ [] → fr.buffer = bufferName)
    (hss : List.Forall₂ (fun op st => statement fr.own op = .ok st) ops ss)
    (hrun : Plan.runOps message call values room ops = .ok o) : Runs auxiliaries fr ss o := by
  induction hss generalizing o room with
  | nil =>
      cases hrun
      exact .nil
  | @cons op st ops ss hst hrest ih =>
      rw [List.flatMap_cons] at hholds
      obtain ⟨hfirst, hothers⟩ := List.forall_mem_append.1 hholds
      obtain ⟨hop, hplanned⟩ := List.forall_mem_cons.1 hplanned
      have hout : fr.buffer = bufferName := hbuffer (List.cons_ne_nil _ _)
      have hrec : ∀ o room, Plan.runOps message call values room ops = .ok o →
          Runs auxiliaries fr ss o :=
        fun o room => ih hplanned hothers fun _ => hout
      cases op with
      | literal text =>
          obtain ⟨-, o', hrun', rfl⟩ := Plan.runOps_literal_eq_ok.1 hrun
          cases hst
          exact .push hout (hrec o' _ hrun')
      | argument b type r =>
          obtain ⟨v, hv, text, htext, -, o', hrun', rfl⟩ := Plan.runOps_argument_eq_ok.1 hrun
          obtain ⟨hbinding, directive, hr⟩ := hop
          rw [statement_argument (isIdentifier_of_binds ⟨type, hbinding⟩)] at hst
          cases hst
          obtain ⟨⟨a, ha, -, rfl⟩, -⟩ := Scope.binding_eq_ok.1 hbinding
          obtain ⟨a', ha', hsuits, -⟩ := htyped hv
          rw [ha] at ha'
          cases ha'
          exact runs_argument hr hsuits htext (hfirst b List.mem_cons_self v hv) hout
            (hrec o' _ hrun')
      | call name function bs =>
          obtain ⟨text, htext, -, o', hrun', rfl⟩ := Plan.runOps_call_eq_ok.1 hrun
          obtain ⟨hname, hcall⟩ := hop
          rw [statement_call hcall] at hst
          cases hst
          exact runs_call htext hcalls (hrefs name hname) hcall hfirst hout (hrec o' _ hrun')
      | giveBack text =>
          -- What follows is not reached, neither in the plan nor in the code.
          cases hrun
          cases hst
          exact .giveBack hop

/-! ## Flows -/

variable {t : Template} {names : List String} {f : Function} {o : Outcome}

theorem exists_plural (hf : s.Plans fr.own t names f) {d : Dispatch} (hd : f.flow = .dispatch d) :
    ∃ p, (s.plural fr.own p).result = .ok d := by
  have hflow := hf.flow
  rw [hd] at hflow
  cases t with
  | unset => cases hflow
  | plain b =>
      obtain ⟨_, -, heq⟩ := Scope.template_plain_eq_ok.1 hflow
      cases heq
  | plural p =>
      obtain ⟨d', hd', heq⟩ := Scope.template_plural_eq_ok.1 hflow
      cases heq
      exact ⟨p, hd'⟩

/-- Where a plan comes to a number, so does the code. -/
theorem exists_driver (htyped : Typed s.message s.width values)
    (hholds : fr.Holds values f.flow.reads) {d : Dispatch} (hd : f.flow = .dispatch d)
    (hrun : Plan.runFlow message call values room f.flow = .ok o) :
    ∃ n, fr.value? d.driver.ident = some (.integer n) ∧ s.width.contains n ∧
      (match d.select n with
        | some b => Plan.runOps message call values room b.body.ops
        | none => .ok ⟨"", none⟩) = .ok o := by
  rw [hd] at hrun hholds
  obtain ⟨n, hn, hrun⟩ := Plan.runFlow_dispatch_eq_ok.1 hrun
  obtain ⟨a, -, -, hfits⟩ := htyped hn
  exact ⟨n, hholds d.driver List.mem_cons_self _ hn, hfits n rfl, hrun⟩

/-- The statements that a procedure chooses do what the flow does. -/
theorem runs_of_runFlow {proc : Procedure} (hf : s.Plans fr.own t names f)
    (hcalls : CallsRun s.message auxiliaries values call)
    (htyped : Typed s.message s.width values)
    (hrefs : ∀ x ∈ t.varRefs, x ∈ s.message.referenced)
    (hholds : fr.Holds values f.flow.reads) (hbuffer : f.flow.writes → fr.buffer = bufferName)
    (hproc : procedure fr.own f.flow = .ok proc)
    (hrun : Plan.runFlow message call values room f.flow = .ok o) :
    ∃ ss, fr.chosen? proc = some ss ∧ Runs auxiliaries fr ss o := by
  have hplanned := Scope.planned_of_template hf.flow
  cases hflow : f.flow with
  | sequence block =>
      rw [hflow] at hplanned hholds hbuffer hproc hrun
      obtain ⟨ss, hss, heq⟩ := bind_eq_ok.1 hproc
      cases heq
      refine ⟨ss, rfl, ?_⟩
      refine runs_of_runOps hcalls htyped hrefs (hplanned block (by simp [Flow.blocks])) hholds
        (fun hne => hbuffer ?_) (mapM_eq_ok.1 hss) hrun
      simpa [Flow.writes] using hne
  | dispatch d =>
      obtain ⟨n, hdriver, hn, hrun⟩ := exists_driver htyped hholds hflow hrun
      obtain ⟨p, hd⟩ := exists_plural hf hflow
      have hident := identifier_driver hf hflow
      rw [hflow] at hplanned hholds hbuffer hproc
      rw [procedure, hident, ok_bind] at hproc
      obtain ⟨as, has, heq⟩ := bind_eq_ok.1 hproc
      cases heq
      simp only [Frame.chosen?, hdriver]
      rcases find?_arms hd hn has with ⟨b, ss, hselect, hlive, hss, hfind⟩ | ⟨hselect, hfind⟩
      · rw [hselect] at hrun
        rw [hfind]
        refine ⟨ss, rfl, ?_⟩
        have hmem : b ∈ d.branches := List.mem_of_mem_filter hlive
        refine runs_of_runOps hcalls htyped hrefs (hplanned b.body (List.mem_map_of_mem hmem))
          (fun x hx => hholds x (List.mem_cons_of_mem _ ?_)) (fun hne => hbuffer ?_)
          (mapM_eq_ok.1 hss) hrun
        · exact List.mem_flatMap.2 ⟨b, hmem, hx⟩
        · exact List.any_eq_true.2 ⟨b, hlive, by simpa using hne⟩
      · -- No branch takes the number: the code comes to its arm for all the rest, which is empty.
        rw [hselect] at hrun
        rw [hfind]
        cases hrun
        exact ⟨[], rfl, .nil⟩

/-- A method of texts alone gives the text that the plan gives back. -/
theorem bodyReturns_of_constant {body : MethodBody} (hf : s.Plans fr.own t names f)
    (htyped : Typed s.message s.width values) (hholds : fr.Holds values f.flow.reads)
    (hconstant : f.flow.isConstant) (hbody : constantBody f.flow = .ok body)
    (hrun : Plan.runFlow message call values room f.flow = .ok o) :
    MethodCode.BodyReturns auxiliaries fr body o.messageText := by
  cases hflow : f.flow with
  | sequence block =>
      rw [hflow] at hconstant hbody hrun
      obtain ⟨text, htext⟩ := Option.isSome_iff_exists.1 hconstant
      cases hbody
      rw [Plan.runFlow, (Block.constant?_eq_some_iff.1 htext).2] at hrun
      cases hrun
      rw [htext]
      rfl
  | dispatch d =>
      obtain ⟨n, hdriver, hn, hrun⟩ := exists_driver htyped hholds hflow hrun
      obtain ⟨p, hd⟩ := exists_plural hf hflow
      have hident := identifier_driver hf hflow
      rw [hflow] at hconstant hbody
      rw [constantBody, hident, ok_bind] at hbody
      obtain ⟨as, has, heq⟩ := bind_eq_ok.1 hbody
      cases heq
      have hlookup : fr.store.lookup d.driver.ident = some (.integer n) := by
        rw [Frame.value?] at hdriver
        split at hdriver
        · cases hdriver
        · exact hdriver
      rcases find?_arms hd hn has with ⟨b, x, hselect, hlive, hx, hfind⟩ | ⟨hselect, hfind⟩
      · rw [hselect] at hrun
        have hb := List.all_eq_true.1 hconstant b (List.mem_of_mem_filter hlive)
        obtain ⟨text, htext⟩ := Option.isSome_iff_exists.1 hb
        simp only [(Block.constant?_eq_some_iff.1 htext).2] at hrun
        cases hrun
        cases hx
        exact ⟨n, _, hlookup, hfind, by rw [htext]; rfl⟩
      · rw [hselect] at hrun
        cases hrun
        exact ⟨n, _, hlookup, hfind, rfl⟩

end Running

/-! ## Calls -/

/-- The functions of the variables that a message leads to are all written. -/
def Written (p : Plan) (m : Message) (language : String) (width : IntegerWidth)
    (auxiliaries : List AuxiliaryCode) : Prop :=
  ∀ {name v function}, m.variableNamed? name = some v → name ∈ m.referenced →
    auxiliaryName m.name name = .ok function →
    ∃ g a, p.auxiliaryNamed? function = some g ∧ m.IsVariableFunction language width v g ∧
      auxiliaries.find? (·.name == function) = some a ∧ auxiliary width g = .ok a

theorem written_of_lower {l : Localization} {width : IntegerWidth} {p : Plan} {m : Message}
    {auxiliaries : List AuxiliaryCode} (hl : l.WellFormed width)
    (hp : (l.lower width).result = .ok p) (hm : m ∈ l.messages)
    (hauxiliaries : List.Forall₂ (fun g a => auxiliary width g = .ok a ∧ a.name = g.name)
      (p.auxiliaries.filter (·.referenced)) auxiliaries) :
    Written p m l.language width auxiliaries := by
  intro name v function hv hname hfunction
  obtain ⟨g, hg, hvg⟩ := Localization.serves hl hp hm hv hfunction
  have hreferenced : g.referenced := by
    rw [hvg.referenced, (Message.mem_of_variableNamed? hv).2]
    exact decide_eq_true hname
  obtain ⟨a, ha, hcode, -⟩ := exists_find?_of_forall₂ (q := (·.name == function))
    hauxiliaries (fun g a h => by rw [h.2]) (find?_filter_eq_some hg hreferenced)
  exact ⟨g, a, hg, hvg, ha, hcode⟩

/-- Calls in the code do what calls in the plan do, however deep they nest. -/
theorem call_runs {p : Plan} {m : Message} {language message : String} {width : IntegerWidth}
    {auxiliaries : List AuxiliaryCode} (hm : m.WellFormed width)
    (hwritten : Written p m language width auxiliaries) (depth : Nat) :
    ∀ {values}, Typed m width values →
      CallsRun m auxiliaries values (p.call message depth) := by
  induction depth with
  | zero =>
      intro values _ room name v function bs text _ _ _ _ h
      cases h
  | succ depth ih =>
      intro values htyped room name v function bs text hv hname hfunction harguments h
      obtain ⟨g, passed, o, hg, hpassed, ho, rfl⟩ := Plan.call_eq_ok.1 h
      obtain ⟨g', a, hg', hvg, ha, hcode⟩ := hwritten hv hname hfunction
      rw [hg] at hg'
      cases hg'
      have hg := hvg.plans hm (Message.mem_of_variableNamed? hv).1
      obtain ⟨-, hbuffer, hxs, hproc⟩ :=
        auxiliary_eq_ok (isIdentifier_of_auxiliaryName hvg.name) hcode
      obtain ⟨ws, hzip, hws, hparams⟩ := exists_values_of_passed hg harguments hpassed
      have hnamed : a.buffer = bufferName ∨ a.buffer = "_" ++ bufferName := by
        rw [hbuffer]
        split
        · exact .inl rfl
        · exact .inr rfl
      have htakes : a.Takes ws :=
        auxiliaryTakes_of_plans hg hxs hnamed (suits_of_typed hg htyped hparams)
      have hholds : (a.frame ws).Holds passed g.flow.reads := by
        rw [hzip]
        exact holds_of_plans hg hxs rfl hnamed
      have hrefs : ∀ x ∈ v.template.varRefs, x ∈ m.referenced := by
        rw [← m.refsOf_of_named hv]
        exact m.refsOf_subset_referenced name hname
      have hpassed : Typed m width passed := typed_of_passed htyped hpassed
      obtain ⟨body, hbody, hruns⟩ : ∃ body, (a.frame ws).chosen? a.body = some body ∧
          Runs auxiliaries (a.frame ws) body o := by
        refine runs_of_runFlow (s := m.variableScope language width v) hg (ih hpassed) hpassed
          hrefs hholds (fun hwrites => ?_) hproc ho
        show a.buffer = bufferName
        rw [hbuffer, if_pos hwrites]
      refine ⟨ws, a, body, o, hws, ha, htakes, hbody, hruns, ?_⟩
      -- Nothing is given back, so the text of the call is all that was written.
      simp [Outcome.callText, hruns.returned_eq_none rfl]

/-! ## Messages -/

/-- The method of a message gives the text that carrying out its function gives. -/
theorem returns_of_runFlow {l : Localization} {width : IntegerWidth} {p : Plan} {m : Message}
    {f : Function} {mc : MethodCode} {auxiliaries : List AuxiliaryCode} {args values : Values}
    {o : Outcome} (hl : l.WellFormed width) (hp : (l.lower width).result = .ok p)
    (hm : m ∈ l.messages) (hmf : m.IsFunction l.language width f)
    (hauxiliaries : List.Forall₂ (fun g a => auxiliary width g = .ok a ∧ a.name = g.name)
      (p.auxiliaries.filter (·.referenced)) auxiliaries) (hmc : method width f = .ok mc)
    (hvalues : Plan.bind width f args = .ok values)
    (ho : Plan.runFlow m.name (p.call m.name maxDepth) values maxTextSize f.flow = .ok o) :
    ∃ vs, List.Forall₂ (fun a v => args.lookup a.name = some v) m.arguments vs ∧
      mc.Returns auxiliaries vs o.messageText := by
  have hwell := hl.messages m hm
  have hf := hmf.plans hwell
  obtain ⟨-, hxs, hbody⟩ := method_eq_ok (isIdentifier_of_methodName hmf.name) hmc
  obtain ⟨vs, hzip, hvs, hsuits⟩ := exists_values_of_bind hvalues
  have hgiven : List.Forall₂ (fun a v => args.lookup a.name = some v) m.arguments vs := by
    have hnames : List.Forall₂ (fun x v => args.lookup x = some v)
        (f.params.map (·.binding.argument)) vs := List.forall₂_map_left_iff.2 hvs
    rw [hf.arguments_eq] at hnames
    exact List.forall₂_map_left_iff.1 hnames
  have htyped : Typed m width values := typed_of_bind hf hvalues
  have hcalls : CallsRun m auxiliaries values (p.call m.name maxDepth) :=
    call_runs hwell (written_of_lower hl hp hm hauxiliaries) maxDepth htyped
  have hholds : (mc.frame vs).Holds values f.flow.reads := by
    rw [hzip]
    exact holds_of_plans hf hxs rfl (.inl rfl)
  refine ⟨vs, hgiven, ?_, takes_of_plans hf hxs hsuits, ?_⟩
  · rw [map_name_eq hf hxs]
    exact hf.nodup_codeNames
  · rcases hbody with ⟨hconstant, hbody⟩ | ⟨proc, hproc, hbody⟩
    · exact bodyReturns_of_constant (s := m.scope l.language width) hf htyped hholds hconstant
        hbody ho
    · obtain ⟨ss, hss, hruns⟩ : ∃ ss, (mc.frame vs).chosen? proc = some ss ∧
          Runs auxiliaries (mc.frame vs) ss o :=
        runs_of_runFlow (s := m.scope l.language width) hf hcalls htyped
          m.varRefs_subset_referenced hholds (fun _ => rfl) hproc ho
      rw [hbody]
      exact ⟨ss, o, hss, hruns, rfl⟩

end Code

/-- Whatever can be evaluated is what the code gives: the code of the language can be written, and
its method for the message, called with the values of the arguments in the order of the message,
gives that text and no other. -/
theorem Compiled.evaluate_iff_returns {s : Settings} {ls : List Localization} {c : Compiled}
    (hc : (compile s ls).result = .ok c) {language message text : String} {args : Values}
    (h : c.evaluate language message args = .ok text) :
    ∃ l ∈ ls, l.language = language ∧ ∃ m ∈ l.messages, m.name = message ∧
      ∃ r p code name vs, (r, p) ∈ c.contract.registry.zip c.plans ∧ r.language = language ∧
        Code.localizer c.settings.integer r p = .ok code ∧ methodName message = .ok name ∧
        List.Forall₂ (fun a v => args.lookup a.name = some v) m.arguments vs ∧
        ∀ t, code.Returns name vs t ↔ t = text := by
  obtain ⟨⟨-, hvalid⟩, hsettings, -, -⟩ := compile_eq_ok.1 hc
  rw [hsettings]
  obtain ⟨p, hplan, h⟩ := evaluate_eq_ok.1 h
  rw [hsettings] at h
  obtain ⟨f, values, o, hf, hvalues, ho, rfl, -⟩ := Plan.evaluate_eq_ok.1 h
  obtain ⟨l, hl, hlanguage, hp, r, hr, hregister⟩ := exists_localization_of_planOf? hc hplan
  have hwell := (validate_eq_nil_iff.1 hvalid).2 l hl
  have hmem := List.mem_of_find?_eq_some hf
  obtain ⟨m, hm, hmf⟩ := Localization.exists_message_of_mem hp hmem
  obtain rfl : m.name = message := by
    rw [← hmf.source]
    simpa using List.find?_some hf
  obtain ⟨hregistered, -, htype⟩ := Contract.register_eq_ok.1 hregister
  obtain ⟨code, hcode, hauxiliaries, hmethods⟩ := Code.exists_localizer hwell hp htype
  -- Methods have names of their own, so that the one found by its name is that of the message.
  have hfind := find?_eq_some_of_nodup (Localization.nodup_methodNames hwell hp) hmem
  obtain ⟨mc, hmc, hmethod, -⟩ := exists_find?_of_forall₂ (q := (·.name == f.name)) hmethods
    (fun f mc h => by rw [h.2]) hfind
  obtain ⟨vs, hvs, hreturns⟩ :=
    Code.returns_of_runFlow hwell hp hm hmf hauxiliaries hmethod hvalues ho
  have hreturns : code.Returns f.name vs o.messageText := ⟨mc, hmc, hreturns⟩
  refine ⟨l, hl, hlanguage, m, hm, rfl, r, p, code, f.name, vs, hr, hregistered.trans hlanguage,
    hcode, hmf.name, hvs, fun t => ⟨fun ht => ht.unique hreturns, ?_⟩⟩
  rintro rfl
  exact hreturns

theorem evaluate_iff_returns_letters : ∃ c, (compile {} lettersTwice).result = .ok c ∧
    c.evaluate "de" "inbox" threeForAnn = .ok "Ann: 3 Briefe" ∧
    ∃ r p code name vs, (r, p) ∈ c.contract.registry.zip c.plans ∧ r.language = "de" ∧
      Code.localizer c.settings.integer r p = .ok code ∧ methodName "inbox" = .ok name ∧
      ∀ t, code.Returns name vs t ↔ t = "Ann: 3 Briefe" := by
  obtain ⟨c, hc, htext⟩ := exists_compiled_lettersTwice
  obtain ⟨l, -, -, m, -, -, r, p, code, name, vs, hr, hlanguage, hcode, hname, -, hreturns⟩ :=
    Compiled.evaluate_iff_returns hc htext
  exact ⟨c, hc, htext, r, p, code, name, vs, hr, hlanguage, hcode, hname, hreturns⟩

end Phrasebook
