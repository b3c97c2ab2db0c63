import Phrasebook.Proofs.Compilation
import Phrasebook.Proofs.Plan.Scoping

set_option autoImplicit false

/-! # Plans are closed

Whatever a function of a plan refers to is there. Its parameters have names of their own, none of
which is the buffer's, and what it reads is one of them (`Scope.Plans.wellScoped`). What it calls is
one function of the plan and no other: the one that the same message has for the variable, with the
parameters that the call forwards (`Localization.exists_answer`). And whatever a function that is
written into the code calls is written into it as well. Together this is what `Plan.Closed` says,
and every plan that has been compiled has it (`Compiled.plans_closed`).

The names of the functions for variables all stand side by side, whichever messages they belong to;
that a call does not find the function of another message rests on the names that validation has
kept apart. -/

namespace Phrasebook

/-! ## Names that stand for one thing -/

namespace Function

/-- There is a parameter for the binding; it has the type, and it is marked as read. -/
def Carries (f : Function) (b : Binding) (type : ArgType) : Prop :=
  ∃ q ∈ f.params, q.binding = b ∧ q.type = type ∧ q.used = true

/-- The parameters of a function are told apart by their names in the code, also from the buffer,
and whatever the function reads is a parameter of a suitable type. -/
structure WellScoped (f : Function) : Prop where
  distinct : (f.params.map Param.codeName).Nodup
  apart : ∀ q ∈ f.params, q.codeName ≠ bufferName ∧ q.codeName ≠ "_" ++ bufferName
  reads : ∀ b ∈ f.flow.reads, ∃ type, f.Carries b type
  appends : ∀ block ∈ f.flow.blocks, ∀ b type r, .argument b type r ∈ block.ops →
    f.Carries b type
  driver : ∀ d, f.flow = .dispatch d → f.Carries d.driver .integer

end Function

namespace Flow

theorem mem_reads_of_mem_blocks {flow : Flow} {block : Block} (hblock : block ∈ flow.blocks)
    {op : Op} (hop : op ∈ block.ops) {b : Binding} (hb : b ∈ op.reads) : b ∈ flow.reads := by
  cases flow with
  | sequence body =>
      rw [List.mem_singleton.1 hblock] at hop
      exact List.mem_flatMap.2 ⟨op, hop, hb⟩
  | dispatch d =>
      obtain ⟨branch, hbranch, rfl⟩ := List.mem_map.1 hblock
      refine List.mem_cons_of_mem _ (List.mem_flatMap.2 ⟨branch, hbranch, ?_⟩)
      exact List.mem_flatMap.2 ⟨op, hop, hb⟩

end Flow

namespace Scope

variable {s : Scope} {direct : Bool} {t : Template} {names : List String} {f : Function}

theorem Plans.wellScoped (h : s.Plans direct t names f) : f.WellScoped where
  distinct := h.nodup_codeNames
  apart q hq := codeName_ne_buffer (h.isParameterName hq)
  reads b hb := by
    obtain ⟨type, hbinding⟩ := binds_of_mem_reads h.flow b hb
    exact ⟨type, h.exists_param_of_binding hb hbinding⟩
  appends block hblock b type r hop := by
    have hread : b ∈ f.flow.reads :=
      Flow.mem_reads_of_mem_blocks hblock hop (List.mem_singleton.2 rfl)
    exact h.exists_param_of_binding hread (planned_of_template h.flow block hblock _ hop).1
  driver d hd := by
    have hread : d.driver ∈ f.flow.reads := by
      rw [hd]
      exact List.mem_cons_self
    exact h.exists_param_of_binding hread (binding_driver (hd ▸ h.flow))

end Scope

/-! ## Calls -/

namespace Plan

/-- The function that is run by a call for the variable `name`, made by a function of the message:
the only one that is called so, made for that variable, with the parameters that are forwarded. -/
structure Answers (p : Plan) (m : Message) (language : String) (width : IntegerWidth)
    (name function : String) (bs : List Binding) (g : Function) : Prop where
  only : p.auxiliaries.filter (·.name == function) = [g]
  lowered : ∃ v ∈ m.vars, v.name = name ∧ m.IsVariableFunction language width v g
  forwards : g.params.map (·.binding) = bs

/-- A function of the message refers only to what is there, and if it is written into the code, so
is what it calls. -/
structure ClosedIn (p : Plan) (m : Message) (language : String) (width : IntegerWidth)
    (f : Function) : Prop where
  scoping : f.WellScoped
  calls : ∀ block ∈ f.flow.blocks, ∀ name function bs, .call name function bs ∈ block.ops →
    ∃ g, p.Answers m language width name function bs g ∧
      (f.referenced = true → g.referenced = true)

/-- Every function of a plan belongs to a message of the localization, by itself or through a
variable, and refers only to what is there. The functions of messages are always written. -/
structure Closed (p : Plan) (l : Localization) (width : IntegerWidth) : Prop where
  messages : ∀ f ∈ p.messages, f.referenced = true ∧
    ∃ m ∈ l.messages, m.IsFunction l.language width f ∧ p.ClosedIn m l.language width f
  auxiliaries : ∀ g ∈ p.auxiliaries, ∃ m ∈ l.messages, ∃ v ∈ m.vars,
    m.IsVariableFunction l.language width v g ∧ p.ClosedIn m l.language width g

end Plan

/-- A caller that sees the arguments of a variable forwards the parameters of its function. -/
theorem Message.IsVariableFunction.forwards {m : Message} {language : String}
    {width : IntegerWidth} {v : Variable} {g : Function} {s : Scope} {bs : List Binding}
    (hg : m.IsVariableFunction language width v g)
    (hbs : List.Forall₂ s.Binds v.arguments bs) : g.params.map (·.binding) = bs := by
  have hsame : List.Forall₂ (fun (q : Param) b => q.binding = b) g.params bs := by
    refine forall₂_of_common hg.params hbs fun x _ q b hq hb => ?_
    obtain ⟨a, -, hident, hname, -⟩ := Scope.param_eq_ok.1 hq
    obtain ⟨type, hb⟩ := hb
    obtain ⟨-, hident', hname'⟩ := Scope.binding_eq_ok.1 hb
    -- Either side is the name of the argument with the one parameter name that it has.
    cases hq' : q.binding with
    | mk argument ident =>
        cases b with
        | mk argument' ident' =>
            rw [hq'] at hident hname
            cases hname
            cases hname'
            cases Except.ok.inj (hident.symm.trans hident')
            rfl
  have hmap := map_eq_map_of_forall₂ (g := id) hsame fun q b h => h
  rwa [List.map_id] at hmap

namespace Localization

variable {l : Localization} {width : IntegerWidth} {p : Plan} {m : Message}

/-- A call for a variable of a message runs the function of that variable. -/
theorem exists_answer (hl : l.WellFormed width) (hp : (l.lower width).result = .ok p)
    (hm : m ∈ l.messages) {s : Scope} (hs : s.message = m) {name function : String}
    {bs : List Binding} (h : (s.call name).result = .ok (.call name function bs)) :
    ∃ g, p.Answers m l.language width name function bs g ∧
      g.referenced = decide (name ∈ m.referenced) := by
  subst hs
  obtain ⟨v, function', bs', hv, hfunction, hbs, heq⟩ := Scope.call_eq_ok.1 h
  cases heq
  obtain ⟨g, hg, hvg⟩ := serves hl hp hm hv hfunction
  obtain ⟨hmem, rfl⟩ := Message.mem_of_variableNamed? hv
  have hname : g.name = function := by simpa using List.find?_some hg
  refine ⟨g, ⟨?_, ⟨v, hmem, rfl, hvg⟩, hvg.forwards hbs⟩, hvg.referenced⟩
  rw [← hname]
  exact filter_eq_singleton_of_nodup (nodup_auxiliaryNames hl hp) (List.mem_of_find?_eq_some hg)

/-- What a function of a message calls is there. It is written if the function is, provided that a
function is written only if all that its template refers to is led to by the message. -/
theorem closedIn_of_plans (hl : l.WellFormed width) (hp : (l.lower width).result = .ok p)
    (hm : m ∈ l.messages) {s : Scope} (hs : s.message = m) {direct : Bool} {t : Template}
    {names : List String} {f : Function} (hf : s.Plans direct t names f)
    (hrefs : f.referenced = true → ∀ x ∈ t.varRefs, x ∈ m.referenced) :
    p.ClosedIn m l.language width f where
  scoping := hf.wellScoped
  calls block hblock name function bs hop := by
    obtain ⟨href, hcall⟩ := Scope.planned_of_template hf.flow block hblock _ hop
    obtain ⟨g, hg, hreferenced⟩ := exists_answer hl hp hm hs hcall
    refine ⟨g, hg, fun hwritten => ?_⟩
    rw [hreferenced, decide_eq_true_eq]
    exact hrefs hwritten name href

theorem closed_of_lower (hl : l.WellFormed width) (hp : (l.lower width).result = .ok p) :
    p.Closed l width where
  messages f hf := by
    obtain ⟨m, hm, hmf⟩ := exists_message_of_mem hp hf
    refine ⟨hmf.referenced, m, hm, hmf, ?_⟩
    refine closedIn_of_plans hl hp hm rfl (hmf.plans (hl.messages m hm)) fun _ => ?_
    exact m.varRefs_subset_referenced
  auxiliaries g hg := by
    obtain ⟨m, hm, v, hv, hvg⟩ := exists_variable_of_mem hp hg
    refine ⟨m, hm, v, hv, hvg, ?_⟩
    refine closedIn_of_plans hl hp hm rfl (hvg.plans (hl.messages m hm) hv) fun hwritten => ?_
    -- The message leads to the variable, and so to all that the variable refers to.
    rw [hvg.referenced, decide_eq_true_eq] at hwritten
    have hclosed := m.refsOf_subset_referenced v.name hwritten
    rwa [Message.refsOf_of_named (hl.variableNamed? hm hv)] at hclosed

end Localization

/-- The plan of each localization that has been compiled is closed. -/
theorem Compiled.plans_closed {s : Settings} {ls : List Localization} {c : Compiled}
    (hc : (compile s ls).result = .ok c) :
    List.Forall₂ (fun l p => p.Closed l s.integer) ls c.plans := by
  obtain ⟨⟨-, hvalid⟩, -, -, hplans⟩ := compile_eq_ok.1 hc
  have hls := (validate_eq_nil_iff.1 hvalid).2
  refine ((List.forall₂_and_left _ _).2 ⟨hls, hplans⟩).imp ?_
  rintro l p ⟨hl, hp⟩
  exact Localization.closed_of_lower hl hp

theorem plans_closed_letters : ∃ c, (compile {} lettersTwice).result = .ok c ∧
    c.plans.length = 2 ∧ List.Forall₂ (fun l p => p.Closed l .signed) lettersTwice c.plans := by
  obtain ⟨c, hc, -⟩ := exists_compiled_lettersTwice
  have hclosed := Compiled.plans_closed hc
  exact ⟨c, hc, hclosed.length_eq.symm, hclosed⟩

end Phrasebook
