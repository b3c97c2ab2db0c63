import Phrasebook.Proofs.Code.Names
import Phrasebook.Proofs.Plan.Uses

set_option autoImplicit false

/-! # What the operations of a plan refer to

Lowering puts only such operations into a function that the function can carry out
(`Scope.planned_of_template`): what they read is a parameter, marked as used
(`Scope.Plans.exists_param_of_mem_reads`), and what they call is the function of a variable that the
template refers to. The parameters of a function have different names in the code. -/

namespace Phrasebook

namespace Scope

variable {s : Scope} {direct : Bool} {refs : List String}

/-! ## Operations -/

/-- An operation that lowering gives for a template that refers to the variables `refs`. -/
def Planned (s : Scope) (direct : Bool) (refs : List String) : Op → Prop
  | .literal _ => True
  | .argument b type r =>
      s.binding b.argument = .ok (b, type) ∧
        ∃ directive, Format.Rendering.resolve type directive = .ok r
  | .call name function bs => name ∈ refs ∧ (s.call name).result = .ok (.call name function bs)
  | .giveBack _ => direct = true

theorem planned_of_mem_joined {op : Op} {ops : List Op} (hop : s.Planned direct refs op)
    (hops : ∀ o ∈ ops, s.Planned direct refs o) :
    ∀ o ∈ joined op ops, s.Planned direct refs o := by
  unfold joined
  split
  · rw [List.forall_mem_cons] at hops ⊢
    exact ⟨trivial, hops.2⟩
  · rw [List.forall_mem_cons]
    exact ⟨hop, hops⟩

theorem planned_of_part {p : Part} {op : Op} (h : (s.part p).result = .ok (some op))
    (hrefs : ∀ x ∈ p.var?, x ∈ refs) : s.Planned direct refs op := by
  cases p with
  | literal text =>
      rw [part_literal] at h
      by_cases hempty : text.isEmpty
      · simp [hempty] at h
      · simp only [hempty, Bool.false_eq_true, if_false, Except.ok.injEq, Option.some.injEq] at h
        subst h
        trivial
  | argument name directive =>
      obtain ⟨b, type, r, hb, hr, heq⟩ := part_argument_eq_ok.1 h
      cases heq
      have hname := (binding_eq_ok.1 hb).2.2
      exact ⟨hname ▸ hb, directive, hr⟩
  | var name =>
      obtain ⟨op, hcall, heq⟩ := part_var_eq_ok.1 h
      cases heq
      obtain ⟨v, function, bs, -, -, -, rfl⟩ := call_eq_ok.1 hcall
      exact ⟨hrefs name rfl, hcall⟩

theorem planned_of_parts {ps : List Part} {ops : List Op} (h : (s.parts ps).result = .ok ops)
    (hrefs : ∀ x ∈ Body.varRefs ps, x ∈ refs) : ∀ op ∈ ops, s.Planned direct refs op := by
  induction ps generalizing ops with
  | nil =>
      cases h
      simp
  | cons p ps ih =>
      obtain ⟨o, rest, ho, hrest, rfl⟩ := parts_cons_eq_ok.1 h
      have hrefsRest : ∀ x ∈ Body.varRefs ps, x ∈ refs := by
        intro x hx
        refine hrefs x ?_
        rw [Body.varRefs, List.filterMap_cons]
        split
        · exact hx
        · exact List.mem_cons_of_mem _ hx
      cases o with
      | none => exact ih hrest hrefsRest
      | some op =>
          refine planned_of_mem_joined (planned_of_part ho fun x hx => ?_) (ih hrest hrefsRest)
          refine hrefs x ?_
          rw [Body.varRefs, List.filterMap_cons, Option.mem_def.1 hx]
          exact List.mem_cons_self

theorem planned_of_body {b : Body} {block : Block} (h : (s.body direct b).result = .ok block)
    (hrefs : ∀ x ∈ b.varRefs, x ∈ refs) : ∀ op ∈ block.ops, s.Planned direct refs op := by
  by_cases hconstant : direct ∧ b.isConstant
  · obtain ⟨rfl, hconstant⟩ := hconstant
    rw [body_eq_ok_of_constant hconstant] at h
    subst h
    intro op hop
    rw [List.mem_singleton.1 hop]
    rfl
  · obtain ⟨ops, hops, rfl⟩ := (body_eq_ok_of_accumulate hconstant).1 h
    exact planned_of_parts hops hrefs

theorem planned_of_template {t : Template} {flow : Flow}
    (h : (s.template direct t).result = .ok flow) :
    ∀ block ∈ flow.blocks, ∀ op ∈ block.ops, s.Planned direct t.varRefs op := by
  cases t with
  | unset => cases h
  | plain b =>
      obtain ⟨block, hblock, rfl⟩ := template_plain_eq_ok.1 h
      intro block' hmem
      rw [List.mem_singleton.1 hmem]
      refine planned_of_body hblock fun x hx => ?_
      simpa [Template.varRefs, Template.bodies] using hx
  | plural p =>
      obtain ⟨d, hd, rfl⟩ := template_plural_eq_ok.1 h
      obtain ⟨-, -, hbranches, -⟩ := plural_eq_ok.1 hd
      intro block hblock
      obtain ⟨branch, hbranch, rfl⟩ := List.mem_map.1 hblock
      obtain ⟨b, hb, -, hbody⟩ := exists_of_forall₂_right (branches_eq_ok.1 hbranches) hbranch
      refine planned_of_body hbody fun x hx => ?_
      exact List.mem_flatMap.2 ⟨b.2, List.mem_map_of_mem hb, hx⟩

/-! ## Reads -/

theorem binds_of_planned {op : Op} (h : s.Planned direct refs op) :
    ∀ b ∈ op.reads, s.Binds b.argument b := by
  intro b hb
  cases op with
  | literal text => cases hb
  | argument b' type r =>
      rw [List.mem_singleton.1 hb]
      exact ⟨type, h.1⟩
  | call name function bs =>
      obtain ⟨v, function', bs', -, -, hbs, heq⟩ := call_eq_ok.1 h.2
      cases heq
      obtain ⟨x, -, type, hx⟩ := exists_of_forall₂_right hbs hb
      have hname := (binding_eq_ok.1 hx).2.2
      exact ⟨type, hname ▸ hx⟩
  | giveBack text => cases hb

/-- A choice is made by an integer that the template sees. -/
theorem binding_driver {t : Template} {d : Dispatch}
    (h : (s.template direct t).result = .ok (.dispatch d)) :
    s.binding d.driver.argument = .ok (d.driver, .integer) := by
  cases t with
  | unset => cases h
  | plain body =>
      obtain ⟨_, -, heq⟩ := template_plain_eq_ok.1 h
      cases heq
  | plural p =>
      obtain ⟨d', hd, heq⟩ := template_plural_eq_ok.1 h
      cases heq
      obtain ⟨-, hdriver, -, -⟩ := plural_eq_ok.1 hd
      have hname := (binding_eq_ok.1 hdriver).2.2
      rwa [hname]

/-- What a flow reads are arguments that its template sees. -/
theorem binds_of_mem_reads {t : Template} {flow : Flow}
    (h : (s.template direct t).result = .ok flow) :
    ∀ b ∈ flow.reads, s.Binds b.argument b := by
  have hplanned := planned_of_template h
  cases flow with
  | sequence block =>
      intro b hb
      obtain ⟨op, hop, hb⟩ := List.mem_flatMap.1 hb
      exact binds_of_planned (hplanned block (by simp [Flow.blocks]) op hop) b hb
  | dispatch d =>
      intro b hb
      rcases List.mem_cons.1 hb with rfl | hb
      · exact ⟨.integer, binding_driver h⟩
      · obtain ⟨branch, hbranch, hb⟩ := List.mem_flatMap.1 hb
        obtain ⟨op, hop, hb⟩ := List.mem_flatMap.1 hb
        refine binds_of_planned (hplanned branch.body ?_ op hop) b hb
        exact List.mem_map_of_mem hbranch

/-! ## Parameters -/

/-- A function is planned for a template; its parameters are the arguments `names`, which are those
that the template sees. -/
structure Plans (s : Scope) (direct : Bool) (t : Template) (names : List String) (f : Function) :
    Prop where
  wellFormed : s.message.WellFormed s.width
  flow : (s.template direct t).result = .ok f.flow
  params : List.Forall₂ (fun x q => s.param (s.template direct t).uses x = .ok q) names f.params
  nodup : names.Nodup
  seen : ∀ {x a}, s.message.argumentNamed? x = some a → Visible s.visible x → x ∈ names

namespace Plans

variable {t : Template} {names : List String} {f : Function}

theorem arguments_eq (h : s.Plans direct t names f) :
    f.params.map (·.binding.argument) = names := by
  rw [← List.map_id names]
  refine (map_eq_map_of_forall₂ h.params fun x q hq => ?_).symm
  obtain ⟨a, -, -, hname, -⟩ := param_eq_ok.1 hq
  exact hname.symm

/-- An argument that the flow reads is passed, with its type and under the name by which it is
read. -/
theorem exists_param_of_binding (h : s.Plans direct t names f) {b : Binding} {type : ArgType}
    (hb : b ∈ f.flow.reads) (hbinding : s.binding b.argument = .ok (b, type)) :
    ∃ q ∈ f.params, q.binding = b ∧ q.type = type ∧ q.used = true := by
  obtain ⟨⟨a, ha, hseen, htype⟩, hident, -⟩ := binding_eq_ok.1 hbinding
  obtain ⟨q, hq, hparam⟩ := exists_of_forall₂_left h.params (h.seen ha hseen)
  obtain ⟨a', ha', hident', hname, htype', hused⟩ := param_eq_ok.1 hparam
  refine ⟨q, hq, ?_, ?_, ?_⟩
  · rw [hident] at hident'
    have hbinding : q.binding = ⟨q.binding.argument, q.binding.ident⟩ := rfl
    rw [hbinding, hname, ← Except.ok.inj hident']
  · rw [ha] at ha'
    rw [htype', ← htype, ← Option.some.inj ha']
  · rw [hused, List.contains_iff_mem, uses_template h.flow]
    exact List.mem_map_of_mem hb

/-- What is read is passed, under the name by which it is read. -/
theorem exists_param_of_mem_reads (h : s.Plans direct t names f) {b : Binding}
    (hb : b ∈ f.flow.reads) : ∃ q ∈ f.params, q.binding = b ∧ q.used = true := by
  obtain ⟨type, hbinding⟩ := binds_of_mem_reads h.flow b hb
  obtain ⟨q, hq, hqb, -, hused⟩ := h.exists_param_of_binding hb hbinding
  exact ⟨q, hq, hqb, hused⟩

theorem isParameterName (h : s.Plans direct t names f) {q : Param} (hq : q ∈ f.params) :
    IsParameterName q.binding.ident := by
  obtain ⟨x, -, hx⟩ := exists_of_forall₂_right h.params hq
  obtain ⟨a, -, hident, -⟩ := param_eq_ok.1 hx
  exact isParameterName_of_parameterName hident

/-- No two parameters have the same name in the code. -/
theorem nodup_codeNames (h : s.Plans direct t names f) : (f.params.map Param.codeName).Nodup := by
  refine nodup_map_of_forall₂ h.params h.nodup fun x q x' q' hq hq' heq => ?_
  obtain ⟨a, ha, hident, -⟩ := param_eq_ok.1 hq
  obtain ⟨a', ha', hident', -⟩ := param_eq_ok.1 hq'
  have hsame := ident_eq_of_codeName_eq (isParameterName_of_parameterName hident)
    (isParameterName_of_parameterName hident') heq
  rw [hsame] at hident
  obtain ⟨hmem, rfl⟩ := Message.mem_of_argumentNamed? ha
  obtain ⟨hmem', rfl⟩ := Message.mem_of_argumentNamed? ha'
  rw [h.wellFormed.parameters.eq_of_name_eq hmem hmem' hident hident']

end Plans

end Scope

namespace Message

variable {m : Message} {language : String} {width : IntegerWidth} {f : Function}

theorem IsFunction.plans (hf : m.IsFunction language width f) (hm : m.WellFormed width) :
    (m.scope language width).Plans true m.template (m.arguments.map (·.name)) f where
  wellFormed := hm
  flow := hf.flow
  params := hf.params
  nodup := hm.parameters.nodup_map fun a b h => by rw [h]
  seen ha _ := by
    obtain ⟨hmem, rfl⟩ := mem_of_argumentNamed? ha
    exact List.mem_map_of_mem hmem

theorem IsVariableFunction.plans {v : Variable} (hf : m.IsVariableFunction language width v f)
    (hm : m.WellFormed width) (hv : v ∈ m.vars) :
    (m.variableScope language width v).Plans false v.template v.arguments f where
  wellFormed := hm
  flow := hf.flow
  params := hf.params
  nodup := (hm.received v hv).1
  seen _ hseen := hseen v.arguments rfl

end Message

namespace Localization

variable {l : Localization} {width : IntegerWidth} {p : Plan}

theorem exists_message_of_mem (hp : (l.lower width).result = .ok p) {f : Function}
    (hf : f ∈ p.messages) : ∃ m ∈ l.messages, m.IsFunction l.language width f := by
  obtain ⟨-, fs, hmessages, -, hfs⟩ := lower_eq_ok hp
  rw [hmessages] at hf
  obtain ⟨fg, hfg, rfl⟩ := List.mem_map.1 hf
  obtain ⟨m, hm, hmf, -⟩ := exists_of_forall₂_right hfs hfg
  exact ⟨m, hm, hmf⟩

theorem exists_variable_of_mem (hp : (l.lower width).result = .ok p) {g : Function}
    (hg : g ∈ p.auxiliaries) :
    ∃ m ∈ l.messages, ∃ v ∈ m.vars, m.IsVariableFunction l.language width v g := by
  obtain ⟨-, fs, -, hauxiliaries, hfs⟩ := lower_eq_ok hp
  rw [hauxiliaries] at hg
  obtain ⟨fg, hfg, hg⟩ := List.mem_flatMap.1 hg
  obtain ⟨m, hm, -, hgs⟩ := exists_of_forall₂_right hfs hfg
  obtain ⟨v, hv, hvg⟩ := exists_of_forall₂_right hgs hg
  exact ⟨m, hm, v, hv, hvg⟩

theorem exists_messageFunction (hp : (l.lower width).result = .ok p) {m : Message}
    (hm : m ∈ l.messages) : ∃ f ∈ p.messages, m.IsFunction l.language width f := by
  obtain ⟨-, fs, hmessages, -, hfs⟩ := lower_eq_ok hp
  obtain ⟨fg, hfg, hmf, -⟩ := exists_of_forall₂_left hfs hm
  rw [hmessages]
  exact ⟨fg.1, List.mem_map_of_mem hfg, hmf⟩

theorem exists_variableFunction (hp : (l.lower width).result = .ok p) {m : Message}
    (hm : m ∈ l.messages) {v : Variable} (hv : v ∈ m.vars) :
    ∃ g ∈ p.auxiliaries, m.IsVariableFunction l.language width v g := by
  obtain ⟨-, fs, -, hauxiliaries, hfs⟩ := lower_eq_ok hp
  obtain ⟨fg, hfg, -, hgs⟩ := exists_of_forall₂_left hfs hm
  obtain ⟨g, hg, hvg⟩ := exists_of_forall₂_left hgs hv
  rw [hauxiliaries]
  exact ⟨g, List.mem_flatMap.2 ⟨fg, hfg, hg⟩, hvg⟩

end Localization

end Phrasebook
