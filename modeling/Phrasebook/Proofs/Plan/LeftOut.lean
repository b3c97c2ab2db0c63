import Phrasebook.Proofs.Plan.Capabilities
import Phrasebook.Proofs.Plan.Closed

set_option autoImplicit false

/-! # Branches that are left out

A choice by a number that is never negative, with branches for 0, for 1 and for more, does not need
a branch for the others. If there is one all the same, it is planned like any other and then left
out of the code. So what a plan says of the uses of things is about all branches: which parameters
are read (`Scope.Plans.used_iff`), which variables the message leads to
(`Localization.reached_of_calls`), and whether texts are formatted
(`Localization.mem_imports_iff`). It says the same of the branches that are kept exactly if whatever
the others use is used elsewhere as well, which is `Plan.Spared`. -/

namespace Phrasebook

/-! ## Operations that are kept -/

namespace Op

/-- The function that an operation calls. -/
def callee? : Op → Option String
  | .call _ function _ => some function
  | _ => none

/-- The operation writes through the formatting machinery. -/
def formats : Op → Bool
  | .argument _ _ r => r.capability.writes
  | _ => false

theorem formats_iff {op : Op} : op.formats ↔ ∃ c, op.capability? = some c ∧ c.writes := by
  cases op <;> simp [formats, capability?]

end Op

namespace Flow

/-- The argument that a choice is made by. -/
def driver? : Flow → Option Binding
  | .sequence _ => none
  | .dispatch d => some d.driver

/-- The operations of the bodies that can be taken. -/
def keptOps : Flow → List Op
  | .sequence b => b.ops
  | .dispatch d => d.live.flatMap (·.body.ops)

/-- The operations of the bodies that are never taken. -/
def leftOutOps : Flow → List Op
  | .sequence _ => []
  | .dispatch d =>
      (d.branches.filter fun b => d.otherUnreachable && b.category == .other).flatMap (·.body.ops)

/-- The bindings that are read in the bodies that can be taken, or to choose between them. -/
def keptReads (flow : Flow) : List Binding :=
  flow.driver?.toList ++ flow.keptOps.flatMap Op.reads

variable {flow : Flow} {op : Op} {b : Binding}

/-- An operation is kept or left out. -/
theorem exists_block_iff :
    (∃ block ∈ flow.blocks, op ∈ block.ops) ↔ op ∈ flow.keptOps ∨ op ∈ flow.leftOutOps := by
  cases flow with
  | sequence block => simp [blocks, keptOps, leftOutOps]
  | dispatch d =>
      simp only [blocks, keptOps, leftOutOps, Dispatch.live, List.mem_flatMap, List.mem_filter,
        List.mem_map]
      constructor
      · rintro ⟨_, ⟨branch, hbranch, rfl⟩, hop⟩
        by_cases hleft : (d.otherUnreachable && branch.category == .other) = true
        · exact .inr ⟨branch, ⟨hbranch, hleft⟩, hop⟩
        · exact .inl ⟨branch, ⟨hbranch, by rw [Bool.eq_false_iff.2 hleft]; rfl⟩, hop⟩
      · rintro (⟨branch, ⟨hbranch, -⟩, hop⟩ | ⟨branch, ⟨hbranch, -⟩, hop⟩)
        · exact ⟨_, ⟨branch, hbranch, rfl⟩, hop⟩
        · exact ⟨_, ⟨branch, hbranch, rfl⟩, hop⟩

theorem mem_reads_iff :
    b ∈ flow.reads ↔ b ∈ flow.keptReads ∨ ∃ op ∈ flow.leftOutOps, b ∈ op.reads := by
  have hreads : b ∈ flow.reads ↔
      b ∈ flow.driver?.toList ∨ ∃ op, (∃ block ∈ flow.blocks, op ∈ block.ops) ∧ b ∈ op.reads := by
    constructor
    · intro hb
      cases flow with
      | sequence block =>
          obtain ⟨op, hop, hb⟩ := List.mem_flatMap.1 hb
          exact .inr ⟨op, ⟨block, List.mem_singleton.2 rfl, hop⟩, hb⟩
      | dispatch d =>
          rcases List.mem_cons.1 hb with rfl | hb
          · exact .inl (List.mem_singleton.2 rfl)
          · obtain ⟨branch, hbranch, hb⟩ := List.mem_flatMap.1 hb
            obtain ⟨op, hop, hb⟩ := List.mem_flatMap.1 hb
            exact .inr ⟨op, ⟨_, List.mem_map_of_mem hbranch, hop⟩, hb⟩
    · rintro (hb | ⟨op, ⟨block, hblock, hop⟩, hb⟩)
      · cases flow with
        | sequence block => cases hb
        | dispatch d =>
            rw [List.mem_singleton.1 hb]
            exact List.mem_cons_self
      · exact mem_reads_of_mem_blocks hblock hop hb
  rw [hreads, keptReads, List.mem_append, List.mem_flatMap, or_assoc]
  refine or_congr_right ?_
  constructor
  · rintro ⟨op, hop, hb⟩
    rcases exists_block_iff.1 hop with hop | hop
    · exact .inl ⟨op, hop, hb⟩
    · exact .inr ⟨op, hop, hb⟩
  · rintro (⟨op, hop, hb⟩ | ⟨op, hop, hb⟩)
    · exact ⟨op, exists_block_iff.2 (.inl hop), hb⟩
    · exact ⟨op, exists_block_iff.2 (.inr hop), hb⟩

end Flow

/-! ## What templates are planned with -/

/-- The templates of a message: its own and those of its variables. -/
def Message.templates (m : Message) : List Template := m.template :: m.vars.map (·.template)

/-- There is a branch for every number that is not negative, and one for the others besides. -/
def Template.hasIdleBranch : Template → Bool
  | .plural p => p.coversNaturals && p.other.isSome
  | _ => false

namespace Scope

variable {s : Scope} {direct : Bool} {refs : List String}

/-- Only a branch that is idle is left out, and only if there are no negative numbers. -/
theorem leftOutOps_eq_nil {t : Template} {flow : Flow}
    (h : (s.template direct t).result = .ok flow)
    (hidle : s.width = .signed ∨ t.hasIdleBranch = false) : flow.leftOutOps = [] := by
  cases t with
  | unset => cases h
  | plain b =>
      obtain ⟨block, -, rfl⟩ := template_plain_eq_ok.1 h
      rfl
  | plural p =>
      obtain ⟨d, hd, rfl⟩ := template_plural_eq_ok.1 h
      obtain ⟨-, -, hbranches, hcovered⟩ := plural_eq_ok.1 hd
      -- branches are planned for those that the template has, and for no others
      have hother : d.has .other → p.other.isSome := by
        intro hhas
        obtain ⟨branch, hbranch, hcategory⟩ := List.any_eq_true.1 hhas
        obtain ⟨b, hb, ⟨hsame, -⟩, -⟩ :=
          exists_of_forall₂_right (branches_eq_ok.1 hbranches) hbranch
        rw [eq_of_beq hcategory] at hsame
        obtain ⟨category, -, hpresent⟩ := List.mem_filterMap.1 hb
        obtain ⟨body, hbody, rfl⟩ := Option.map_eq_some_iff.1 hpresent
        cases hsame
        exact Option.isSome_iff_exists.2 ⟨body, hbody⟩
      have hreachable : d.otherUnreachable = false := by
        rw [Dispatch.otherUnreachable, Bool.and_eq_false_iff, hcovered, Plural.coversWidth,
          Bool.and_eq_false_iff]
        rcases hidle with hsigned | hidle
        · exact .inl (.inl (by rw [hsigned]; rfl))
        · by_cases hnaturals : p.coversNaturals
          · right
            by_contra hhas
            have hsome := hother (by simpa using hhas)
            simp [Template.hasIdleBranch, hnaturals, hsome] at hidle
          · exact .inl (.inr (by simpa using hnaturals))
      simp [Flow.leftOutOps, hreachable]

/-- Calls are not joined to anything. -/
theorem call_mem_joined {op : Op} {ops : List Op} {name function : String} {bs : List Binding}
    (h : op = .call name function bs ∨ .call name function bs ∈ ops) :
    .call name function bs ∈ joined op ops := by
  unfold joined
  split
  · rcases h with h | h
    · cases h
    · rcases List.mem_cons.1 h with h | h
      · cases h
      · exact List.mem_cons_of_mem _ h
  · rcases h with rfl | h
    · exact List.mem_cons_self
    · exact List.mem_cons_of_mem _ h

theorem exists_call_of_parts {ps : List Part} {ops : List Op} {name : String}
    (h : (s.parts ps).result = .ok ops) (hname : name ∈ Body.varRefs ps) :
    ∃ function bs, .call name function bs ∈ ops := by
  induction ps generalizing ops with
  | nil => cases hname
  | cons p ps ih =>
      obtain ⟨o, rest, ho, hrest, rfl⟩ := parts_cons_eq_ok.1 h
      have hcases : p = .var name ∨ name ∈ Body.varRefs ps := by
        cases p with
        | var name' =>
            rcases List.mem_cons.1 hname with rfl | hname
            · exact .inl rfl
            · exact .inr hname
        | literal text => exact .inr hname
        | argument name' directive => exact .inr hname
      rcases hcases with rfl | hname
      · obtain ⟨op, hcall, rfl⟩ := part_var_eq_ok.1 ho
        obtain ⟨v, function, bs, -, -, -, rfl⟩ := call_eq_ok.1 hcall
        exact ⟨function, bs, call_mem_joined (.inl rfl)⟩
      · obtain ⟨function, bs, hmem⟩ := ih hrest hname
        refine ⟨function, bs, ?_⟩
        cases o with
        | none => exact hmem
        | some op => exact call_mem_joined (.inr hmem)

theorem exists_call_of_body {b : Body} {block : Block} {name : String}
    (h : (s.body direct b).result = .ok block) (hname : name ∈ b.varRefs) :
    ∃ function bs, .call name function bs ∈ block.ops := by
  have hconstant : ¬(direct ∧ b.isConstant) := by
    rintro ⟨-, hconstant⟩
    obtain ⟨p, hp, hvar⟩ := List.mem_filterMap.1 hname
    have hliteral := List.all_eq_true.1 hconstant p hp
    cases p with
    | var _ => cases hliteral
    | literal _ | argument _ _ => cases hvar
  obtain ⟨ops, hops, rfl⟩ := (body_eq_ok_of_accumulate hconstant).1 h
  exact exists_call_of_parts hops hname

/-- Whatever variable a template refers to is called for, in some body. -/
theorem exists_call_of_template {t : Template} {flow : Flow} {name : String}
    (h : (s.template direct t).result = .ok flow) (hname : name ∈ t.varRefs) :
    ∃ block ∈ flow.blocks, ∃ function bs, .call name function bs ∈ block.ops := by
  cases t with
  | unset => cases h
  | plain b =>
      obtain ⟨block, hblock, rfl⟩ := template_plain_eq_ok.1 h
      have hbody : name ∈ b.varRefs := by
        simpa [Template.varRefs, Template.bodies] using hname
      exact ⟨block, List.mem_singleton.2 rfl, exists_call_of_body hblock hbody⟩
  | plural p =>
      obtain ⟨d, hd, rfl⟩ := template_plural_eq_ok.1 h
      obtain ⟨-, -, hbranches, -⟩ := plural_eq_ok.1 hd
      obtain ⟨body, hbody, hname⟩ := List.mem_flatMap.1 hname
      obtain ⟨b, hb, rfl⟩ := List.mem_map.1 hbody
      obtain ⟨branch, hbranch, -, hlowered⟩ :=
        exists_of_forall₂_left (branches_eq_ok.1 hbranches) hb
      exact ⟨_, List.mem_map_of_mem hbranch, exists_call_of_body hlowered hname⟩

/-- A parameter is marked as used if its binding is read, in whichever body. -/
theorem Plans.used_iff {t : Template} {names : List String} {f : Function}
    (h : s.Plans direct t names f) {q : Param} (hq : q ∈ f.params) :
    q.used = true ↔ q.binding ∈ f.flow.reads := by
  obtain ⟨name, -, hparam⟩ := exists_of_forall₂_right h.params hq
  obtain ⟨a, -, -, hname, -, hused⟩ := param_eq_ok.1 hparam
  rw [hused, List.contains_iff_mem, uses_template h.flow, List.mem_map]
  constructor
  · rintro ⟨b, hb, hargument⟩
    -- what is read under the name is a parameter, and no two have the same name
    obtain ⟨q', hq', hbinding, -⟩ := h.exists_param_of_mem_reads hb
    have hnodup : (f.params.map (·.binding.argument)).Nodup := h.arguments_eq ▸ h.nodup
    have hsame : q' = q := by
      refine List.inj_on_of_nodup_map hnodup hq' hq ?_
      rw [hbinding, hname]
      exact hargument
    rw [← hsame, hbinding]
    exact hb
  · intro hb
    exact ⟨q.binding, hb, hname⟩

/-- Whatever variable a template refers to is called for by the function's name for it, in a body
that is kept or left out. -/
theorem Plans.exists_callee {t : Template} {names : List String} {f : Function}
    (h : s.Plans direct t names f) {name n : String} (hname : name ∈ t.varRefs)
    (hn : auxiliaryName s.message.name name = .ok n) :
    ∃ op, op.callee? = some n ∧ (op ∈ f.flow.keptOps ∨ op ∈ f.flow.leftOutOps) := by
  obtain ⟨block, hblock, function, bs, hop⟩ := exists_call_of_template h.flow hname
  obtain ⟨-, hcall⟩ := planned_of_template h.flow block hblock _ hop
  obtain ⟨v, function', bs', -, hfunction, -, heq⟩ := call_eq_ok.1 hcall
  cases heq
  rw [hn] at hfunction
  cases hfunction
  exact ⟨_, rfl, Flow.exists_block_iff.1 ⟨block, hblock, hop⟩⟩

end Scope

/-! ## What the code keeps -/

namespace Plan

/-- The functions that are written into the code. -/
def written (p : Plan) : List Function := p.messages ++ p.auxiliaries.filter (·.referenced)

/-- A chain of calls that are kept leads from a message to the function of that name. -/
inductive Reached (p : Plan) : String → Prop
  | message {f : Function} {op : Op} {g : String} (hf : f ∈ p.messages)
      (hop : op ∈ f.flow.keptOps) (hcall : op.callee? = some g) : Reached p g
  | auxiliary {f : Function} {op : Op} {g : String} (hreached : Reached p f.name)
      (hf : f ∈ p.auxiliaries.filter (·.referenced)) (hop : op ∈ f.flow.keptOps)
      (hcall : op.callee? = some g) : Reached p g

/-- Whatever is used in a branch that is left out is used elsewhere as well: a parameter in the same
function, another function through calls that are kept, and formatting anywhere. -/
structure Spared (p : Plan) : Prop where
  reads : ∀ f ∈ p.written, ∀ op ∈ f.flow.leftOutOps, ∀ b ∈ op.reads, b ∈ f.flow.keptReads
  calls : ∀ f ∈ p.written, ∀ op ∈ f.flow.leftOutOps, ∀ g, op.callee? = some g → p.Reached g
  formats : ∀ f ∈ p.written, ∀ op ∈ f.flow.leftOutOps, op.formats →
    ∃ f' ∈ p.written, ∃ op' ∈ f'.flow.keptOps, op'.formats

theorem mem_written_iff {p : Plan} {f : Function} :
    f ∈ p.written ↔ f ∈ p.messages ∨ f ∈ p.auxiliaries ∧ f.referenced = true := by
  rw [written, List.mem_append, List.mem_filter]

/-- Nothing has to be spared if nothing is left out. -/
theorem spared_of_leftOutOps_eq_nil {p : Plan} (h : ∀ f ∈ p.written, f.flow.leftOutOps = []) :
    p.Spared where
  reads f hf op hop := by
    rw [h f hf] at hop
    cases hop
  calls f hf op hop := by
    rw [h f hf] at hop
    cases hop
  formats f hf op hop := by
    rw [h f hf] at hop
    cases hop

end Plan

namespace Localization

variable {l : Localization} {width : IntegerWidth} {p : Plan}

/-- Every function that is written is planned for a template. -/
theorem exists_plans (hl : l.WellFormed width) (hp : (l.lower width).result = .ok p)
    {f : Function} (hf : f ∈ p.written) :
    ∃ s direct t names, Scope.Plans s direct t names f := by
  rcases Plan.mem_written_iff.1 hf with hf | ⟨hf, -⟩
  · obtain ⟨m, hm, hmf⟩ := exists_message_of_mem hp hf
    exact ⟨_, _, _, _, hmf.plans (hl.messages m hm)⟩
  · obtain ⟨m, hm, v, hv, hvf⟩ := exists_variable_of_mem hp hf
    exact ⟨_, _, _, _, hvf.plans (hl.messages m hm) hv⟩

/-- If all that is called for in branches that are left out is reached, every function of a variable
that is written is. The chain of references from the message to the variable is followed, one call
at a time. -/
theorem reached_of_calls (hl : l.WellFormed width) (hp : (l.lower width).result = .ok p)
    (hcalls : ∀ f ∈ p.written, ∀ op ∈ f.flow.leftOutOps, ∀ g, op.callee? = some g → p.Reached g)
    {g : Function} (hg : g ∈ p.auxiliaries) (hwritten : g.referenced = true) :
    p.Reached g.name := by
  obtain ⟨m, hm, v, hv, hvg⟩ := exists_variable_of_mem hp hg
  rw [hvg.referenced, decide_eq_true_eq, Message.referenced, Message.mem_reach_iff] at hwritten
  obtain ⟨y, hy, hleads⟩ := hwritten
  have hall : ∀ x, Relation.ReflTransGen m.Refers y x →
      ∀ n, auxiliaryName m.name x = .ok n → p.Reached n := by
    intro x hx
    induction hx with
    | refl =>
        intro n hn
        obtain ⟨f, hf, hmf⟩ := exists_messageFunction hp hm
        obtain ⟨op, hcall, hop | hop⟩ := (hmf.plans (hl.messages m hm)).exists_callee hy hn
        · exact .message hf hop hcall
        · exact hcalls f (Plan.mem_written_iff.2 (.inl hf)) op hop n hcall
    | @tail x z hyx hrefers ih =>
        intro n hn
        -- `x` refers to something, so that it is a variable, and its function is written
        cases hnamed : m.variableNamed? x with
        | none =>
            rw [Message.Refers, Message.refsOf_of_unnamed hnamed] at hrefers
            cases hrefers
        | some w =>
            rw [Message.Refers, Message.refsOf_of_named hnamed] at hrefers
            obtain ⟨hw, rfl⟩ := Message.mem_of_variableNamed? hnamed
            obtain ⟨f, hf, hwf⟩ := exists_variableFunction hp hm hw
            have hfwritten : f.referenced = true := by
              rw [hwf.referenced, decide_eq_true_eq]
              exact Message.mem_reach_iff.2 ⟨y, hy, hyx⟩
            obtain ⟨op, hcall, hop | hop⟩ :=
              (hwf.plans (hl.messages m hm) hw).exists_callee hrefers hn
            · refine .auxiliary (ih f.name hwf.name) ?_ hop hcall
              exact List.mem_filter.2 ⟨hf, hfwritten⟩
            · exact hcalls f (Plan.mem_written_iff.2 (.inr ⟨hf, hfwritten⟩)) op hop n hcall
  exact hall v.name hleads g.name hvg.name

/-- What is called for in a function that is written is the function of a variable that is. -/
theorem exists_written_of_callee (hl : l.WellFormed width) (hp : (l.lower width).result = .ok p)
    {f : Function} (hf : f ∈ p.written) {op : Op}
    (hop : op ∈ f.flow.keptOps ∨ op ∈ f.flow.leftOutOps) {n : String}
    (hcall : op.callee? = some n) :
    ∃ g ∈ p.auxiliaries, g.referenced = true ∧ g.name = n := by
  have hclosed := closed_of_lower hl hp
  obtain ⟨block, hblock, hop⟩ := Flow.exists_block_iff.2 hop
  obtain ⟨hreferenced, m, hin⟩ : f.referenced = true ∧
      ∃ m, p.ClosedIn m l.language width f := by
    rcases Plan.mem_written_iff.1 hf with hf | ⟨hf, hreferenced⟩
    · obtain ⟨hreferenced, m, -, -, hin⟩ := hclosed.messages f hf
      exact ⟨hreferenced, m, hin⟩
    · obtain ⟨m, -, v, -, -, hin⟩ := hclosed.auxiliaries f hf
      exact ⟨hreferenced, m, hin⟩
  cases op with
  | call name function bs =>
      cases hcall
      obtain ⟨g, hanswers, hwritten⟩ := hin.calls block hblock name n bs hop
      have hmem : g ∈ p.auxiliaries.filter (·.name == n) := by
        rw [hanswers.only]
        exact List.mem_singleton.2 rfl
      obtain ⟨hg, hname⟩ := List.mem_filter.1 hmem
      exact ⟨g, hg, hwritten hreferenced, eq_of_beq hname⟩
  | literal _ | argument _ _ _ | giveBack _ => cases hcall

/-- The import is there if a function that is written formats something, in whichever body. -/
theorem mem_imports_iff (hp : (l.lower width).result = .ok p) :
    formatImport ∈ p.capabilities.imports ↔
      ∃ f ∈ p.written, ∃ op, (op ∈ f.flow.keptOps ∨ op ∈ f.flow.leftOutOps) ∧ op.formats := by
  rw [Capabilities.mem_imports_iff]
  constructor
  · rintro ⟨c, hc, hwrites⟩
    obtain ⟨f, hf, hreferenced, block, hblock, hneeds⟩ := (contains_capabilities hp c).1 hc
    have hwritten : f ∈ p.written := by
      rw [Plan.mem_written_iff]
      exact (List.mem_append.1 hf).imp_right fun hf => ⟨hf, hreferenced⟩
    rcases hneeds with ⟨-, rfl⟩ | ⟨op, hop, hcapability⟩
    · -- a buffer alone is not written to through the machinery
      cases hwrites
    · refine ⟨f, hwritten, op, Flow.exists_block_iff.1 ⟨block, hblock, hop⟩, ?_⟩
      exact Op.formats_iff.2 ⟨c, hcapability, hwrites⟩
  · rintro ⟨f, hf, op, hop, hformats⟩
    obtain ⟨c, hcapability, hwrites⟩ := Op.formats_iff.1 hformats
    obtain ⟨block, hblock, hop⟩ := Flow.exists_block_iff.2 hop
    refine ⟨c, (contains_capabilities hp c).2 ⟨f, ?_, ?_, block, hblock, ?_⟩, hwrites⟩
    · exact List.mem_append.2 ((Plan.mem_written_iff.1 hf).imp_right (·.1))
    · rcases Plan.mem_written_iff.1 hf with hf | hf
      · obtain ⟨m, -, hmf⟩ := exists_message_of_mem hp hf
        exact hmf.referenced
      · exact hf.2
    · exact .inr ⟨op, hop, hcapability⟩

theorem spared_of_noIdleBranch (hp : (l.lower width).result = .ok p)
    (hidle : width = .signed ∨
      ∀ m ∈ l.messages, ∀ t ∈ m.templates, t.hasIdleBranch = false) : p.Spared := by
  refine Plan.spared_of_leftOutOps_eq_nil fun f hf => ?_
  rcases Plan.mem_written_iff.1 hf with hf | ⟨hf, -⟩
  · obtain ⟨m, hm, hmf⟩ := exists_message_of_mem hp hf
    refine Scope.leftOutOps_eq_nil hmf.flow (hidle.imp_right fun h => ?_)
    exact h m hm _ List.mem_cons_self
  · obtain ⟨m, hm, v, hv, hvf⟩ := exists_variable_of_mem hp hf
    refine Scope.leftOutOps_eq_nil hvf.flow (hidle.imp_right fun h => ?_)
    exact h m hm _ (List.mem_cons_of_mem _ (List.mem_map_of_mem hv))

end Localization

end Phrasebook
