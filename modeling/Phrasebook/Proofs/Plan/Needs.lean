import Phrasebook.Proofs.Plan.Capabilities
import Phrasebook.Proofs.Plan.Scoping

set_option autoImplicit false

/-! # What messages need

The capabilities of a plan can be told from its functions (`Localization.contains_capabilities`),
and so they can from the messages as they are written (`Localization.contains_iff_needs`). A body
needs a buffer unless it is a literal text of a message, and each argument in it needs what the way
of writing it does; variables count if the message leads to them.

Two things follow that are hard to see on the functions. Whatever the other variables are, the set
is the same: messages that agree on what they lead to have the same needs
(`Message.AgreesWith.needs_iff`). And the set is empty exactly if every body of a message is
literal: then no message leads to a variable (`Message.exists_needs_iff`). -/

namespace Phrasebook

/-! ## Needs of what is written -/

namespace Message

/-- An argument needs what the way of writing it does. -/
def PartNeeds (m : Message) : Part → Capability → Prop
  | .argument name directive, c => ∃ a r, m.argumentNamed? name = some a ∧
      Format.Rendering.resolve a.type directive = .ok r ∧ r.capability = c
  | _, _ => False

/-- A body needs a buffer and what its parts need, unless it can be given back as a text. -/
def BodyNeeds (m : Message) (direct : Bool) (b : Body) (c : Capability) : Prop :=
  ¬(direct ∧ b.isConstant) ∧ (c = .textBuffer ∨ ∃ p ∈ b, m.PartNeeds p c)

def TemplateNeeds (m : Message) (direct : Bool) (t : Template) (c : Capability) : Prop :=
  ∃ b ∈ t.bodies, m.BodyNeeds direct b c

/-- The needs of the template, and of the variables that it leads to. -/
def Needs (m : Message) (c : Capability) : Prop :=
  m.TemplateNeeds true m.template c ∨
    ∃ v ∈ m.vars, v.name ∈ m.referenced ∧ m.TemplateNeeds false v.template c

end Message

namespace Scope

variable {s : Scope} {direct : Bool} {c : Capability}

theorem partNeeds_iff {p : Part} {o : Option Op} (h : (s.part p).result = .ok o) :
    (∃ op ∈ o, op.capability? = some c) ↔ s.message.PartNeeds p c := by
  cases p with
  | literal text =>
      rw [part_literal] at h
      cases h
      by_cases hempty : text.isEmpty
      · simp [hempty, Message.PartNeeds]
      · simp [hempty, Message.PartNeeds, Op.capability?]
  | argument name directive =>
      obtain ⟨b, type, r, hb, hr, rfl⟩ := part_argument_eq_ok.1 h
      obtain ⟨⟨a, ha, -, rfl⟩, -⟩ := binding_eq_ok.1 hb
      simp [Message.PartNeeds, Op.capability?, ha, hr]
  | var name =>
      obtain ⟨op, hcall, rfl⟩ := part_var_eq_ok.1 h
      obtain ⟨v, function, bs, -, -, -, rfl⟩ := call_eq_ok.1 hcall
      simp [Message.PartNeeds, Op.capability?]

theorem partsNeed_iff {ps : List Part} {ops : List Op} (h : (s.parts ps).result = .ok ops) :
    (∃ op ∈ ops, op.capability? = some c) ↔ ∃ p ∈ ps, s.message.PartNeeds p c := by
  induction ps generalizing ops with
  | nil =>
      cases h
      simp
  | cons p ps ih =>
      obtain ⟨o, rest, ho, hrest, rfl⟩ := parts_cons_eq_ok.1 h
      rw [List.exists_mem_cons_iff, ← partNeeds_iff ho, ← ih hrest]
      cases o with
      | none => simp [joinedOption]
      | some op =>
          rw [joinedOption, exists_mem_joined]
          simp

theorem bodyNeeds_iff {b : Body} {block : Block} (h : (s.body direct b).result = .ok block) :
    block.Needs c ↔ s.message.BodyNeeds direct b c := by
  by_cases hconstant : direct ∧ b.isConstant
  · obtain ⟨rfl, hb⟩ := hconstant
    rw [body_eq_ok_of_constant hb] at h
    subst h
    simp [Block.Needs, Op.capability?, Message.BodyNeeds, hb]
  · obtain ⟨ops, hops, rfl⟩ := (body_eq_ok_of_accumulate hconstant).1 h
    rw [Block.Needs, Message.BodyNeeds, partsNeed_iff hops]
    simp [hconstant]

/-- The bodies of a template are planned one by one. -/
theorem forall₂_bodies {t : Template} {flow : Flow} (h : (s.template direct t).result = .ok flow) :
    List.Forall₂ (fun b block => (s.body direct b).result = .ok block) t.bodies flow.blocks := by
  cases t with
  | unset => cases h
  | plain b =>
      obtain ⟨block, hblock, rfl⟩ := template_plain_eq_ok.1 h
      exact .cons hblock .nil
  | plural p =>
      obtain ⟨d, hd, rfl⟩ := template_plural_eq_ok.1 h
      obtain ⟨-, -, hbranches, -⟩ := plural_eq_ok.1 hd
      rw [Template.bodies, Flow.blocks, List.forall₂_map_left_iff, List.forall₂_map_right_iff]
      exact (branches_eq_ok.1 hbranches).imp fun b branch hb => hb.2

theorem templateNeeds_iff {t : Template} {flow : Flow}
    (h : (s.template direct t).result = .ok flow) :
    flow.Needs c ↔ s.message.TemplateNeeds direct t c := by
  have hbodies := forall₂_bodies h
  constructor
  · rintro ⟨block, hblock, hneeds⟩
    obtain ⟨b, hb, hplanned⟩ := exists_of_forall₂_right hbodies hblock
    exact ⟨b, hb, (bodyNeeds_iff hplanned).1 hneeds⟩
  · rintro ⟨b, hb, hneeds⟩
    obtain ⟨block, hblock, hplanned⟩ := exists_of_forall₂_left hbodies hb
    exact ⟨block, hblock, (bodyNeeds_iff hplanned).2 hneeds⟩

end Scope

/-- The needs of the functions of a message are those of the message. -/
theorem Message.needs_iff {m : Message} {language : String} {width : IntegerWidth}
    {c : Capability} {f : Function} {gs : List Function} (hf : m.IsFunction language width f)
    (hgs : List.Forall₂ (m.IsVariableFunction language width) m.vars gs) :
    (f.flow.Needs c ∨ ∃ g ∈ gs, g.referenced = true ∧ g.flow.Needs c) ↔ m.Needs c := by
  refine or_congr (Scope.templateNeeds_iff hf.flow) ?_
  constructor
  · rintro ⟨g, hg, hreferenced, hneeds⟩
    obtain ⟨v, hv, hvg⟩ := exists_of_forall₂_right hgs hg
    rw [hvg.referenced, decide_eq_true_eq] at hreferenced
    exact ⟨v, hv, hreferenced, (Scope.templateNeeds_iff hvg.flow).1 hneeds⟩
  · rintro ⟨v, hv, hreferenced, hneeds⟩
    obtain ⟨g, hg, hvg⟩ := exists_of_forall₂_left hgs hv
    refine ⟨g, hg, ?_, (Scope.templateNeeds_iff hvg.flow).2 hneeds⟩
    rw [hvg.referenced, decide_eq_true hreferenced]

/-- The capabilities of a plan are what the messages need. -/
theorem Localization.contains_iff_needs {l : Localization} {width : IntegerWidth} {p : Plan}
    (h : (l.lower width).result = .ok p) (c : Capability) :
    p.capabilities.contains c ↔ ∃ m ∈ l.messages, m.Needs c := by
  obtain ⟨-, fs, hmessages, hauxiliaries, hfs⟩ := lower_eq_ok h
  rw [contains_capabilities h, hmessages, hauxiliaries]
  constructor
  · rintro ⟨f, hf, hreferenced, hneeds⟩
    rcases List.mem_append.1 hf with hf | hf
    · obtain ⟨fg, hfg, rfl⟩ := List.mem_map.1 hf
      obtain ⟨m, hm, hmf, hgs⟩ := exists_of_forall₂_right hfs hfg
      exact ⟨m, hm, (Message.needs_iff hmf hgs).1 (.inl hneeds)⟩
    · obtain ⟨fg, hfg, hf⟩ := List.mem_flatMap.1 hf
      obtain ⟨m, hm, hmf, hgs⟩ := exists_of_forall₂_right hfs hfg
      exact ⟨m, hm, (Message.needs_iff hmf hgs).1 (.inr ⟨f, hf, hreferenced, hneeds⟩)⟩
  · rintro ⟨m, hm, hneeds⟩
    obtain ⟨fg, hfg, hmf, hgs⟩ := exists_of_forall₂_left hfs hm
    rcases (Message.needs_iff hmf hgs).2 hneeds with hneeds | ⟨g, hg, hgneeds⟩
    · exact ⟨fg.1, List.mem_append_left _ (List.mem_map_of_mem hfg), hmf.referenced, hneeds⟩
    · exact ⟨g, List.mem_append_right _ (List.mem_flatMap.2 ⟨fg, hfg, hg⟩), hgneeds⟩

/-! ## Messages that agree on what they lead to -/

namespace Message

/-- The messages differ in nothing but variables that the first one does not lead to. -/
structure AgreesWith (m m' : Message) : Prop where
  arguments : m.arguments = m'.arguments
  template : m.template = m'.template
  vars : (m.vars.filter fun v => v.name ∈ m.referenced) =
    m'.vars.filter fun v => v.name ∈ m.referenced

namespace AgreesWith

variable {m m' : Message}

theorem variableNamed?_eq (h : m.AgreesWith m') {x : String} (hx : x ∈ m.referenced) :
    m.variableNamed? x = m'.variableNamed? x := by
  have hfilter : ∀ vs : List Variable, vs.find? (·.name == x) =
      (vs.filter fun v => v.name ∈ m.referenced).find? (·.name == x) := by
    -- whatever the filter drops has another name than the one looked for
    intro vs
    rw [List.find?_filter]
    congr 1
    funext v
    by_cases hv : v.name = x
    · simp [hv, hx]
    · simp [hv]
  rw [variableNamed?, variableNamed?, hfilter m.vars, h.vars, ← hfilter]

theorem reach_eq (h : m.AgreesWith m') (seen pending : List String)
    (hpending : ∀ x ∈ pending, x ∈ m.referenced) :
    m.reach seen pending = m'.reach seen pending := by
  -- along the search in the first message, which only comes to names that both look up alike
  induction seen, pending using reach.induct m with
  | case1 seen => rw [reach, reach]
  | case2 seen name rest hseen ih =>
      rw [reach, if_pos hseen, reach, if_pos hseen]
      exact ih fun x hx => hpending x (List.mem_cons_of_mem _ hx)
  | case3 seen name rest hseen v hv ih =>
      have hname := hpending name List.mem_cons_self
      rw [reach_of_named hseen hv, reach_of_named hseen (h.variableNamed?_eq hname ▸ hv)]
      refine ih fun x hx => ?_
      rcases List.mem_append.1 hx with hx | hx
      · rw [← refsOf_of_named hv] at hx
        exact m.refsOf_subset_referenced name hname x hx
      · exact hpending x (List.mem_cons_of_mem _ hx)
  | case4 seen name rest hseen hv ih =>
      have hname := hpending name List.mem_cons_self
      rw [reach_of_unnamed hseen hv, reach_of_unnamed hseen (h.variableNamed?_eq hname ▸ hv)]
      exact ih fun x hx => hpending x (List.mem_cons_of_mem _ hx)

theorem referenced_eq (h : m.AgreesWith m') : m.referenced = m'.referenced := by
  rw [referenced, referenced, ← h.template]
  exact h.reach_eq [] _ m.varRefs_subset_referenced

theorem templateNeeds_eq (h : m.AgreesWith m') : m.TemplateNeeds = m'.TemplateNeeds := by
  have hparts : m.PartNeeds = m'.PartNeeds := by
    funext p c
    cases p <;> simp [PartNeeds, argumentNamed?, h.arguments]
  funext direct t c
  simp only [TemplateNeeds, BodyNeeds, hparts]

theorem needs_iff (h : m.AgreesWith m') {c : Capability} : m.Needs c ↔ m'.Needs c := by
  have hvars : ∀ v, v ∈ m.vars ∧ v.name ∈ m.referenced ↔ v ∈ m'.vars ∧ v.name ∈ m.referenced := by
    intro v
    have hmem := congrArg (v ∈ ·) h.vars
    simpa [List.mem_filter] using hmem
  simp only [Needs, ← and_assoc, hvars, h.template, ← h.referenced_eq, h.templateNeeds_eq]

end AgreesWith

end Message

/-! ## Messages that need nothing -/

/-- A message needs something exactly if one of its bodies is not literal. -/
theorem Message.exists_needs_iff {m : Message} :
    (∃ c, m.Needs c) ↔ ∃ b ∈ m.template.bodies, ¬ b.isConstant := by
  constructor
  · rintro ⟨c, ⟨b, hb, hconstant, -⟩ | ⟨v, -, hreferenced, -⟩⟩
    · exact ⟨b, hb, fun h => hconstant ⟨rfl, h⟩⟩
    · -- a body of the message is where the way to the variable begins
      obtain ⟨x, hx, -⟩ := mem_reach_iff.1 hreferenced
      obtain ⟨b, hb, hxb⟩ := List.mem_flatMap.1 hx
      refine ⟨b, hb, fun hconstant => ?_⟩
      rw [Body.varRefs_of_isConstant hconstant] at hxb
      cases hxb
  · rintro ⟨b, hb, hconstant⟩
    exact ⟨.textBuffer, .inl ⟨b, hb, fun h => hconstant h.2, .inl rfl⟩⟩

namespace Capabilities

theorem eq_of_contains_iff {s t : Capabilities} (h : ∀ c, s.contains c ↔ t.contains c) : s = t := by
  obtain ⟨s⟩ := s
  obtain ⟨t⟩ := t
  congr
  funext c
  exact Bool.eq_iff_iff.2 (h c)

theorem isEmpty_iff {s : Capabilities} : s.isEmpty ↔ ∀ c, ¬ s.contains c := by
  simp only [isEmpty, List.isEmpty_iff, List.eq_nil_iff_forall_not_mem, mem_toList]

end Capabilities

/-- The needs of a body, one operation at a time. -/
theorem Block.needs_iff {block : Block} {c : Capability} :
    block.Needs c ↔ (block.mode = .accumulate ∧ c = .textBuffer) ∨
      ∃ b type r, .argument b type r ∈ block.ops ∧ r.capability = c := by
  refine or_congr_right ⟨?_, ?_⟩
  · rintro ⟨op, hop, hc⟩
    cases op with
    | argument b type r => exact ⟨b, type, r, hop, Option.some.inj hc⟩
    | literal | call | giveBack => cases hc
  · rintro ⟨b, type, r, hop, rfl⟩
    exact ⟨_, hop, rfl⟩

/-- The capabilities of a plan are exactly those that its functions need, of which there are the
ones of the messages and the ones of variables that are marked as referenced. Other variables do
not matter, and if every body of a message is literal, nothing is needed. -/
theorem Localization.capabilities_exact {l : Localization} {width : IntegerWidth} {p : Plan}
    (h : (l.lower width).result = .ok p) :
    (∀ c, p.capabilities.contains c ↔
      ∃ f, (f ∈ p.messages ∨ f ∈ p.auxiliaries ∧ f.referenced = true) ∧
        ∃ block ∈ f.flow.blocks, (block.mode = .accumulate ∧ c = .textBuffer) ∨
          ∃ b type r, .argument b type r ∈ block.ops ∧ r.capability = c) ∧
    (∀ (l' : Localization) (width' : IntegerWidth) (p' : Plan),
      List.Forall₂ Message.AgreesWith l.messages l'.messages →
        (l'.lower width').result = .ok p' → p'.capabilities = p.capabilities) ∧
    (p.capabilities.isEmpty ↔ ∀ m ∈ l.messages, ∀ b ∈ m.template.bodies, b.isConstant) := by
  refine ⟨fun c => ?_, fun l' width' p' hagree h' => ?_, ?_⟩
  · simp only [contains_capabilities h, Flow.Needs, Block.needs_iff, List.mem_append]
    constructor
    · rintro ⟨f, hf | hf, hreferenced, hneeds⟩
      · exact ⟨f, .inl hf, hneeds⟩
      · exact ⟨f, .inr ⟨hf, hreferenced⟩, hneeds⟩
    · rintro ⟨f, hf | ⟨hf, hreferenced⟩, hneeds⟩
      · obtain ⟨m, -, hmf⟩ := exists_message_of_mem h hf
        exact ⟨f, .inl hf, hmf.referenced, hneeds⟩
      · exact ⟨f, .inr hf, hreferenced, hneeds⟩
  · refine Capabilities.eq_of_contains_iff fun c => ?_
    rw [contains_iff_needs h, contains_iff_needs h']
    constructor
    · rintro ⟨m', hm', hneeds⟩
      obtain ⟨m, hm, hmm'⟩ := exists_of_forall₂_right hagree hm'
      exact ⟨m, hm, hmm'.needs_iff.2 hneeds⟩
    · rintro ⟨m, hm, hneeds⟩
      obtain ⟨m', hm', hmm'⟩ := exists_of_forall₂_left hagree hm
      exact ⟨m', hm', hmm'.needs_iff.1 hneeds⟩
  · have hmessage : ∀ m : Message, (∀ c, ¬ m.Needs c) ↔ ∀ b ∈ m.template.bodies, b.isConstant := by
      intro m
      have hneeds := not_congr m.exists_needs_iff
      simpa only [not_exists, not_and, not_not] using hneeds
    simp only [Capabilities.isEmpty_iff, contains_iff_needs h, ← hmessage, not_exists, not_and]
    exact ⟨fun hnone m hm c => hnone c m hm, fun hnone c m hm => hnone m hm c⟩

/-- A literal message, with variables that it does not lead to. -/
def farewell (vars : List Variable) : Message :=
  { name := "farewell"
    arguments := [⟨"price", .float⟩]
    template := .plain [.literal "Goodbye"]
    vars }

def farewells (vars : List Variable) : Localization :=
  { language := "en", messages := [farewell vars] }

def unusedTotal : Variable :=
  { name := "total", arguments := ["price"], template := .plain [.argument "price" none] }

theorem referenced_farewell (vars : List Variable) : (farewell vars).referenced = [] := by
  show Message.reach _ [] [] = []
  rw [Message.reach]

theorem exists_lower_farewells {vars : List Variable} (h : vars = [] ∨ vars = [unusedTotal]) :
    ∃ p, ((farewells vars).lower .signed).result = .ok p := by
  have hok : ((farewells vars).lower .signed).result.isOk := by
    simp only [Localization.lower, farewells, List.map, Message.lower]
    rcases h with rfl | rfl
    · decide +kernel
    · have hvars : (farewell [unusedTotal]).vars = [unusedTotal] := rfl
      rw [hvars]
      simp only [Message.variableFunctions, referenced_farewell]
      decide +kernel
  exact exists_of_isOk hok

/-- The total would need a buffer and a way to write floats, but with it nothing more is needed than
without it, which is nothing at all. -/
theorem capabilities_farewells : ∃ p p',
    ((farewells [unusedTotal]).lower .signed).result = .ok p ∧
      ((farewells []).lower .signed).result = .ok p' ∧
      p'.capabilities = p.capabilities ∧ p.capabilities.isEmpty := by
  obtain ⟨p, hp⟩ := exists_lower_farewells (.inr rfl)
  obtain ⟨p', hp'⟩ := exists_lower_farewells (.inl rfl)
  obtain ⟨-, hsame, hempty⟩ := Localization.capabilities_exact hp
  have hagree : (farewell [unusedTotal]).AgreesWith (farewell []) :=
    ⟨rfl, rfl, by simp [referenced_farewell]⟩
  refine ⟨p, p', hp, hp', ?_, hempty.2 (by decide)⟩
  exact hsame (farewells []) _ p' (.cons hagree .nil) hp'

end Phrasebook
