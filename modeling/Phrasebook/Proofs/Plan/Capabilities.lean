import Phrasebook.Proofs.Plan.Lowering

set_option autoImplicit false

/-! # What the functions of a plan need

Lowering notes a capability wherever it plans something that needs it, and the notes of all messages
are put together in the end. What comes out can be told from the functions alone: a capability is in
the set if and only if some function that counts needs it, in whichever of its bodies
(`Localization.contains_capabilities`). The functions that count are those of the messages and those
of the variables that a message leads to; of the others only the events are kept.

Each lemma gives the needs of one function of the lowering, provided that it succeeds, in terms of
what it succeeds with. -/

namespace Phrasebook

/-! ## Needs of a computation -/

namespace Lowering

variable {α β : Type} {c : Capability}

/-- The capability is noted on the way. -/
def Needs (x : Lowering α) (c : Capability) : Prop := .need c ∈ x.steps

theorem needs_bind {x : Lowering α} {f : α → Lowering β} {a : α} (h : x.result = .ok a) :
    (x >>= f).Needs c ↔ x.Needs c ∨ (f a).Needs c := by
  rw [Needs, Traced.steps_bind h, List.mem_append, Needs, Needs]

/-- Two computations that need nothing need nothing one after the other. -/
theorem not_needs_bind {x : Lowering α} {f : α → Lowering β} (hx : ¬ x.Needs c)
    (hf : ∀ a, ¬ (f a).Needs c) : ¬ (x >>= f).Needs c := by
  cases h : x.result with
  | error e =>
      rw [Needs, Traced.bind_def, h]
      exact hx
  | ok a =>
      rw [needs_bind h, not_or]
      exact ⟨hx, hf a⟩

@[simp] theorem needs_pure (a : α) : ¬ Needs (pure a) c := List.not_mem_nil

@[simp] theorem needs_liftM (r : Except SchemaError α) : ¬ Needs (liftM r : Lowering α) c :=
  List.not_mem_nil

@[simp] theorem needs_use (x : String) : ¬ (use x).Needs c := by
  simp [Needs, use, Traced.step]

@[simp] theorem needs_note (e : Event) : ¬ (note e).Needs c := by
  simp [Needs, note, Traced.step]

@[simp] theorem needs_need (d : Capability) : (need d).Needs c ↔ d = c := by
  simp [Needs, need, Traced.step, eq_comm]

@[simp] theorem needs_withUses (x : Lowering α) : x.withUses.Needs c ↔ x.Needs c := Iff.rfl

/-- What is computed alone needs nothing. -/
@[simp] theorem needs_alone (x : Lowering α) : ¬ x.alone.Needs c := by
  simp [Needs, alone]

end Lowering

open Lowering

theorem Capabilities.contains_insert {s : Capabilities} {c d : Capability} :
    (s.insert d).contains c ↔ s.contains c ∨ c = d := by
  simp [contains, insert]

theorem Capabilities.mem_toList {s : Capabilities} {c : Capability} :
    c ∈ s.toList ↔ s.contains c := by
  have hall : c ∈ Capability.all := by cases c <;> decide
  simp [toList, contains, hall]

/-- The import is there if something in the set writes through the formatting machinery. -/
theorem Capabilities.mem_imports_iff {s : Capabilities} :
    formatImport ∈ s.imports ↔ ∃ c, s.contains c ∧ c.writes := by
  have hany : s.toList.any Capability.writes ↔ ∃ c, s.contains c ∧ c.writes := by
    simp [List.any_eq_true, mem_toList]
  unfold imports
  split_ifs with hwrites
  · simpa using hany.1 hwrites
  · simpa using fun h => hwrites (hany.2 h)

/-- After a sequence of steps there are the capabilities from before and those that were needed. -/
theorem contains_settle {s : Capabilities} {steps : List Step} {c : Capability} :
    (settle s steps).2.contains c ↔ s.contains c ∨ .need c ∈ steps := by
  induction steps generalizing s with
  | nil => simp [settle]
  | cons step steps ih =>
      cases step with
      | note e => simpa [settle] using ih
      | use x => simpa [settle] using ih
      | need d =>
          by_cases hd : s.contains d
          · simp only [settle, hd, if_true, ih, List.mem_cons, Step.need.injEq]
            constructor
            · rintro (h | h)
              · exact .inl h
              · exact .inr (.inr h)
            · rintro (h | rfl | h)
              · exact .inl h
              · exact .inl hd
              · exact .inr h
          · simp only [settle, hd, Bool.false_eq_true, if_false, ih,
              Capabilities.contains_insert, List.mem_cons, Step.need.injEq, or_assoc]

/-! ## Needs of a plan -/

/-- The capability that an operation needs. -/
def Op.capability? : Op → Option Capability
  | .argument _ _ r => some r.capability
  | _ => none

/-- A body needs what its operations need, and a buffer if it appends to one. -/
def Block.Needs (b : Block) (c : Capability) : Prop :=
  (b.mode = .accumulate ∧ c = .textBuffer) ∨ ∃ op ∈ b.ops, op.capability? = some c

/-- A flow needs what its bodies need, those that are never taken included. -/
def Flow.Needs (flow : Flow) (c : Capability) : Prop := ∃ block ∈ flow.blocks, block.Needs c

namespace Scope

variable {s : Scope} {direct : Bool} {c : Capability}

/-- Nothing is needed for reading an argument. -/
theorem needs_used (x : String) : ¬ (s.used x).Needs c :=
  not_needs_bind (needs_liftM _) fun _ => not_needs_bind (needs_use x) fun _ => needs_pure _

theorem needs_call (x : String) : ¬ (s.call x).Needs c := by
  have hused : ∀ xs : List String, ¬ (xs.mapM s.used).Needs c := by
    intro xs
    induction xs with
    | nil => exact needs_pure _
    | cons x xs ih =>
        rw [List.mapM_cons]
        exact not_needs_bind (needs_used x) fun _ => not_needs_bind ih fun _ => needs_pure _
  unfold call
  split
  · exact List.not_mem_nil
  · exact not_needs_bind (needs_liftM _) fun _ => not_needs_bind (hused _) fun _ => needs_pure _

theorem needs_part {p : Part} {o : Option Op} (h : (s.part p).result = .ok o) :
    (s.part p).Needs c ↔ ∃ op ∈ o, op.capability? = some c := by
  cases p with
  | literal text =>
      rw [part_literal] at h
      cases h
      rw [part]
      by_cases hempty : text.isEmpty
      · simp [hempty]
      · simp [hempty, Op.capability?]
  | argument name directive =>
      obtain ⟨b, type, r, hb, hr, rfl⟩ := part_argument_eq_ok.1 h
      have hbinding : (s.used name).result = .ok (b, type) := (result_used name).trans hb
      have hrendering : (liftM (s.check ((Format.Rendering.resolve type directive).mapError
          (.invalidDirective (directive.getD "")))) : Lowering _).result = .ok r :=
        check_eq_ok.2 (mapError_eq_ok.2 hr)
      rw [part, needs_bind hbinding]
      dsimp only
      rw [needs_bind hrendering, needs_bind rfl]
      simp [Op.capability?, needs_used]
  | var name =>
      obtain ⟨op, hcall, rfl⟩ := part_var_eq_ok.1 h
      obtain ⟨v, function, bs, -, -, -, rfl⟩ := call_eq_ok.1 hcall
      rw [part, needs_bind hcall]
      simp [Op.capability?, needs_call]

/-- Joining literals loses no need. -/
theorem exists_mem_joined {op : Op} {ops : List Op} :
    (∃ o ∈ joined op ops, o.capability? = some c) ↔
      op.capability? = some c ∨ ∃ o ∈ ops, o.capability? = some c := by
  unfold joined
  split
  · simp [Op.capability?]
  · simp

theorem needs_parts {ps : List Part} {ops : List Op} (h : (s.parts ps).result = .ok ops) :
    (s.parts ps).Needs c ↔ ∃ op ∈ ops, op.capability? = some c := by
  induction ps generalizing ops with
  | nil =>
      cases h
      simp [parts]
  | cons p ps ih =>
      obtain ⟨o, rest, ho, hrest, rfl⟩ := parts_cons_eq_ok.1 h
      rw [parts, needs_bind ho, needs_bind hrest, needs_part ho, ih hrest]
      cases o with
      | none => simp [joinedOption]
      | some op =>
          rw [joinedOption, exists_mem_joined]
          simp

theorem needs_body {b : Body} {block : Block} (h : (s.body direct b).result = .ok block) :
    (s.body direct b).Needs c ↔ block.Needs c := by
  by_cases hconstant : direct ∧ b.isConstant
  · obtain ⟨rfl, hconstant⟩ := hconstant
    have htext : b.constantText? = some b.literalText := by
      rw [Body.constantText?, if_pos hconstant]
    rw [body_eq_ok_of_constant hconstant] at h
    subst h
    simp [body, htext, Block.Needs, Op.capability?]
  · obtain ⟨ops, hops, rfl⟩ := (body_eq_ok_of_accumulate hconstant).1 h
    rw [body_of_accumulate hconstant, needs_bind rfl, needs_bind hops, needs_need, needs_parts hops]
    simp [Block.Needs, eq_comm]

theorem needs_branches {bs : List (Category × Body)} {branches : List Branch}
    (h : (s.branches direct bs).result = .ok branches) :
    (s.branches direct bs).Needs c ↔ ∃ branch ∈ branches, branch.body.Needs c := by
  induction bs generalizing branches with
  | nil =>
      cases branches_eq_ok.1 h
      simp [Scope.branches]
  | cons b bs ih =>
      obtain ⟨category, b⟩ := b
      obtain _ | ⟨⟨-, hbody⟩, hrest⟩ := branches_eq_ok.1 h
      have hbranches := branches_eq_ok.2 hrest
      rw [Scope.branches, needs_bind hbody, needs_bind hbranches, needs_body hbody, ih hbranches]
      simp

theorem needs_plural {p : Plural} {d : Dispatch} (h : (s.plural direct p).result = .ok d) :
    (s.plural direct p).Needs c ↔ (Flow.dispatch d).Needs c := by
  obtain ⟨hsome, hdriver, hbranches, -⟩ := plural_eq_ok.1 h
  have hempty : ¬ p.isEmpty := by simpa [Plural.isEmpty] using hsome
  have hbinding : (s.used p.argument).result = .ok (d.driver, .integer) :=
    (result_used _).trans hdriver
  rw [plural, if_neg hempty, needs_bind hbinding]
  dsimp only
  rw [if_neg (by simp), needs_bind hbranches, needs_bind rfl,
    needs_branches hbranches]
  simp [Flow.Needs, Flow.blocks, needs_used]

/-- The needs of a template are those of the bodies that it is planned with. -/
theorem needs_template {t : Template} {flow : Flow} (h : (s.template direct t).result = .ok flow) :
    (s.template direct t).Needs c ↔ flow.Needs c := by
  cases t with
  | unset => cases h
  | plain b =>
      obtain ⟨block, hblock, rfl⟩ := template_plain_eq_ok.1 h
      rw [template, needs_bind hblock, needs_body hblock]
      simp [Flow.Needs, Flow.blocks]
  | plural p =>
      obtain ⟨d, hd, rfl⟩ := template_plural_eq_ok.1 h
      rw [template, needs_bind hd, needs_plural hd]
      simp

end Scope

/-! ## Needs of messages -/

namespace Message

variable {m : Message} {language : String} {width : IntegerWidth} {c : Capability}

theorem needs_function {f : Function} (h : (m.function language width).result = .ok f) :
    (m.function language width).Needs c ↔ f.flow.Needs c := by
  have hf := function_eq_ok.1 h
  have hname : (liftM ((m.scope language width).check (methodName m.name)) :
      Lowering _).result = .ok f.name := Scope.check_eq_ok.2 hf.name
  have hflow := withUses_eq_ok.2 ⟨_, hf.flow, rfl⟩
  have hparams : (liftM ((m.scope language width).params
      ((m.scope language width).template true m.template).uses (m.arguments.map (·.name))) :
      Lowering _).result = .ok f.params := Scope.params_eq_ok.2 hf.params
  simp only [function]
  rw [needs_bind hname, needs_bind hflow, needs_bind hparams, needs_withUses,
    Scope.needs_template hf.flow]
  simp

theorem needs_variableFunction {v : Variable} {f : Function}
    (hf : m.IsVariableFunction language width v f) (referenced : Bool) :
    (m.variableFunction language width referenced v).Needs c ↔ f.flow.Needs c := by
  have hname : (liftM ((m.variableScope language width v).check (auxiliaryName m.name v.name)) :
      Lowering _).result = .ok f.name := Scope.check_eq_ok.2 hf.name
  have hflow := withUses_eq_ok.2 ⟨_, hf.flow, rfl⟩
  have hparams : (liftM ((m.variableScope language width v).params
      ((m.variableScope language width v).template false v.template).uses v.arguments) :
      Lowering _).result = .ok f.params := Scope.params_eq_ok.2 hf.params
  simp only [variableFunction]
  rw [needs_bind hname, needs_bind hflow, needs_bind hparams, needs_withUses,
    Scope.needs_template hf.flow]
  simp

/-- What a variable needs counts if the message leads to it. -/
theorem needs_variableFunctions {vs : List Variable} {fs : List Function}
    (h : (m.variableFunctions language width vs).result = .ok fs) :
    (m.variableFunctions language width vs).Needs c ↔
      ∃ f ∈ fs, f.referenced = true ∧ f.flow.Needs c := by
  induction vs generalizing fs with
  | nil =>
      cases variableFunctions_eq_ok.1 h
      simp [variableFunctions]
  | cons v vs ih =>
      obtain _ | ⟨hf, hrest⟩ := variableFunctions_eq_ok.1 h
      rename_i f fs
      have hfs := variableFunctions_eq_ok.2 hrest
      have hone := variableFunction_eq_ok.2 hf
      rw [variableFunctions]
      by_cases hmem : v.name ∈ m.referenced
      · have hreferenced : f.referenced = true := by
          rw [hf.referenced, decide_eq_true hmem]
        rw [decide_eq_true hmem] at hone
        rw [if_pos hmem, needs_bind hone, needs_bind hfs, needs_variableFunction hf, ih hfs]
        simp [hreferenced]
      · have hreferenced : f.referenced = false := by
          rw [hf.referenced, decide_eq_false hmem]
        rw [decide_eq_false hmem] at hone
        -- the variable is planned by itself, and only its events are passed on
        have halone : (m.variableFunction language width false v).alone.result = .ok f := hone
        rw [if_neg hmem, needs_bind halone, needs_bind rfl, needs_bind rfl]
        dsimp only
        rw [needs_bind hfs, ih hfs]
        simp [hreferenced]

theorem needs_lower {fs : Function × List Function}
    (h : (m.lower language width).result = .ok fs) :
    (m.lower language width).Needs c ↔
      fs.1.flow.Needs c ∨ ∃ f ∈ fs.2, f.referenced = true ∧ f.flow.Needs c := by
  obtain ⟨hf, hgs⟩ := lower_eq_ok.1 h
  have hfunction := function_eq_ok.2 hf
  have hvariables := variableFunctions_eq_ok.2 hgs
  rw [lower, needs_bind hfunction, needs_bind hvariables, needs_bind rfl,
    needs_function hfunction, needs_variableFunctions hvariables]
  simp

end Message

/-- The capabilities of a plan are what the functions of its messages, and those of the variables
that they lead to, need. -/
theorem Localization.contains_capabilities {l : Localization} {width : IntegerWidth} {p : Plan}
    (h : (l.lower width).result = .ok p) (c : Capability) :
    p.capabilities.contains c ↔
      ∃ f ∈ p.messages ++ p.auxiliaries, f.referenced = true ∧ f.flow.Needs c := by
  simp only [lower, Traced.result_bind, Traced.result_liftM, ok_bind, bind_eq_ok] at h
  obtain ⟨_, hcheck, _, _, heq⟩ := h
  cases heq
  have hresults := forall₂_of_partitionResults (checkSchema_eq_ok.1 hcheck)
  rw [List.forall₂_map_left_iff, List.forall₂_map_left_iff] at hresults
  generalize (partitionResults _).2 = functions at hresults
  have hneeds : .need c ∈ (l.messages.map (·.lower l.language width)).flatMap (·.steps) ↔
      ∃ fs ∈ functions, fs.1.flow.Needs c ∨
        ∃ f ∈ fs.2, f.referenced = true ∧ f.flow.Needs c := by
    constructor
    · intro hstep
      obtain ⟨x, hx, hstep⟩ := List.mem_flatMap.1 hstep
      obtain ⟨m, hm, rfl⟩ := List.mem_map.1 hx
      obtain ⟨fs, hfs, hlower⟩ := exists_of_forall₂_left hresults hm
      exact ⟨fs, hfs, (Message.needs_lower hlower).1 hstep⟩
    · rintro ⟨fs, hfs, hfneeds⟩
      obtain ⟨m, hm, hlower⟩ := exists_of_forall₂_right hresults hfs
      refine List.mem_flatMap.2 ⟨_, List.mem_map_of_mem hm, ?_⟩
      exact (Message.needs_lower hlower).2 hfneeds
  -- the functions of messages always count
  have hreferenced : ∀ fs ∈ functions, fs.1.referenced = true := by
    intro fs hfs
    obtain ⟨m, -, hlower⟩ := exists_of_forall₂_right hresults hfs
    exact (Message.lower_eq_ok.1 hlower).1.referenced
  rw [contains_settle, hneeds]
  constructor
  · rintro (hempty | ⟨fs, hfs, hf | ⟨f, hf, hfneeds⟩⟩)
    · cases hempty
    · exact ⟨fs.1, List.mem_append_left _ (List.mem_map_of_mem hfs), hreferenced fs hfs, hf⟩
    · exact ⟨f, List.mem_append_right _ (List.mem_flatMap.2 ⟨fs, hfs, hf⟩), hfneeds⟩
  · rintro ⟨f, hf, hfneeds⟩
    refine .inr ?_
    rcases List.mem_append.1 hf with hf | hf
    · obtain ⟨fs, hfs, rfl⟩ := List.mem_map.1 hf
      exact ⟨fs, hfs, .inl hfneeds.2⟩
    · obtain ⟨fs, hfs, hf⟩ := List.mem_flatMap.1 hf
      exact ⟨fs, hfs, .inr ⟨f, hf, hfneeds⟩⟩

end Phrasebook
