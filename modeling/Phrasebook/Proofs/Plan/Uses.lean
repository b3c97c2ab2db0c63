import Phrasebook.Proofs.Plan.Lowering

set_option autoImplicit false

/-! # The arguments that lowering uses

Whenever lowering resolves the name of an argument, it notes that the argument is used, and a
parameter is marked by these notes. What it notes is what the plan reads, in the same order
(`Scope.uses_template`): no operation reads an argument behind the back of the notes, and nothing is
noted for an operation that is left out. -/

namespace Phrasebook

/-! ## What a plan reads -/

/-- The bindings an operation reads. -/
def Op.reads : Op → List Binding
  | .argument b _ _ => [b]
  | .call _ _ bs => bs
  | _ => []

/-- The bindings a body reads. -/
def Block.reads (b : Block) : List Binding := b.ops.flatMap Op.reads

/-- The bindings a flow reads. -/
def Flow.reads : Flow → List Binding
  | .sequence b => b.reads
  | .dispatch d => d.driver :: d.branches.flatMap (·.body.reads)

/-! ## What a computation uses -/

namespace Lowering

variable {α β : Type}

theorem uses_bind {x : Lowering α} {f : α → Lowering β} {a : α} (h : x.result = .ok a) :
    (x >>= f).uses = x.uses ++ (f a).uses := by
  rw [uses, Traced.steps_bind h, List.filterMap_append, uses, uses]

@[simp] theorem uses_pure (a : α) : uses (pure a) = [] := rfl

@[simp] theorem uses_liftM (r : Except SchemaError α) : uses (liftM r : Lowering α) = [] := rfl

@[simp] theorem uses_use (x : String) : (use x).uses = [x] := rfl

@[simp] theorem uses_need (c : Capability) : (need c).uses = [] := rfl

@[simp] theorem uses_note (e : Event) : (note e).uses = [] := rfl

end Lowering

open Lowering

namespace Scope

variable {s : Scope} {direct : Bool}

theorem uses_used {x : String} {r : Binding × ArgType} (h : (s.used x).result = .ok r) :
    (s.used x).uses = [x] := by
  rw [result_used] at h
  have hbinding : (liftM (s.binding x) : Lowering _).result = .ok r := h
  rw [used, uses_bind hbinding, uses_bind rfl]
  simp

theorem uses_mapM_used {xs : List String} {rs : List (Binding × ArgType)}
    (h : (xs.mapM s.used).result = .ok rs) : (xs.mapM s.used).uses = xs := by
  induction xs generalizing rs with
  | nil => rfl
  | cons x xs ih =>
      rw [Traced.result_mapM] at h
      obtain _ | ⟨hr, hrs⟩ := mapM_eq_ok.1 h
      have hrest : (xs.mapM s.used).result = .ok _ :=
        (Traced.result_mapM _ _).trans (mapM_eq_ok.2 hrs)
      rw [List.mapM_cons, uses_bind hr, uses_bind hrest, uses_used hr, ih hrest]
      simp

/-- The arguments of bindings are the names that they are made for. -/
theorem arguments_of_binds {xs : List String} {bs : List Binding}
    (h : List.Forall₂ s.Binds xs bs) : bs.map (·.argument) = xs := by
  rw [← List.map_id xs]
  refine (map_eq_map_of_forall₂ h fun x b hb => ?_).symm
  obtain ⟨type, hb⟩ := hb
  exact (binding_eq_ok.1 hb).2.2.symm

theorem uses_call {x : String} {op : Op} (h : (s.call x).result = .ok op) :
    (s.call x).uses = op.reads.map (·.argument) := by
  obtain ⟨v, function, bs, hv, hfunction, hbs, rfl⟩ := call_eq_ok.1 h
  have hname : (liftM (s.check (auxiliaryName s.message.name x)) : Lowering _).result =
      .ok function := check_eq_ok.2 hfunction
  obtain ⟨rs, hrs⟩ : ∃ rs, (v.arguments.mapM s.used).result = .ok rs := by
    simp only [call, hv, Traced.result_bind, bind_eq_ok] at h
    obtain ⟨_, _, rs, hrs, _⟩ := h
    exact ⟨rs, hrs⟩
  rw [Op.reads, arguments_of_binds hbs]
  simp only [call, hv]
  rw [uses_bind hname, uses_bind hrs, uses_mapM_used hrs]
  simp

theorem uses_part {p : Part} {o : Option Op} (h : (s.part p).result = .ok o) :
    (s.part p).uses = (o.toList.flatMap Op.reads).map (·.argument) := by
  cases p with
  | literal text =>
      rw [part_literal] at h
      cases h
      rw [part, uses_pure]
      by_cases hempty : text.isEmpty
      · simp [hempty]
      · simp [hempty, Op.reads]
  | argument x directive =>
      obtain ⟨b, type, r, hb, hr, rfl⟩ := part_argument_eq_ok.1 h
      have hused : (s.used x).result = .ok (b, type) := (result_used x).trans hb
      have hrendering : (liftM (s.check ((Format.Rendering.resolve type directive).mapError
          (.invalidDirective (directive.getD "")))) : Lowering _).result = .ok r :=
        check_eq_ok.2 (mapError_eq_ok.2 hr)
      rw [part, uses_bind hused, uses_used hused]
      dsimp only
      rw [uses_bind hrendering, uses_bind rfl]
      simp [Op.reads, (binding_eq_ok.1 hb).2.2]
  | var x =>
      obtain ⟨op, hcall, rfl⟩ := part_var_eq_ok.1 h
      rw [part, uses_bind hcall, uses_call hcall]
      simp

/-- Joining literals changes nothing about what is read. -/
theorem reads_joinedOption (o : Option Op) (ops : List Op) :
    (joinedOption o ops).flatMap Op.reads = o.toList.flatMap Op.reads ++ ops.flatMap Op.reads := by
  cases o with
  | none => rfl
  | some op =>
      rw [joinedOption]
      unfold joined
      split
      · simp [Op.reads]
      · simp

theorem uses_parts {ps : List Part} {ops : List Op} (h : (s.parts ps).result = .ok ops) :
    (s.parts ps).uses = (ops.flatMap Op.reads).map (·.argument) := by
  induction ps generalizing ops with
  | nil =>
      cases h
      rfl
  | cons p ps ih =>
      obtain ⟨o, rest, ho, hrest, rfl⟩ := parts_cons_eq_ok.1 h
      rw [parts, uses_bind ho, uses_bind hrest, uses_part ho, ih hrest, reads_joinedOption]
      simp

theorem uses_body {b : Body} {block : Block} (h : (s.body direct b).result = .ok block) :
    (s.body direct b).uses = block.reads.map (·.argument) := by
  by_cases hconstant : direct ∧ b.isConstant
  · obtain ⟨rfl, hconstant⟩ := hconstant
    have htext : b.constantText? = some b.literalText := by
      rw [Body.constantText?, if_pos hconstant]
    rw [body_eq_ok_of_constant hconstant] at h
    subst h
    simp [body, htext, Block.reads, Op.reads]
  · obtain ⟨ops, hops, rfl⟩ := (body_eq_ok_of_accumulate hconstant).1 h
    rw [body_of_accumulate hconstant, uses_bind rfl, uses_bind hops, uses_parts hops]
    simp [Block.reads]

theorem uses_branches {bs : List (Category × Body)} {branches : List Branch}
    (h : (s.branches direct bs).result = .ok branches) :
    (s.branches direct bs).uses = (branches.flatMap (·.body.reads)).map (·.argument) := by
  induction bs generalizing branches with
  | nil =>
      cases branches_eq_ok.1 h
      rfl
  | cons b bs ih =>
      obtain ⟨category, b⟩ := b
      obtain _ | ⟨⟨-, hbody⟩, hrest⟩ := branches_eq_ok.1 h
      have hbranches := branches_eq_ok.2 hrest
      rw [Scope.branches, uses_bind hbody, uses_bind hbranches, uses_body hbody, ih hbranches]
      simp

/-- What is noted as used is what the plan reads. -/
theorem uses_template {t : Template} {flow : Flow} (h : (s.template direct t).result = .ok flow) :
    (s.template direct t).uses = flow.reads.map (·.argument) := by
  cases t with
  | unset => cases h
  | plain b =>
      obtain ⟨block, hblock, rfl⟩ := template_plain_eq_ok.1 h
      rw [template, uses_bind hblock, uses_body hblock]
      simp [Flow.reads]
  | plural p =>
      obtain ⟨d, hd, rfl⟩ := template_plural_eq_ok.1 h
      obtain ⟨hsome, hdriver, hbranches, -⟩ := plural_eq_ok.1 hd
      have hempty : ¬ p.isEmpty := by simpa [Plural.isEmpty] using hsome
      have hused : (s.used p.argument).result = .ok (d.driver, .integer) :=
        (result_used _).trans hdriver
      rw [template, uses_bind hd, plural, if_neg hempty, uses_bind hused, uses_used hused]
      dsimp only
      rw [if_neg (by simp), uses_bind hbranches, uses_bind rfl, uses_branches hbranches]
      simp [Flow.reads, (binding_eq_ok.1 hdriver).2.2]

end Scope

end Phrasebook
