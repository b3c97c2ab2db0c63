import Phrasebook.Proofs.Schema.WellFormed

set_option autoImplicit false

/-! # What lowering gives

For each function of the lowering, when it succeeds and with what (`_eq_ok`), apart from the steps
that are noted on the way. The second half shows that it does succeed on a message that is well
formed (`Message.exists_lower`): every name it looks up is declared, seen and an identifier. -/

namespace Phrasebook

namespace Scope

variable {s : Scope} {direct : Bool}

theorem check_eq_ok {α : Type} {r : Except Violation α} {a : α} :
    s.check r = .ok a ↔ r = .ok a :=
  mapError_eq_ok

/-! ## Names -/

theorem binding_eq_ok {name : String} {b : Binding} {type : ArgType} :
    s.binding name = .ok (b, type) ↔
      (∃ a, s.message.argumentNamed? name = some a ∧ Visible s.visible name ∧ a.type = type) ∧
        parameterName name = .ok b.ident ∧ b.argument = name := by
  unfold binding
  rw [bind_eq_ok]
  constructor
  · rintro ⟨t, ht, hrest⟩
    obtain ⟨ident, hident, heq⟩ := bind_eq_ok.1 hrest
    rw [check_eq_ok] at ht hident
    cases heq
    exact ⟨Message.visibleType_eq_ok.1 ht, hident, rfl⟩
  · rintro ⟨hseen, hident, rfl⟩
    refine ⟨type, check_eq_ok.2 (Message.visibleType_eq_ok.2 hseen), ?_⟩
    exact bind_eq_ok.2 ⟨b.ident, check_eq_ok.2 hident, rfl⟩

@[simp] theorem result_used (name : String) : (s.used name).result = s.binding name := by
  simp only [used, Lowering.use, Traced.result_bind, Traced.result_liftM, Traced.result_step,
    Traced.result_pure, ok_bind]
  cases s.binding name <;> rfl

/-- A binding that an argument of a call is given by. -/
def Binds (s : Scope) (name : String) (b : Binding) : Prop :=
  ∃ type, s.binding name = .ok (b, type)

theorem call_eq_ok {name : String} {op : Op} :
    (s.call name).result = .ok op ↔
      ∃ v function bs, s.message.variableNamed? name = some v ∧
        auxiliaryName s.message.name name = .ok function ∧
        List.Forall₂ s.Binds v.arguments bs ∧ op = .call name function bs := by
  unfold call
  cases hv : s.message.variableNamed? name with
  | none => simp
  | some v =>
      simp only [Traced.result_bind, Traced.result_liftM, Traced.result_mapM, result_used,
        Traced.result_pure, bind_eq_ok, check_eq_ok, mapM_eq_ok, Option.some.injEq]
      constructor
      · rintro ⟨function, hfunction, as, has, heq⟩
        cases heq
        refine ⟨v, function, _, rfl, hfunction, List.forall₂_map_right_iff.2 ?_, rfl⟩
        exact has.imp fun x a hxa => ⟨a.2, hxa⟩
      · rintro ⟨_, function, bs, rfl, hfunction, hbs, rfl⟩
        obtain ⟨as, has⟩ : ∃ as, List.Forall₂ (fun x a => s.binding x = .ok a) v.arguments as ∧
            as.map (·.1) = bs := by
          clear hv
          generalize v.arguments = names at hbs
          induction hbs with
          | nil => exact ⟨[], .nil, rfl⟩
          | @cons x b _ _ hxb _ ih =>
              obtain ⟨type, hx⟩ := hxb
              obtain ⟨as, has, rfl⟩ := ih
              exact ⟨(b, type) :: as, .cons hx has, rfl⟩
        exact ⟨function, hfunction, as, has.1, by rw [has.2]⟩

/-! ## Bodies -/

theorem part_literal (text : String) :
    (s.part (.literal text)).result =
      .ok (if text.isEmpty then none else some (.literal text)) := rfl

theorem part_argument_eq_ok {name : String} {directive : Option String} {o : Option Op} :
    (s.part (.argument name directive)).result = .ok o ↔
      ∃ b type r, s.binding name = .ok (b, type) ∧
        Format.Rendering.resolve type directive = .ok r ∧ o = some (.argument b type r) := by
  simp only [part, Traced.result_bind, Traced.result_liftM, result_used, bind_eq_ok, check_eq_ok,
    mapError_eq_ok]
  constructor
  · rintro ⟨⟨b, type⟩, hb, r, hr, _, _, heq⟩
    cases heq
    exact ⟨b, type, r, hb, hr, rfl⟩
  · rintro ⟨b, type, r, hb, hr, rfl⟩
    exact ⟨(b, type), hb, r, hr, (), rfl, rfl⟩

theorem part_var_eq_ok {name : String} {o : Option Op} :
    (s.part (.var name)).result = .ok o ↔ ∃ op, (s.call name).result = .ok op ∧ o = some op := by
  simp only [part, Traced.result_bind, bind_eq_ok]
  constructor
  · rintro ⟨op, hop, heq⟩
    cases heq
    exact ⟨op, hop, rfl⟩
  · rintro ⟨op, hop, rfl⟩
    exact ⟨op, hop, rfl⟩

/-- An operation, if there is one, in front of others. -/
def joinedOption : Option Op → List Op → List Op
  | none, ops => ops
  | some op, ops => joined op ops

theorem parts_cons_eq_ok {p : Part} {ps : List Part} {ops : List Op} :
    (s.parts (p :: ps)).result = .ok ops ↔
      ∃ o rest, (s.part p).result = .ok o ∧ (s.parts ps).result = .ok rest ∧
        ops = joinedOption o rest := by
  simp only [parts, Traced.result_bind, bind_eq_ok]
  constructor
  · rintro ⟨o, ho, rest, hrest, heq⟩
    refine ⟨o, rest, ho, hrest, ?_⟩
    cases o <;> cases heq <;> rfl
  · rintro ⟨o, rest, ho, hrest, rfl⟩
    refine ⟨o, ho, rest, hrest, ?_⟩
    cases o <;> rfl

theorem body_eq_ok_of_constant {b : Body} {block : Block} (hb : b.isConstant) :
    (s.body true b).result = .ok block ↔ block = ⟨.constant, [.giveBack b.literalText]⟩ := by
  have htext : b.constantText? = some b.literalText := by
    rw [Body.constantText?, if_pos hb]
  simp only [body, htext, Traced.result_pure, Except.ok.injEq]
  exact eq_comm

/-- A body that is not given back as a text appends its parts. -/
theorem body_of_accumulate {b : Body} (h : ¬(direct ∧ b.isConstant)) :
    s.body direct b = do
      Lowering.need .textBuffer
      return ⟨.accumulate, ← s.parts b⟩ := by
  unfold body
  split
  · next text htext =>
      refine absurd ⟨rfl, ?_⟩ h
      rw [Body.constantText?] at htext
      split at htext
      · assumption
      · cases htext
  · rfl

theorem body_eq_ok_of_accumulate {b : Body} {block : Block} (h : ¬(direct ∧ b.isConstant)) :
    (s.body direct b).result = .ok block ↔
      ∃ ops, (s.parts b).result = .ok ops ∧ block = ⟨.accumulate, ops⟩ := by
  rw [body_of_accumulate h]
  simp only [Lowering.need, Traced.result_bind, Traced.result_step, ok_bind, bind_eq_ok]
  constructor
  · rintro ⟨ops, hops, heq⟩
    cases heq
    exact ⟨ops, hops, rfl⟩
  · rintro ⟨ops, hops, rfl⟩
    exact ⟨ops, hops, rfl⟩

/-! ## Templates -/

theorem branches_eq_ok {bs : List (Category × Body)} {branches : List Branch} :
    (s.branches direct bs).result = .ok branches ↔
      List.Forall₂ (fun b branch => (branch.category = b.1 ∧ branch.condition = b.1.condition) ∧
        (s.body direct b.2).result = .ok branch.body) bs branches := by
  induction bs generalizing branches with
  | nil => cases branches <;> simp [Scope.branches]
  | cons b bs ih =>
      obtain ⟨category, b⟩ := b
      simp only [Scope.branches, Traced.result_bind, bind_eq_ok]
      constructor
      · rintro ⟨block, hblock, rest, hrest, heq⟩
        cases heq
        exact .cons ⟨⟨rfl, rfl⟩, hblock⟩ (ih.1 hrest)
      · rintro (_ | ⟨⟨⟨rfl, hcondition⟩, hblock⟩, hrest⟩)
        refine ⟨_, hblock, _, ih.2 hrest, ?_⟩
        rw [← hcondition]
        rfl

theorem plural_eq_ok {p : Plural} {d : Dispatch} :
    (s.plural direct p).result = .ok d ↔
      p.branches ≠ [] ∧ s.binding p.argument = .ok (d.driver, .integer) ∧
        (s.branches direct p.branches).result = .ok d.branches ∧
        d.covered = p.coversWidth s.width := by
  unfold plural
  by_cases hempty : p.isEmpty
  · have hnone : p.branches = [] := by simpa [Plural.isEmpty] using hempty
    simp [hempty, hnone]
  · have hsome : p.branches ≠ [] := by simpa [Plural.isEmpty] using hempty
    simp only [hempty, Bool.false_eq_true, if_false, Traced.result_bind, result_used,
      Lowering.note, bind_eq_ok]
    constructor
    · rintro ⟨⟨driver, type⟩, hdriver, hrest⟩
      by_cases htype : type = .integer
      · subst htype
        obtain ⟨branches, hbranches, _, _, heq⟩ := by
          simpa only [ne_eq, not_true_eq_false, if_false, Traced.result_bind, Traced.result_pure,
            bind_eq_ok] using hrest
        cases heq
        exact ⟨hsome, hdriver, hbranches, rfl⟩
      · simp [htype] at hrest
    · rintro ⟨-, hdriver, hbranches, hcovered⟩
      refine ⟨_, hdriver, ?_⟩
      simp only [ne_eq, not_true_eq_false, if_false, Traced.result_bind, Traced.result_pure,
        bind_eq_ok]
      exact ⟨_, hbranches, (), rfl, by rw [← hcovered]⟩

theorem template_plain_eq_ok {b : Body} {flow : Flow} :
    (s.template direct (.plain b)).result = .ok flow ↔
      ∃ block, (s.body direct b).result = .ok block ∧ flow = .sequence block := by
  simp only [template, Traced.result_bind, bind_eq_ok]
  constructor
  · rintro ⟨block, hblock, heq⟩
    cases heq
    exact ⟨block, hblock, rfl⟩
  · rintro ⟨block, hblock, rfl⟩
    exact ⟨block, hblock, rfl⟩

theorem template_plural_eq_ok {p : Plural} {flow : Flow} :
    (s.template direct (.plural p)).result = .ok flow ↔
      ∃ d, (s.plural direct p).result = .ok d ∧ flow = .dispatch d := by
  simp only [template, Traced.result_bind, bind_eq_ok]
  constructor
  · rintro ⟨d, hd, heq⟩
    cases heq
    exact ⟨d, hd, rfl⟩
  · rintro ⟨d, hd, rfl⟩
    exact ⟨d, hd, rfl⟩

/-! ## Parameters -/

theorem param_eq_ok {uses : List String} {name : String} {q : Param} :
    s.param uses name = .ok q ↔
      ∃ a, s.message.argumentNamed? name = some a ∧ parameterName name = .ok q.binding.ident ∧
        q.binding.argument = name ∧ q.type = a.type ∧ q.used = uses.contains name := by
  unfold param
  cases ha : s.message.argumentNamed? name with
  | none => simp
  | some a =>
      simp only [bind_eq_ok, check_eq_ok, Option.some.injEq]
      constructor
      · rintro ⟨ident, hident, heq⟩
        cases heq
        exact ⟨a, rfl, hident, rfl, rfl, rfl⟩
      · rintro ⟨_, rfl, hident, hname, htype, hused⟩
        refine ⟨_, hident, ?_⟩
        rw [← hname, ← htype, hname, ← hused, ← hname]
        rfl

theorem params_eq_ok {uses names : List String} {qs : List Param} :
    s.params uses names = .ok qs ↔
      List.Forall₂ (fun name q => s.param uses name = .ok q) names qs :=
  mapM_eq_ok

end Scope

/-! ## Functions -/

namespace Message

variable {m : Message} {language : String} {width : IntegerWidth}

/-- The function that a message is lowered to. -/
structure IsFunction (m : Message) (language : String) (width : IntegerWidth) (f : Function) :
    Prop where
  name : methodName m.name = .ok f.name
  source : f.source = m.name
  shape : f.shape = if m.template.isConstant then .simple else .general
  flow : ((m.scope language width).template true m.template).result = .ok f.flow
  params : List.Forall₂ (fun x q => (m.scope language width).param
      ((m.scope language width).template true m.template).uses x = .ok q)
    (m.arguments.map (·.name)) f.params
  referenced : f.referenced = true

/-- The function that a variable of a message is lowered to. -/
structure IsVariableFunction (m : Message) (language : String) (width : IntegerWidth)
    (v : Variable) (f : Function) : Prop where
  name : auxiliaryName m.name v.name = .ok f.name
  source : f.source = v.name
  shape : f.shape = .auxiliary
  flow : ((m.variableScope language width v).template false v.template).result = .ok f.flow
  params : List.Forall₂ (fun x q => (m.variableScope language width v).param
      ((m.variableScope language width v).template false v.template).uses x = .ok q)
    v.arguments f.params
  referenced : f.referenced = decide (v.name ∈ m.referenced)

theorem withUses_eq_ok {x : Lowering Flow} {r : Flow × List String} :
    x.withUses.result = .ok r ↔ ∃ flow, x.result = .ok flow ∧ (flow, x.uses) = r :=
  map_eq_ok

theorem function_eq_ok {f : Function} :
    (m.function language width).result = .ok f ↔ m.IsFunction language width f := by
  simp only [function, Traced.result_bind, Traced.result_liftM, bind_eq_ok, Scope.check_eq_ok,
    Scope.params_eq_ok, withUses_eq_ok]
  constructor
  · rintro ⟨name, hname, _, ⟨flow, hflow, rfl⟩, params, hparams, heq⟩
    cases heq
    exact ⟨hname, rfl, rfl, hflow, hparams, rfl⟩
  · intro h
    refine ⟨_, h.name, _, ⟨_, h.flow, rfl⟩, _, h.params, ?_⟩
    rw [← h.source, ← h.shape, ← h.referenced]
    rfl

theorem variableFunction_eq_ok {v : Variable} {f : Function} :
    (m.variableFunction language width (decide (v.name ∈ m.referenced)) v).result = .ok f ↔
      m.IsVariableFunction language width v f := by
  simp only [variableFunction, Traced.result_bind, Traced.result_liftM, bind_eq_ok,
    Scope.check_eq_ok, Scope.params_eq_ok, withUses_eq_ok]
  constructor
  · rintro ⟨name, hname, _, ⟨flow, hflow, rfl⟩, params, hparams, heq⟩
    cases heq
    exact ⟨hname, rfl, rfl, hflow, hparams, rfl⟩
  · intro h
    refine ⟨_, h.name, _, ⟨_, h.flow, rfl⟩, _, h.params, ?_⟩
    rw [← h.referenced, ← h.source, ← h.shape]
    rfl

theorem variableFunctions_eq_ok {vs : List Variable} {fs : List Function} :
    (m.variableFunctions language width vs).result = .ok fs ↔
      List.Forall₂ (m.IsVariableFunction language width) vs fs := by
  induction vs generalizing fs with
  | nil => cases fs <;> simp [variableFunctions]
  | cons v vs ih =>
      -- Whether something leads to the variable decides what is noted, not what comes out.
      have hcons : (m.variableFunctions language width (v :: vs)).result = do
          let f ← (m.variableFunction language width (decide (v.name ∈ m.referenced)) v).result
          let rest ← (m.variableFunctions language width vs).result
          return f :: rest := by
        by_cases hmem : v.name ∈ m.referenced
        · simp only [variableFunctions, hmem, if_true, decide_true, Traced.result_bind]
          rfl
        · simp only [variableFunctions, hmem, if_false, decide_false, Traced.result_bind,
            Lowering.alone]
          rfl
      rw [hcons]
      simp only [bind_eq_ok, ih, variableFunction_eq_ok]
      constructor
      · rintro ⟨f, hf, rest, hrest, heq⟩
        cases heq
        exact .cons hf hrest
      · rintro (_ | ⟨hf, hrest⟩)
        exact ⟨_, hf, _, hrest, rfl⟩

theorem lower_eq_ok {fs : Function × List Function} :
    (m.lower language width).result = .ok fs ↔
      m.IsFunction language width fs.1 ∧
        List.Forall₂ (m.IsVariableFunction language width) m.vars fs.2 := by
  simp only [lower, Traced.result_bind, bind_eq_ok, function_eq_ok, variableFunctions_eq_ok]
  constructor
  · rintro ⟨f, hf, gs, hgs, _, _, heq⟩
    cases heq
    exact ⟨hf, hgs⟩
  · rintro ⟨hf, hgs⟩
    exact ⟨_, hf, _, hgs, (), rfl, rfl⟩

end Message

/-- A plan has the functions of the messages of a localization and of their variables. -/
theorem Localization.lower_eq_ok {l : Localization} {width : IntegerWidth} {p : Plan}
    (h : (l.lower width).result = .ok p) :
    p.language = l.language ∧ ∃ fs : List (Function × List Function),
      p.messages = fs.map (·.1) ∧ p.auxiliaries = fs.flatMap (·.2) ∧
      List.Forall₂ (fun m f => m.IsFunction l.language width f.1 ∧
        List.Forall₂ (m.IsVariableFunction l.language width) m.vars f.2) l.messages fs := by
  simp only [lower, Traced.result_bind, Traced.result_liftM, ok_bind, bind_eq_ok] at h
  obtain ⟨_, hcheck, _, _, heq⟩ := h
  cases heq
  refine ⟨rfl, _, rfl, rfl, ?_⟩
  have hresults := forall₂_of_partitionResults (checkSchema_eq_ok.1 hcheck)
  rw [List.forall₂_map_left_iff, List.forall₂_map_left_iff] at hresults
  exact hresults.imp fun m f hf => Message.lower_eq_ok.1 hf

/-! ## Well-formed messages can be lowered -/

namespace Message

variable {m : Message} {name : String}

theorem mem_of_argumentNamed? {a : Argument} (h : m.argumentNamed? name = some a) :
    a ∈ m.arguments ∧ a.name = name :=
  ⟨List.mem_of_find?_eq_some h, by simpa using List.find?_some h⟩

theorem exists_argumentNamed? (h : ∃ a ∈ m.arguments, a.name = name) :
    ∃ a, m.argumentNamed? name = some a :=
  Option.isSome_iff_exists.1 (isSome_argumentNamed?_iff.2 h)

/-- Each variable has a name for its function. -/
def FunctionsNamed (m : Message) : Prop :=
  ∀ v ∈ m.vars, ∃ n, auxiliaryName m.name v.name = .ok n

end Message

namespace Scope

variable {s : Scope} (h : s.message.WellFormed s.width) (hnamed : s.message.FunctionsNamed)

include h

theorem exists_binding {x : String} {a : Argument} (ha : s.message.argumentNamed? x = some a)
    (hseen : Visible s.visible x) : ∃ b, s.binding x = .ok (b, a.type) := by
  obtain ⟨hmem, rfl⟩ := Message.mem_of_argumentNamed? ha
  obtain ⟨ident, hident⟩ := h.parameters.exists_name hmem
  exact ⟨⟨a.name, ident⟩, binding_eq_ok.2 ⟨⟨a, ha, hseen, rfl⟩, hident, rfl⟩⟩

theorem exists_params {uses names : List String}
    (hdeclared : ∀ x ∈ names, ∃ a ∈ s.message.arguments, a.name = x) :
    ∃ qs, List.Forall₂ (fun x q => s.param uses x = .ok q) names qs := by
  refine exists_forall₂ fun x hx => ?_
  obtain ⟨a, ha⟩ := Message.exists_argumentNamed? (hdeclared x hx)
  obtain ⟨hmem, rfl⟩ := Message.mem_of_argumentNamed? ha
  obtain ⟨ident, hident⟩ := h.parameters.exists_name hmem
  exact ⟨⟨⟨a.name, ident⟩, a.type, _⟩, param_eq_ok.2 ⟨a, ha, hident, rfl, rfl, rfl⟩⟩

include hnamed

theorem exists_part {p : Part} (hp : s.message.PartOk s.visible p) :
    ∃ o, (s.part p).result = .ok o := by
  cases p with
  | literal text => exact ⟨_, part_literal text⟩
  | argument x directive =>
      obtain ⟨a, ha, hseen, r, hr⟩ := hp
      obtain ⟨b, hb⟩ := exists_binding h ha hseen
      exact ⟨_, part_argument_eq_ok.2 ⟨b, a.type, r, hb, hr, rfl⟩⟩
  | var x =>
      obtain ⟨v, hv, hseen⟩ := hp
      obtain ⟨hmem, rfl⟩ := Message.mem_of_variableNamed? hv
      obtain ⟨function, hfunction⟩ := hnamed v hmem
      obtain ⟨bs, hbs⟩ : ∃ bs, List.Forall₂ s.Binds v.arguments bs := by
        refine exists_forall₂ fun x hx => ?_
        obtain ⟨a, ha⟩ := Message.exists_argumentNamed? ((h.received v hmem).2 x hx)
        obtain ⟨b, hb⟩ := exists_binding h ha (hseen x hx)
        exact ⟨b, a.type, hb⟩
      exact ⟨_, part_var_eq_ok.2 ⟨_, call_eq_ok.2 ⟨v, function, bs, hv, hfunction, hbs, rfl⟩, rfl⟩⟩

theorem exists_parts {ps : List Part} (hps : s.message.BodyOk s.visible ps) :
    ∃ ops, (s.parts ps).result = .ok ops := by
  induction ps with
  | nil => exact ⟨[], rfl⟩
  | cons p ps ih =>
      obtain ⟨o, ho⟩ := exists_part h hnamed (hps p List.mem_cons_self)
      obtain ⟨ops, hops⟩ := ih fun q hq => hps q (List.mem_cons_of_mem _ hq)
      exact ⟨_, parts_cons_eq_ok.2 ⟨o, ops, ho, hops, rfl⟩⟩

theorem exists_body {direct : Bool} {b : Body} (hb : s.message.BodyOk s.visible b) :
    ∃ block, (s.body direct b).result = .ok block := by
  by_cases hconstant : direct ∧ b.isConstant
  · obtain ⟨rfl, hconstant⟩ := hconstant
    exact ⟨_, (body_eq_ok_of_constant hconstant).2 rfl⟩
  · obtain ⟨ops, hops⟩ := exists_parts h hnamed hb
    exact ⟨_, (body_eq_ok_of_accumulate hconstant).2 ⟨ops, hops, rfl⟩⟩

theorem exists_template {direct : Bool} {t : Template}
    (ht : s.message.TemplateOk s.width s.visible t) :
    ∃ flow, (s.template direct t).result = .ok flow := by
  cases t with
  | unset => exact ht.elim
  | plain b =>
      obtain ⟨block, hblock⟩ := exists_body h hnamed ht
      exact ⟨_, template_plain_eq_ok.2 ⟨block, hblock, rfl⟩⟩
  | plural p =>
      obtain ⟨a, ha, hseen, htype⟩ := ht.driver
      obtain ⟨driver, hdriver⟩ := exists_binding h ha hseen
      rw [htype] at hdriver
      obtain ⟨branches, hbranches⟩ : ∃ branches, List.Forall₂
          (fun (b : Category × Body) (branch : Branch) =>
            (branch.category = b.1 ∧ branch.condition = b.1.condition) ∧
              (s.body direct b.2).result = .ok branch.body) p.branches branches := by
        refine exists_forall₂ fun b hb => ?_
        obtain ⟨block, hblock⟩ := exists_body h hnamed (ht.bodies b hb)
        exact ⟨⟨b.1, b.1.condition, block⟩, ⟨rfl, rfl⟩, hblock⟩
      refine ⟨_, template_plural_eq_ok.2 ⟨⟨driver, branches, p.coversWidth s.width⟩, ?_, rfl⟩⟩
      exact plural_eq_ok.2 ⟨ht.nonempty, hdriver, branches_eq_ok.2 hbranches, rfl⟩

end Scope

namespace Message

variable {m : Message} {language : String} {width : IntegerWidth}

theorem exists_lower (h : m.WellFormed width) (hmethod : ∃ n, methodName m.name = .ok n)
    (hnamed : m.FunctionsNamed) : ∃ fs, (m.lower language width).result = .ok fs := by
  have hf : ∃ f, m.IsFunction language width f := by
    obtain ⟨n, hn⟩ := hmethod
    obtain ⟨flow, hflow⟩ : ∃ flow,
        ((m.scope language width).template true m.template).result = .ok flow :=
      Scope.exists_template h hnamed h.template
    obtain ⟨qs, hqs⟩ : ∃ qs, List.Forall₂
        (fun x q => (m.scope language width).param
          ((m.scope language width).template true m.template).uses x = .ok q)
        (m.arguments.map (·.name)) qs :=
      Scope.exists_params h fun x hx => List.mem_map.1 hx
    exact ⟨⟨n, m.name, _, qs, flow, true⟩, hn, rfl, rfl, hflow, hqs, rfl⟩
  have hgs : ∃ gs, List.Forall₂ (m.IsVariableFunction language width) m.vars gs := by
    refine exists_forall₂ fun v hv => ?_
    obtain ⟨n, hn⟩ := hnamed v hv
    obtain ⟨flow, hflow⟩ : ∃ flow,
        ((m.variableScope language width v).template false v.template).result = .ok flow :=
      Scope.exists_template h hnamed (h.templates v hv)
    obtain ⟨qs, hqs⟩ : ∃ qs, List.Forall₂
        (fun x q => (m.variableScope language width v).param
          ((m.variableScope language width v).template false v.template).uses x = .ok q)
        v.arguments qs :=
      Scope.exists_params h (h.received v hv).2
    exact ⟨⟨n, v.name, .auxiliary, qs, flow, _⟩, hn, rfl, rfl, hflow, hqs, rfl⟩
  obtain ⟨f, hf⟩ := hf
  obtain ⟨gs, hgs⟩ := hgs
  exact ⟨(f, gs), lower_eq_ok.2 ⟨hf, hgs⟩⟩

end Message

namespace Localization

variable {l : Localization} {width : IntegerWidth}

theorem WellFormed.functionsNamed (h : l.WellFormed width) {m : Message} (hm : m ∈ l.messages) :
    m.FunctionsNamed := fun _ hv =>
  exists_auxiliaryName (namedApart_empty.2 h.functions) hm hv

/-- Nothing can go wrong in lowering what is well formed. -/
theorem exists_lower (h : l.WellFormed width) : ∃ p, (l.lower width).result = .ok p := by
  obtain ⟨fs, hfs⟩ : ∃ fs, List.Forall₂
      (fun m f => (m.lower l.language width).result = .ok f) l.messages fs := by
    refine exists_forall₂ fun m hm => ?_
    exact Message.exists_lower (h.messages m hm) (h.methods.exists_name hm) (h.functionsNamed hm)
  have hresults := partitionResults_of_forall₂
    (List.forall₂_map_left_iff.2 (List.forall₂_map_left_iff.2 hfs))
  unfold lower
  simp only [Traced.result_bind, Traced.result_liftM, hresults, ok_bind]
  exact ⟨_, rfl⟩

end Localization

/-! ## Functions are found by their names -/

/-- A call made for a variable of a message finds the function of that variable. -/
def Plan.Serves (p : Plan) (m : Message) (language : String) (width : IntegerWidth) : Prop :=
  ∀ {name v function}, m.variableNamed? name = some v →
    auxiliaryName m.name name = .ok function →
    ∃ f, p.auxiliaryNamed? function = some f ∧ m.IsVariableFunction language width v f

namespace Localization

variable {l : Localization} {width : IntegerWidth} {p : Plan}

/-- No two functions of variables have the same name, whichever messages they belong to. -/
theorem nodup_auxiliaryNames (hl : l.WellFormed width) (hp : (l.lower width).result = .ok p) :
    (p.auxiliaries.map (·.name)).Nodup := by
  obtain ⟨-, fs, -, hauxiliaries, hfs⟩ := lower_eq_ok hp
  refine hl.functions.nodup_of_forall₂ ?_
  rw [hauxiliaries]
  refine List.rel_flatMap hfs fun m f hf => ?_
  exact List.forall₂_map_left_iff.2 (hf.2.imp fun v g hg => hg.name)

theorem serves (hl : l.WellFormed width) (hp : (l.lower width).result = .ok p) {m : Message}
    (hm : m ∈ l.messages) : p.Serves m l.language width := by
  intro name v function hv hfunction
  obtain ⟨-, fs, -, hauxiliaries, hfs⟩ := lower_eq_ok hp
  obtain ⟨f, hf, -, hgs⟩ := exists_of_forall₂_left hfs hm
  obtain ⟨hmem, rfl⟩ := Message.mem_of_variableNamed? hv
  obtain ⟨g, hg, hvg⟩ := exists_of_forall₂_left hgs hmem
  have hname : function = g.name := by
    have h := hvg.name
    rw [hfunction] at h
    cases h
    rfl
  have hgmem : g ∈ p.auxiliaries := by
    rw [hauxiliaries]
    exact List.mem_flatMap.2 ⟨f, hf, hg⟩
  refine ⟨g, ?_, hvg⟩
  rw [hname]
  exact find?_eq_some_of_nodup (nodup_auxiliaryNames hl hp) hgmem

theorem nodup_methodNames (hl : l.WellFormed width) (hp : (l.lower width).result = .ok p) :
    (p.messages.map (·.name)).Nodup := by
  obtain ⟨-, fs, hmessages, -, hfs⟩ := lower_eq_ok hp
  refine hl.methods.nodup_of_forall₂ ?_
  rw [hmessages]
  exact List.forall₂_map_right_iff.2 (hfs.imp fun m f hf => hf.1.name)

theorem nodup_messageNames (hl : l.WellFormed width) : (l.messages.map (·.name)).Nodup :=
  hl.methods.nodup_map fun m m' h => by rw [h]

theorem exists_messageNamed? (hl : l.WellFormed width) (hp : (l.lower width).result = .ok p)
    {m : Message} (hm : m ∈ l.messages) :
    ∃ f, p.messageNamed? m.name = some f ∧ m.IsFunction l.language width f := by
  obtain ⟨-, fs, hmessages, -, hfs⟩ := lower_eq_ok hp
  obtain ⟨f, hf, hmf, -⟩ := exists_of_forall₂_left hfs hm
  have hsources : l.messages.map (·.name) = p.messages.map (·.source) := by
    rw [hmessages, List.map_map]
    exact map_eq_map_of_forall₂ hfs fun m f h => h.1.source.symm
  have hfmem : f.1 ∈ p.messages := by
    rw [hmessages]
    exact List.mem_map_of_mem hf
  refine ⟨f.1, ?_, hmf⟩
  rw [← hmf.source]
  exact find?_eq_some_of_nodup (hsources ▸ nodup_messageNames hl) hfmem

end Localization

end Phrasebook
