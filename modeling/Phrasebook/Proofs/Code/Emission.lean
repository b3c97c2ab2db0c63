import Phrasebook.Proofs.Code.Running
import Phrasebook.Proofs.Plan.Scoping

set_option autoImplicit false

/-! # From plans to code: what is written, and that it can be

The functions of a plan that comes from a well-formed localization can all be written
(`exists_method`, `exists_auxiliary`, `exists_localizer`): every name is an identifier and every
type a type. The arms of a choice take the branch that the plan selects (`find?_arms`), although the
branch for the others is left out where no number leads to it. -/

namespace Phrasebook

theorem Block.constant?_eq_some_iff {b : Block} {text : String} :
    b.constant? = some text ↔ b.mode = .constant ∧ b.ops = [.giveBack text] := by
  constructor
  · intro h
    unfold constant? at h
    split at h
    · cases h
      exact ⟨rfl, rfl⟩
    · cases h
  · obtain ⟨mode, ops⟩ := b
    rintro ⟨rfl, rfl⟩
    rfl

/-! ## The branch that is selected -/

theorem find?_filter_eq_some {α : Type} {p q : α → Bool} {as : List α} {a : α}
    (h : as.find? q = some a) (ha : p a) : (as.filter p).find? q = some a := by
  obtain ⟨hq, before, after, rfl, hbefore⟩ := List.find?_eq_some_iff_append.1 h
  rw [List.filter_append, List.find?_append, List.filter_cons_of_pos ha]
  have hnone : (before.filter p).find? q = none := by
    rw [List.find?_eq_none]
    intro b hb
    simpa using hbefore b (List.mem_of_mem_filter hb)
  rw [hnone, Option.none_or, List.find?_cons_of_pos hq]

/-- If there are branches for 0, 1 and more, one of them takes each number that is not negative. -/
theorem Plural.exists_find?_branches {p : Plural} (h : p.coversNaturals) {n : Int} (hn : 0 ≤ n) :
    ∃ b, (p.branches.find? fun b => b.1.condition.accepts n) = some b ∧ b.1 ≠ .other := by
  simp only [coversNaturals, Bool.and_eq_true, Option.isSome_iff_exists] at h
  obtain ⟨⟨⟨zero, hzero⟩, one, hone⟩, many, hmany⟩ := h
  have hbranches : ∃ rest, p.branches = (.zero, zero) :: (.one, one) :: (.many, many) :: rest := by
    simp [branches, Category.all, branch?, hzero, hone, hmany]
  obtain ⟨rest, hbranches⟩ := hbranches
  rw [hbranches]
  have hcases : n = 0 ∨ n = 1 ∨ 1 < n := by omega
  rcases hcases with rfl | rfl | hn
  · exact ⟨(.zero, zero), rfl, by simp⟩
  · exact ⟨(.one, one), rfl, by simp⟩
  · have h0 : n ≠ 0 := by omega
    have h1 : n ≠ 1 := by omega
    exact ⟨(.many, many), by simp [Category.condition, Condition.accepts, h0, h1, hn], by simp⟩

namespace Scope

variable {s : Scope} {direct : Bool} {p : Plural} {d : Dispatch} {n : Int}

/-- The branches of a plan that is made from a plural have the conditions of their categories. -/
theorem condition_of_mem (hd : (s.plural direct p).result = .ok d) {b : Branch}
    (hb : b ∈ d.branches) : b.condition = b.category.condition := by
  obtain ⟨-, -, hbranches, -⟩ := plural_eq_ok.1 hd
  obtain ⟨_, -, ⟨hcategory, hcondition⟩, -⟩ :=
    exists_of_forall₂_right (branches_eq_ok.1 hbranches) hb
  rw [hcondition, hcategory]

theorem exists_select_of_covered (hd : (s.plural direct p).result = .ok d)
    (hn : s.width.contains n) (hcovered : d.covered) :
    ∃ b, d.select n = some b ∧ b.category ≠ .other := by
  obtain ⟨-, -, hbranches, hcovers⟩ := plural_eq_ok.1 hd
  rw [branches_eq_ok] at hbranches
  rw [hcovers, Plural.coversWidth, Bool.and_eq_true] at hcovered
  obtain ⟨hunsigned, hnaturals⟩ := hcovered
  have hpositive : 0 ≤ n := by
    cases hwidth : s.width with
    | signed => simp [hwidth, IntegerWidth.isUnsigned] at hunsigned
    | unsigned =>
        rw [hwidth] at hn
        simp only [IntegerWidth.contains, Bool.and_eq_true, decide_eq_true_eq] at hn
        exact hn.1
  obtain ⟨b, hb, hother⟩ := Plural.exists_find?_branches hnaturals hpositive
  obtain ⟨branch, hbranch, ⟨hcategory, -⟩, -⟩ := exists_find?_of_forall₂
    (q := fun branch => branch.condition.accepts n) hbranches (fun b branch h => by rw [h.1.2]) hb
  exact ⟨branch, hbranch, hcategory ▸ hother⟩

/-- Leaving out branches that cannot be taken does not change which one is. -/
theorem find?_live (hd : (s.plural direct p).result = .ok d) (hn : s.width.contains n) :
    (d.live.find? fun b => b.condition.accepts n) = d.select n := by
  unfold Dispatch.live
  by_cases hunreachable : d.otherUnreachable
  · have hcovered : d.covered := by
      rw [Dispatch.otherUnreachable, Bool.and_eq_true] at hunreachable
      exact hunreachable.1
    obtain ⟨b, hb, hother⟩ := exists_select_of_covered hd hn hcovered
    rw [hb]
    refine find?_filter_eq_some hb ?_
    simp [hother]
  · simp [hunreachable, Dispatch.select]

/-- If no branch takes a number, the code needs an arm for it. -/
theorem needsFallback_of_select_eq_none (hd : (s.plural direct p).result = .ok d)
    (hn : s.width.contains n) (h : d.select n = none) : d.needsFallback := by
  have hcovered : d.covered = false := by
    by_contra hcovered
    rw [Bool.not_eq_false] at hcovered
    obtain ⟨b, hb, -⟩ := exists_select_of_covered hd hn hcovered
    rw [h] at hb
    cases hb
  have hother : d.has .other = false := by
    rw [Dispatch.has, List.any_eq_false]
    intro b hb hcategory
    have haccepts := List.find?_eq_none.1 h b hb
    rw [condition_of_mem hd hb, eq_of_beq hcategory] at haccepts
    exact haccepts rfl
  simp [Dispatch.needsFallback, hcovered, hother]

end Scope

namespace Code

/-! ## Arms -/

@[simp] theorem accepts_ofCondition (c : Condition) (n : Int) :
    (Pattern.ofCondition c).accepts n = c.accepts n := by
  cases c with
  | equals k | otherwise => rfl
  | greaterThan k =>
      have hiff : (k.toNat : Int) + 1 ≤ n ↔ (k.toNat : Int) < n := Int.add_one_le_iff
      simp [Pattern.ofCondition, Pattern.accepts, Condition.accepts, hiff]

section Arms

variable {α : Type} {d : Dispatch} {arm : Block → Except CompileError α} {fallback : α}

theorem arms_eq_ok {as : List (Pattern × α)} :
    arms d arm fallback = .ok as ↔
      ∃ taken, List.Forall₂ (fun b a => a.1 = Pattern.ofCondition b.condition ∧
        arm b.body = .ok a.2) d.live taken ∧
        as = taken ++ if d.needsFallback then [(.any, fallback)] else [] := by
  have hone : ∀ (b : Branch) (a : Pattern × α),
      (do return (Pattern.ofCondition b.condition, ← arm b.body) : Except CompileError _) = .ok a ↔
        a.1 = Pattern.ofCondition b.condition ∧ arm b.body = .ok a.2 := by
    rintro b ⟨pattern, x⟩
    rw [bind_eq_ok]
    constructor
    · rintro ⟨x', hx, heq⟩
      cases heq
      exact ⟨rfl, hx⟩
    · rintro ⟨rfl, hx⟩
      exact ⟨x, hx, rfl⟩
  unfold arms
  rw [bind_eq_ok]
  simp only [mapM_eq_ok, hone]
  constructor
  · rintro ⟨taken, htaken, heq⟩
    cases heq
    exact ⟨taken, htaken, rfl⟩
  · rintro ⟨taken, htaken, rfl⟩
    exact ⟨taken, htaken, rfl⟩

theorem exists_arms (h : ∀ b ∈ d.branches, ∃ x, arm b.body = .ok x) :
    ∃ as, arms d arm fallback = .ok as := by
  obtain ⟨taken, htaken⟩ : ∃ taken : List (Pattern × α), List.Forall₂
      (fun b a => a.1 = Pattern.ofCondition b.condition ∧ arm b.body = .ok a.2) d.live taken := by
    refine exists_forall₂ fun b hb => ?_
    obtain ⟨x, hx⟩ := h b (List.mem_of_mem_filter hb)
    exact ⟨(.ofCondition b.condition, x), rfl, hx⟩
  exact ⟨_, arms_eq_ok.2 ⟨taken, htaken, rfl⟩⟩

/-- The first arm that takes a number is that of the branch selected, or the one for the numbers
without a branch. -/
theorem find?_arms {s : Scope} {direct : Bool} {p : Plural} {n : Int}
    {as : List (Pattern × α)} (hd : (s.plural direct p).result = .ok d)
    (hn : s.width.contains n) (has : arms d arm fallback = .ok as) :
    (∃ b x, d.select n = some b ∧ b ∈ d.live ∧ arm b.body = .ok x ∧
      as.find? (fun a => a.1.accepts n) = some (.ofCondition b.condition, x)) ∨
    (d.select n = none ∧ as.find? (fun a => a.1.accepts n) = some (.any, fallback)) := by
  obtain ⟨taken, htaken, rfl⟩ := arms_eq_ok.1 has
  have hlive := Scope.find?_live hd hn
  rcases find?_of_forall₂ htaken (p := fun b => b.condition.accepts n)
      (q := fun a => a.1.accepts n) (fun b a h => by rw [h.1, accepts_ofCondition])
    with ⟨hleft, hright⟩ | ⟨b, a, hleft, hright, hpattern, harm⟩
  · -- No branch is selected, and then the last arm is there.
    rw [hlive] at hleft
    have hneeds := Scope.needsFallback_of_select_eq_none hd hn hleft
    refine .inr ⟨hleft, ?_⟩
    rw [List.find?_append, hright, if_pos hneeds]
    rfl
  · have hmem := List.mem_of_find?_eq_some hleft
    rw [hlive] at hleft
    refine .inl ⟨b, a.2, hleft, hmem, harm, ?_⟩
    rw [List.find?_append, hright, ← hpattern]
    rfl

end Arms

/-! ## Statements -/

section Statements

variable {s : Scope} {direct own : Bool} {refs : List String}

/-- The statement that appends an argument in the way of a rendering. -/
def argumentStatement (name : String) : Format.Rendering → Statement
  | .passThrough => .pushParameter name
  | .integerToText => .pushNumber name
  | .fixedFloat count => .write name (.places count)
  | .pattern spec => .write name (.spec spec)
  | .display => .write name .plain

theorem isIdentifier_of_binds {x : String} {b : Binding} (h : s.Binds x b) :
    Text.isIdentifier b.ident := by
  obtain ⟨type, hb⟩ := h
  exact (isParameterName_of_parameterName (Scope.binding_eq_ok.1 hb).2.1).identifier

theorem statement_argument {b : Binding} {type : ArgType} {r : Format.Rendering}
    (h : Text.isIdentifier b.ident) :
    statement own (.argument b type r) = .ok (argumentStatement b.ident r) := by
  rw [statement, identifier_of_isIdentifier h, ok_bind]
  cases r <;> rfl

theorem statement_call {name function : String} {bs : List Binding}
    (h : (s.call name).result = .ok (.call name function bs)) :
    statement own (.call name function bs) = .ok (.call function own (bs.map (·.ident))) := by
  obtain ⟨v, function', bs', -, hfunction, hbs, heq⟩ := Scope.call_eq_ok.1 h
  cases heq
  have hidents : (bs.mapM fun b => identifier b.ident) = .ok (bs.map (·.ident)) := by
    rw [mapM_eq_ok, List.forall₂_map_right_iff, List.forall₂_same]
    intro b hb
    obtain ⟨x, -, hx⟩ := exists_of_forall₂_right hbs hb
    exact identifier_of_isIdentifier (isIdentifier_of_binds hx)
  rw [statement, identifier_of_isIdentifier (isIdentifier_of_auxiliaryName hfunction), ok_bind,
    hidents]
  rfl

theorem exists_statement (own : Bool) {op : Op} (h : s.Planned direct refs op) :
    ∃ st, statement own op = .ok st := by
  cases op with
  | literal text => exact ⟨_, rfl⟩
  | argument b type r => exact ⟨_, statement_argument (isIdentifier_of_binds ⟨type, h.1⟩)⟩
  | call name function bs => exact ⟨_, statement_call h.2⟩
  | giveBack text => exact ⟨_, rfl⟩

theorem exists_statements (own : Bool) {block : Block}
    (h : ∀ op ∈ block.ops, s.Planned direct refs op) : ∃ ss, statements own block = .ok ss := by
  obtain ⟨ss, hss⟩ := exists_forall₂ fun op hop => exists_statement own (h op hop)
  exact ⟨ss, mapM_eq_ok.2 hss⟩

end Statements

/-! ## Parameters -/

theorem parameter_eq_ok {width : IntegerWidth} {q : Param} {x : Parameter}
    (hq : IsParameterName q.binding.ident) :
    parameter width q = .ok x ↔
      x.name = q.codeName ∧ parameterType width q.type = .ok x.type := by
  have hname : identifier (if q.used then q.binding.ident else "_" ++ q.binding.ident) =
      .ok q.codeName :=
    identifier_of_isIdentifier (isIdentifier_codeName hq)
  rw [parameter, hname, ok_bind, bind_eq_ok]
  constructor
  · rintro ⟨type, htype, heq⟩
    cases heq
    exact ⟨rfl, htype⟩
  · rintro ⟨hx, htype⟩
    refine ⟨x.type, htype, ?_⟩
    rw [← hx]
    rfl

/-- A value that suits an argument can be given to its parameter. -/
theorem takes_of_suits {width : IntegerWidth} {type : ArgType} {t : ParameterType}
    {v : Format.Value} (ht : parameterType width type = .ok t) (hv : v.suits type)
    (hfits : ∀ n, v = .integer n → width.contains n) : t.takes v := by
  cases type with
  | text =>
      cases ht
      cases v <;> first | rfl | cases hv
  | integer =>
      cases ht
      cases v with
      | integer n => exact hfits n rfl
      | text _ | float _ | display _ => cases hv
  | float =>
      cases ht
      cases v <;> first | rfl | cases hv
  | display =>
      cases ht
      rfl
  | custom path =>
      simp only [parameterType] at ht
      split at ht
      · cases ht
        rfl
      · cases ht

/-- The type of an argument is a type in the code, whatever its integers are. -/
theorem exists_parameterType {m : Message} {width : IntegerWidth} (hm : m.WellFormed width)
    {a : Argument} (ha : a ∈ m.arguments) (w : IntegerWidth) :
    ∃ type, parameterType w a.type = .ok type := by
  cases hpath : a.type with
  | text | integer | float | display => exact ⟨_, rfl⟩
  | custom path =>
      obtain ⟨type, hread⟩ := Option.isSome_iff_exists.1 (hm.types a ha path hpath)
      exact ⟨.custom type, by rw [parameterType, hread]⟩

section Functions

variable {s : Scope} {direct : Bool} {t : Template} {names : List String} {f : Function}

theorem exists_parameters (h : s.Plans direct t names f) (w : IntegerWidth) :
    ∃ xs, List.Forall₂ (fun q x => parameter w q = .ok x) f.params xs := by
  refine exists_forall₂ fun q hq => ?_
  obtain ⟨x, -, hx⟩ := exists_of_forall₂_right h.params hq
  obtain ⟨a, ha, -, -, htype, -⟩ := Scope.param_eq_ok.1 hx
  obtain ⟨type, hreadable⟩ :=
    exists_parameterType h.wellFormed (Message.mem_of_argumentNamed? ha).1 w
  rw [← htype] at hreadable
  exact ⟨⟨q.codeName, type⟩, (parameter_eq_ok (h.isParameterName hq)).2 ⟨rfl, hreadable⟩⟩

/-- The names of the parameters in the code. -/
theorem map_name_eq (h : s.Plans direct t names f) {w : IntegerWidth} {xs : List Parameter}
    (hxs : List.Forall₂ (fun q x => parameter w q = .ok x) f.params xs) :
    xs.map (·.name) = f.params.map Param.codeName := by
  have hboth := (List.forall₂_and_left _ _).2 ⟨fun q hq => h.isParameterName hq, hxs⟩
  refine (map_eq_map_of_forall₂ hboth fun q x hqx => ?_).symm
  exact ((parameter_eq_ok hqx.1).1 hqx.2).1.symm

/-! ## Functions -/

theorem identifier_driver (h : s.Plans direct t names f) {d : Dispatch}
    (hd : f.flow = .dispatch d) : identifier d.driver.ident = .ok d.driver.ident := by
  have hbinds : s.Binds d.driver.argument d.driver :=
    Scope.binds_of_mem_reads h.flow d.driver (by rw [hd]; exact List.mem_cons_self)
  exact identifier_of_isIdentifier (isIdentifier_of_binds hbinds)

theorem exists_procedure (h : s.Plans direct t names f) (own : Bool) :
    ∃ p, procedure own f.flow = .ok p := by
  have hplanned := Scope.planned_of_template h.flow
  cases hflow : f.flow with
  | sequence block =>
      obtain ⟨ss, hss⟩ := exists_statements own (hplanned block (by simp [hflow, Flow.blocks]))
      exact ⟨.statements ss, by rw [procedure, hss]; rfl⟩
  | dispatch d =>
      obtain ⟨as, has⟩ : ∃ as, arms d (statements own) [] = .ok as := by
        refine exists_arms fun b hb => exists_statements own (hplanned b.body ?_)
        rw [hflow]
        exact List.mem_map_of_mem hb
      refine ⟨.choice d.driver.ident as, ?_⟩
      rw [procedure, identifier_driver h hflow, ok_bind, has]
      rfl

theorem exists_constantBody (h : s.Plans direct t names f) :
    ∃ b, constantBody f.flow = .ok b := by
  cases hflow : f.flow with
  | sequence block => exact ⟨_, rfl⟩
  | dispatch d =>
      obtain ⟨as, has⟩ : ∃ as, arms d (fun b => .ok (some (b.constant?.getD ""))) none = .ok as :=
        exists_arms fun b _ => ⟨_, rfl⟩
      refine ⟨.texts d.driver.ident as, ?_⟩
      rw [constantBody, identifier_driver h hflow, ok_bind]
      exact bind_eq_ok.2 ⟨as, has, rfl⟩

theorem exists_method (h : s.Plans direct t names f) (hname : Text.isIdentifier f.name)
    (w : IntegerWidth) : ∃ m, method w f = .ok m := by
  obtain ⟨xs, hxs⟩ := exists_parameters h w
  obtain ⟨p, hp⟩ := exists_procedure h true
  obtain ⟨b, hb⟩ := exists_constantBody h
  unfold method
  rw [identifier_of_isIdentifier hname, ok_bind, mapM_eq_ok.2 hxs, ok_bind]
  split
  · exact ⟨_, by rw [hb]; rfl⟩
  · exact ⟨_, by rw [hp]; rfl⟩

theorem exists_auxiliary (h : s.Plans direct t names f) (hname : Text.isIdentifier f.name)
    (w : IntegerWidth) : ∃ a, auxiliary w f = .ok a := by
  obtain ⟨xs, hxs⟩ := exists_parameters h w
  obtain ⟨p, hp⟩ := exists_procedure h false
  unfold auxiliary
  rw [identifier_of_isIdentifier hname, ok_bind, mapM_eq_ok.2 hxs, ok_bind, hp]
  exact ⟨_, rfl⟩

theorem method_eq_ok {width : IntegerWidth} {m : MethodCode}
    (hname : Text.isIdentifier f.name) (h : method width f = .ok m) :
    m.name = f.name ∧ List.Forall₂ (fun q x => parameter width q = .ok x) f.params m.params ∧
      ((f.flow.isConstant ∧ constantBody f.flow = .ok m.body) ∨
        ∃ p, procedure true f.flow = .ok p ∧ m.body = .buffered p) := by
  unfold method at h
  rw [identifier_of_isIdentifier hname, ok_bind] at h
  obtain ⟨params, hparams, h⟩ := bind_eq_ok.1 h
  dsimp only at h
  split at h
  · next hconstant =>
      obtain ⟨body, hbody, heq⟩ := bind_eq_ok.1 h
      cases heq
      rw [Bool.and_eq_true] at hconstant
      exact ⟨rfl, mapM_eq_ok.1 hparams, .inl ⟨hconstant.2, hbody⟩⟩
  · obtain ⟨body, hbody, heq⟩ := bind_eq_ok.1 h
    cases heq
    refine ⟨rfl, mapM_eq_ok.1 hparams, .inr ?_⟩
    cases hp : procedure true f.flow with
    | error e =>
        rw [hp] at hbody
        cases hbody
    | ok p =>
        rw [hp] at hbody
        cases hbody
        exact ⟨p, rfl, rfl⟩

theorem auxiliary_eq_ok {width : IntegerWidth} {a : AuxiliaryCode}
    (hname : Text.isIdentifier f.name) (h : auxiliary width f = .ok a) :
    a.name = f.name ∧ a.buffer = (if f.flow.writes then bufferName else "_" ++ bufferName) ∧
      List.Forall₂ (fun q x => parameter width q = .ok x) f.params a.params ∧
      procedure false f.flow = .ok a.body := by
  unfold auxiliary at h
  rw [identifier_of_isIdentifier hname, ok_bind] at h
  obtain ⟨params, hparams, h⟩ := bind_eq_ok.1 h
  obtain ⟨body, hbody, heq⟩ := bind_eq_ok.1 h
  cases heq
  exact ⟨rfl, rfl, mapM_eq_ok.1 hparams, hbody⟩

end Functions

/-! ## The code of a language -/

/-- All functions of a language can be written, each under its own name, and they make up its
code. The integers of the code need not be those that the plan was made for. -/
theorem exists_localizer_with {l : Localization} {width : IntegerWidth} {p : Plan}
    {r : Registration} (hl : l.WellFormed width) (hp : (l.lower width).result = .ok p)
    (hr : typeName l.language = .ok r.type) (w : IntegerWidth) :
    ∃ code, localizer w r p = .ok code ∧
      List.Forall₂ (fun g a => auxiliary w g = .ok a ∧ a.name = g.name)
        (p.auxiliaries.filter (·.referenced)) code.auxiliaries ∧
      List.Forall₂ (fun f m => method w f = .ok m ∧ m.name = f.name)
        p.messages code.methods := by
  obtain ⟨auxiliaries, hauxiliaries⟩ : ∃ auxiliaries, List.Forall₂
      (fun g a => auxiliary w g = .ok a ∧ a.name = g.name)
      (p.auxiliaries.filter (·.referenced)) auxiliaries := by
    refine exists_forall₂ fun g hg => ?_
    obtain ⟨m, hm, v, hv, hvg⟩ :=
      Localization.exists_variable_of_mem hp (List.mem_of_mem_filter hg)
    have hname := isIdentifier_of_auxiliaryName hvg.name
    obtain ⟨a, ha⟩ := exists_auxiliary (hvg.plans (hl.messages m hm) hv) hname w
    exact ⟨a, ha, (auxiliary_eq_ok hname ha).1⟩
  obtain ⟨methods, hmethods⟩ : ∃ methods, List.Forall₂
      (fun f m => method w f = .ok m ∧ m.name = f.name) p.messages methods := by
    refine exists_forall₂ fun f hf => ?_
    obtain ⟨m, hm, hmf⟩ := Localization.exists_message_of_mem hp hf
    have hname := isIdentifier_of_methodName hmf.name
    obtain ⟨mc, hmc⟩ := exists_method (hmf.plans (hl.messages m hm)) hname w
    exact ⟨mc, hmc, (method_eq_ok hname hmc).1⟩
  refine ⟨⟨r.language, r.type, p.capabilities.imports, auxiliaries, methods⟩, ?_, hauxiliaries,
    hmethods⟩
  rw [localizer, identifier_of_isIdentifier (isIdentifier_of_typeName hr), ok_bind,
    mapM_eq_ok.2 (hauxiliaries.imp fun _ _ h => h.1), ok_bind,
    mapM_eq_ok.2 (hmethods.imp fun _ _ h => h.1)]
  rfl

theorem exists_localizer {l : Localization} {width : IntegerWidth} {p : Plan} {r : Registration}
    (hl : l.WellFormed width) (hp : (l.lower width).result = .ok p)
    (hr : typeName l.language = .ok r.type) :
    ∃ code, localizer width r p = .ok code ∧
      List.Forall₂ (fun g a => auxiliary width g = .ok a ∧ a.name = g.name)
        (p.auxiliaries.filter (·.referenced)) code.auxiliaries ∧
      List.Forall₂ (fun f m => method width f = .ok m ∧ m.name = f.name)
        p.messages code.methods :=
  exists_localizer_with hl hp hr width

end Code

end Phrasebook
