import Phrasebook.Proofs.Contract.Order
import Phrasebook.Proofs.Plan.LeftOut

set_option autoImplicit false

/-! # Dead items

Code has no dead items if every parameter whose name says so is read, every function of a variable
is called, by chains of calls that start in methods, and formatting is imported if it is used and
only then (`Code.LocalizerCode.NoDeadItems`). The code of a language is a true picture of its plan
as far as it goes (`Code.IsPicture`), but the plan has decided what is used before the branches that
no number leads to are left out. So there are no dead items exactly if those branches use nothing of
their own (`Compiled.noDeadItems_iff`); in particular, if integers may be negative, or if no plural
has a branch for the others next to three that leave it no number. Otherwise all three can go wrong
(`deadItems_folder`). -/

namespace Phrasebook

/-- The operation appends to the buffer, or has a function do so. -/
def Op.appends : Op → Bool
  | .giveBack _ => false
  | _ => true

namespace Code

/-! ## Uses in the code -/

namespace Statement

/-- The parameters that a statement reads. -/
def reads : Statement → List String
  | .pushParameter name => [name]
  | .pushNumber name => [name]
  | .write name _ => [name]
  | .call _ _ arguments => arguments
  | _ => []

/-- The function that a statement calls. -/
def callee? : Statement → Option String
  | .call function _ _ => some function
  | _ => none

/-- The statement writes through the formatting machinery. -/
def formats : Statement → Bool
  | .write _ _ => true
  | _ => false

/-- The statement appends to the buffer, or has a function do so. -/
def appends : Statement → Bool
  | .giveBack _ => false
  | _ => true

end Statement

namespace Procedure

/-- The parameter that a choice is made by. -/
def driver? : Procedure → Option String
  | .statements _ => none
  | .choice driver _ => some driver

/-- All statements, of whichever arm. -/
def body : Procedure → List Statement
  | .statements ss => ss
  | .choice _ arms => arms.flatMap (·.2)

end Procedure

namespace MethodBody

def driver? : MethodBody → Option String
  | .text _ => none
  | .texts driver _ => some driver
  | .buffered p => p.driver?

/-- All statements; a text is given back without one. -/
def body : MethodBody → List Statement
  | .buffered p => p.body
  | _ => []

end MethodBody

/-- What a method, or the function of a variable, is given and does. -/
structure FunctionCode where
  params : List Parameter
  driver? : Option String
  body : List Statement

/-- The parameters that are read, to make a choice or by a statement. -/
def FunctionCode.reads (f : FunctionCode) : List String :=
  f.driver?.toList ++ f.body.flatMap Statement.reads

def MethodCode.function (m : MethodCode) : FunctionCode := ⟨m.params, m.body.driver?, m.body.body⟩

def AuxiliaryCode.function (a : AuxiliaryCode) : FunctionCode :=
  ⟨a.params, a.body.driver?, a.body.body⟩

namespace LocalizerCode

def functions (code : LocalizerCode) : List FunctionCode :=
  code.methods.map (·.function) ++ code.auxiliaries.map (·.function)

/-- A chain of calls leads from a method to the function of that name. -/
inductive Reached (code : LocalizerCode) : String → Prop
  | method {m : MethodCode} {st : Statement} {g : String} (hm : m ∈ code.methods)
      (hst : st ∈ m.function.body) (hcall : st.callee? = some g) : Reached code g
  | auxiliary {a : AuxiliaryCode} {st : Statement} {g : String} (hreached : Reached code a.name)
      (ha : a ∈ code.auxiliaries) (hst : st ∈ a.function.body) (hcall : st.callee? = some g) :
      Reached code g

variable {code : LocalizerCode}

theorem method_mem_functions {m : MethodCode} (h : m ∈ code.methods) :
    m.function ∈ code.functions :=
  List.mem_append_left _ (List.mem_map_of_mem h)

theorem auxiliary_mem_functions {a : AuxiliaryCode} (h : a ∈ code.auxiliaries) :
    a.function ∈ code.functions :=
  List.mem_append_right _ (List.mem_map_of_mem h)

/-- A chain of calls ends with a call. -/
theorem Reached.exists_call {n : String} (h : code.Reached n) :
    ∃ f ∈ code.functions, ∃ st ∈ f.body, st.callee? = some n := by
  cases h with
  | method hm hst hcall => exact ⟨_, method_mem_functions hm, _, hst, hcall⟩
  | auxiliary _ ha hst hcall => exact ⟨_, auxiliary_mem_functions ha, _, hst, hcall⟩

/-- Every parameter is read whose name does not start with an underscore, the buffer among them;
every function of a variable is reached; and formatting is imported exactly if there is any. -/
structure NoDeadItems (code : LocalizerCode) : Prop where
  params : ∀ f ∈ code.functions, ∀ x ∈ f.params, x.name.toList.head? ≠ some '_' → x.name ∈ f.reads
  buffers : ∀ a ∈ code.auxiliaries, a.buffer.toList.head? ≠ some '_' →
    ∃ st ∈ a.function.body, st.appends
  reached : ∀ a ∈ code.auxiliaries, code.Reached a.name
  imports : formatImport ∈ code.imports ↔ ∃ f ∈ code.functions, ∃ st ∈ f.body, st.formats

end LocalizerCode

/-! ## The code is a picture of the plan -/

/-- A statement uses what the operation does. -/
structure Mirrors (op : Op) (st : Statement) : Prop where
  reads : st.reads = op.reads.map (·.ident)
  callee : st.callee? = op.callee?
  formats : st.formats = op.formats
  appends : st.appends = op.appends

/-- A function is written with its parameters, its driver and all operations that are kept, except
that a text may be given back without a statement. -/
structure IsWritten (f : Function) (w : FunctionCode) : Prop where
  params : List.Forall₂ (fun (q : Param) (x : Parameter) => x.name = q.codeName) f.params w.params
  driver : w.driver? = f.flow.driver?.map (·.ident)
  ops : ∀ st ∈ w.body, ∃ op ∈ f.flow.keptOps, Mirrors op st
  statements : ∀ op ∈ f.flow.keptOps, (∃ text, op = .giveBack text) ∨ ∃ st ∈ w.body, Mirrors op st

section Writing

variable {s : Scope} {direct own : Bool} {t : Template} {names : List String} {f : Function}

theorem mirrors_of_statement {refs : List String} {op : Op} {st : Statement}
    (h : s.Planned direct refs op) (hst : statement own op = .ok st) : Mirrors op st := by
  cases op with
  | literal text =>
      cases hst
      exact ⟨rfl, rfl, rfl, rfl⟩
  | argument b type r =>
      rw [statement_argument (isIdentifier_of_binds ⟨type, h.1⟩)] at hst
      cases hst
      cases r <;> exact ⟨rfl, rfl, rfl, rfl⟩
  | call name function bs =>
      rw [statement_call h.2] at hst
      cases hst
      exact ⟨rfl, rfl, rfl, rfl⟩
  | giveBack text =>
      cases hst
      exact ⟨rfl, rfl, rfl, rfl⟩

theorem forall₂_mirrors {refs : List String} {block : Block} {ss : List Statement}
    (h : ∀ op ∈ block.ops, s.Planned direct refs op) (hss : statements own block = .ok ss) :
    List.Forall₂ Mirrors block.ops ss := by
  refine ((List.forall₂_and_left _ _).2 ⟨h, mapM_eq_ok.1 hss⟩).imp fun op st hop => ?_
  exact mirrors_of_statement hop.1 hop.2

/-- A procedure has a statement for each operation that is kept. -/
theorem forall₂_of_procedure (hf : s.Plans direct t names f) {p : Procedure}
    (h : procedure own f.flow = .ok p) :
    p.driver? = f.flow.driver?.map (·.ident) ∧ List.Forall₂ Mirrors f.flow.keptOps p.body := by
  have hplanned := Scope.planned_of_template hf.flow
  cases hflow : f.flow with
  | sequence block =>
      rw [hflow] at h
      obtain ⟨ss, hss, heq⟩ := bind_eq_ok.1 h
      cases heq
      exact ⟨rfl, forall₂_mirrors (hplanned block (by simp [hflow, Flow.blocks])) hss⟩
  | dispatch d =>
      rw [hflow, procedure, identifier_driver hf hflow, ok_bind] at h
      obtain ⟨as, has, heq⟩ := bind_eq_ok.1 h
      cases heq
      obtain ⟨taken, htaken, rfl⟩ := arms_eq_ok.1 has
      refine ⟨rfl, ?_⟩
      -- the arm for numbers without a branch is empty
      have hbody : (Procedure.choice d.driver.ident
          (taken ++ if d.needsFallback then [(.any, [])] else [])).body = taken.flatMap (·.2) := by
        rw [Procedure.body, List.flatMap_append]
        split_ifs <;> simp
      have hlive := (List.forall₂_and_left _ _).2 ⟨fun b hb => hb, htaken⟩
      rw [hbody]
      refine List.rel_flatMap hlive fun b arm hb => ?_
      refine forall₂_mirrors (hplanned b.body ?_) hb.2.2
      rw [hflow]
      exact List.mem_map_of_mem (List.mem_of_mem_filter hb.1)

theorem exists_giveBack_of_isConstant {flow : Flow} (h : flow.isConstant) :
    ∀ op ∈ flow.keptOps, ∃ text, op = .giveBack text := by
  have hblock : ∀ block : Block, block.constant?.isSome → ∀ op ∈ block.ops,
      ∃ text, op = .giveBack text := by
    intro block hsome op hop
    obtain ⟨text, htext⟩ := Option.isSome_iff_exists.1 hsome
    rw [(Block.constant?_eq_some_iff.1 htext).2] at hop
    exact ⟨text, List.mem_singleton.1 hop⟩
  cases flow with
  | sequence block => exact hblock block h
  | dispatch d =>
      intro op hop
      obtain ⟨b, hb, hop⟩ := List.mem_flatMap.1 hop
      exact hblock b.body (List.all_eq_true.1 h b (List.mem_of_mem_filter hb)) op hop

theorem driver?_of_constantBody (hf : s.Plans direct t names f) {b : MethodBody}
    (h : constantBody f.flow = .ok b) :
    b.driver? = f.flow.driver?.map (·.ident) ∧ b.body = [] := by
  cases hflow : f.flow with
  | sequence block =>
      rw [hflow] at h
      cases h
      exact ⟨rfl, rfl⟩
  | dispatch d =>
      rw [hflow, constantBody, identifier_driver hf hflow, ok_bind] at h
      obtain ⟨as, -, heq⟩ := bind_eq_ok.1 h
      cases heq
      exact ⟨rfl, rfl⟩

theorem forall₂_codeName (hf : s.Plans direct t names f) {w : IntegerWidth} {xs : List Parameter}
    (hxs : List.Forall₂ (fun q x => parameter w q = .ok x) f.params xs) :
    List.Forall₂ (fun (q : Param) (x : Parameter) => x.name = q.codeName) f.params xs := by
  refine ((List.forall₂_and_left _ _).2 ⟨fun q hq => hf.isParameterName hq, hxs⟩).imp ?_
  rintro q x ⟨hq, hx⟩
  exact ((parameter_eq_ok hq).1 hx).1

theorem isWritten_of_mirrors {w : FunctionCode}
    (hparams : List.Forall₂ (fun (q : Param) (x : Parameter) => x.name = q.codeName)
      f.params w.params)
    (hdriver : w.driver? = f.flow.driver?.map (·.ident))
    (h : List.Forall₂ Mirrors f.flow.keptOps w.body) : IsWritten f w where
  params := hparams
  driver := hdriver
  ops _ hst := exists_of_forall₂_right h hst
  statements _ hop := .inr (exists_of_forall₂_left h hop)

theorem isWritten_of_method (hf : s.Plans direct t names f) (hname : Text.isIdentifier f.name)
    {w : IntegerWidth} {m : MethodCode} (h : method w f = .ok m) : IsWritten f m.function := by
  obtain ⟨-, hparams, hbody⟩ := method_eq_ok hname h
  have hnames := forall₂_codeName hf hparams
  rcases hbody with ⟨hconstant, hbody⟩ | ⟨p, hp, hbody⟩
  · obtain ⟨hdriver, hnone⟩ := driver?_of_constantBody hf hbody
    refine ⟨hnames, hdriver, fun st hst => ?_, fun op hop => ?_⟩
    · rw [show m.function.body = [] from hnone] at hst
      cases hst
    · exact .inl (exists_giveBack_of_isConstant hconstant op hop)
  · obtain ⟨hdriver, hmirrors⟩ := forall₂_of_procedure hf hp
    refine isWritten_of_mirrors hnames ?_ ?_
    · rw [MethodCode.function, hbody]
      exact hdriver
    · rw [MethodCode.function, hbody]
      exact hmirrors

theorem isWritten_of_auxiliary (hf : s.Plans direct t names f) (hname : Text.isIdentifier f.name)
    {w : IntegerWidth} {a : AuxiliaryCode} (h : auxiliary w f = .ok a) :
    IsWritten f a.function := by
  obtain ⟨-, -, hparams, hbody⟩ := auxiliary_eq_ok hname h
  obtain ⟨hdriver, hmirrors⟩ := forall₂_of_procedure hf hbody
  exact isWritten_of_mirrors (forall₂_codeName hf hparams) hdriver hmirrors

end Writing

namespace IsWritten

variable {f : Function} {w : FunctionCode} (h : IsWritten f w)

include h

/-- What can be told from an operation as well as from its statement is there in the code if it is
in the operations that are kept, unless it is a text that is given back. -/
theorem exists_statement_iff {P : Op → Prop} {Q : Statement → Prop}
    (hsame : ∀ op st, Mirrors op st → (Q st ↔ P op)) (htext : ∀ text, ¬ P (.giveBack text)) :
    (∃ st ∈ w.body, Q st) ↔ ∃ op ∈ f.flow.keptOps, P op := by
  constructor
  · rintro ⟨st, hst, hq⟩
    obtain ⟨op, hop, hmirrors⟩ := h.ops st hst
    exact ⟨op, hop, (hsame op st hmirrors).1 hq⟩
  · rintro ⟨op, hop, hp⟩
    rcases h.statements op hop with ⟨text, rfl⟩ | ⟨st, hst, hmirrors⟩
    · exact absurd hp (htext text)
    · exact ⟨st, hst, (hsame op st hmirrors).2 hp⟩

theorem mem_reads_iff {n : String} :
    n ∈ w.reads ↔ ∃ b ∈ f.flow.keptReads, b.ident = n := by
  have hstatements : (∃ st ∈ w.body, n ∈ st.reads) ↔
      ∃ op ∈ f.flow.keptOps, ∃ b ∈ op.reads, b.ident = n := by
    refine h.exists_statement_iff (fun op st hmirrors => ?_) fun text => ?_
    · rw [hmirrors.reads, List.mem_map]
    · simp [Op.reads]
  simp only [FunctionCode.reads, Flow.keptReads, List.mem_append, List.mem_flatMap, h.driver,
    hstatements]
  constructor
  · rintro (hn | ⟨op, hop, b, hb, rfl⟩)
    · obtain ⟨b, hb, rfl⟩ := Option.map_eq_some_iff.1 (Option.mem_toList.1 hn)
      exact ⟨b, .inl (Option.mem_toList.2 hb), rfl⟩
    · exact ⟨b, .inr ⟨op, hop, hb⟩, rfl⟩
  · rintro ⟨b, hb | ⟨op, hop, hb⟩, rfl⟩
    · left
      rw [Option.mem_toList] at hb
      simp [hb]
    · exact .inr ⟨op, hop, b, hb, rfl⟩

theorem exists_callee_iff {g : String} :
    (∃ st ∈ w.body, st.callee? = some g) ↔ ∃ op ∈ f.flow.keptOps, op.callee? = some g := by
  refine h.exists_statement_iff (fun op st hmirrors => ?_) fun text => ?_
  · rw [hmirrors.callee]
  · simp [Op.callee?]

theorem exists_formats_iff :
    (∃ st ∈ w.body, st.formats) ↔ ∃ op ∈ f.flow.keptOps, op.formats := by
  refine h.exists_statement_iff (fun op st hmirrors => ?_) fun text => ?_
  · rw [hmirrors.formats]
  · simp [Op.formats]

/-- Parameters are read in the code that say so if nothing is read in branches that are left out
and nowhere else. -/
theorem params_read_iff {s : Scope} {direct : Bool} {t : Template} {names : List String}
    (hf : s.Plans direct t names f) :
    (∀ x ∈ w.params, x.name.toList.head? ≠ some '_' → x.name ∈ w.reads) ↔
      ∀ op ∈ f.flow.leftOutOps, ∀ b ∈ op.reads, b ∈ f.flow.keptReads := by
  have hcodeName : ∀ q : Param, q.used = true → q.codeName = q.binding.ident := by
    intro q hused
    rw [Param.codeName, if_pos hused]
  constructor
  · intro hread op hop b hb
    -- a branch that is left out marks its parameters as used, so that no name has an underscore
    have hbreads : b ∈ f.flow.reads := Flow.mem_reads_iff.2 (.inr ⟨op, hop, hb⟩)
    obtain ⟨q, hq, rfl, hused⟩ := hf.exists_param_of_mem_reads hbreads
    obtain ⟨x, hx, hname⟩ := exists_of_forall₂_left h.params hq
    rw [hcodeName q hused] at hname
    have hplain : x.name.toList.head? ≠ some '_' := by
      rw [hname]
      exact (hf.isParameterName hq).no_underscore
    obtain ⟨b', hb', hident⟩ := h.mem_reads_iff.1 (hread x hx hplain)
    -- what the code reads under that name is the same parameter
    obtain ⟨q', hq', rfl, hused'⟩ := hf.exists_param_of_mem_reads (Flow.mem_reads_iff.2 (.inl hb'))
    have hsame : q' = q := by
      refine List.inj_on_of_nodup_map hf.nodup_codeNames hq' hq ?_
      rw [hcodeName q hused, hcodeName q' hused', hident, hname]
    rw [← hsame]
    exact hb'
  · intro hspared x hx hplain
    obtain ⟨q, hq, hname⟩ := exists_of_forall₂_right h.params hx
    -- only parameters that are not marked get an underscore
    have hused : q.used = true := by
      by_contra hunused
      rw [hname, Param.codeName, if_neg hunused, String.toList_append] at hplain
      exact hplain rfl
    have hkept : q.binding ∈ f.flow.keptReads := by
      rcases Flow.mem_reads_iff.1 ((hf.used_iff hq).1 hused) with hkept | ⟨op, hop, hb⟩
      · exact hkept
      · exact hspared op hop _ hb
    rw [hname, hcodeName q hused]
    exact h.mem_reads_iff.2 ⟨q.binding, hkept, rfl⟩

end IsWritten

/-- Code has a function for each function of the plan that is written, with a buffer that it makes
use of unless its name says otherwise. -/
structure IsPicture (p : Plan) (code : LocalizerCode) : Prop where
  methods : List.Forall₂ (fun f (m : MethodCode) => IsWritten f m.function) p.messages code.methods
  auxiliaries : List.Forall₂ (fun g (a : AuxiliaryCode) => IsWritten g a.function ∧
      a.name = g.name ∧ (a.buffer.toList.head? ≠ some '_' → ∃ st ∈ a.function.body, st.appends))
    (p.auxiliaries.filter (·.referenced)) code.auxiliaries
  imports : code.imports = p.capabilities.imports

/-- The function of a variable appends to its buffer if it is given one that it writes to. -/
theorem exists_appends {s : Scope} {t : Template} {names : List String} {f : Function}
    {w : IntegerWidth} {a : AuxiliaryCode} (hf : s.Plans false t names f)
    (hname : Text.isIdentifier f.name) (ha : auxiliary w f = .ok a)
    (hbuffer : a.buffer.toList.head? ≠ some '_') : ∃ st ∈ a.function.body, st.appends := by
  obtain ⟨-, hbuffer', -, -⟩ := auxiliary_eq_ok hname ha
  have hwrites : f.flow.writes := by
    by_contra hnot
    rw [hbuffer', if_neg hnot, String.toList_append] at hbuffer
    exact hbuffer rfl
  obtain ⟨op, hop⟩ : ∃ op, op ∈ f.flow.keptOps := by
    cases hflow : f.flow with
    | sequence block =>
        rw [hflow, Flow.writes] at hwrites
        exact List.exists_mem_of_ne_nil block.ops (by simpa using hwrites)
    | dispatch d =>
        rw [hflow, Flow.writes, List.any_eq_true] at hwrites
        obtain ⟨b, hb, hops⟩ := hwrites
        obtain ⟨op, hop⟩ := List.exists_mem_of_ne_nil b.body.ops (by simpa using hops)
        exact ⟨op, List.mem_flatMap.2 ⟨b, hb, hop⟩⟩
  -- in the function of a variable nothing is given back
  have happends : op.appends := by
    cases op with
    | giveBack text =>
        obtain ⟨block, hblock, hop⟩ := Flow.exists_block_iff.2 (.inl hop)
        have hdirect : false = true := Scope.planned_of_template hf.flow block hblock _ hop
        cases hdirect
    | literal _ | argument _ _ _ | call _ _ _ => rfl
  have hwritten := isWritten_of_auxiliary hf hname ha
  rcases hwritten.statements op hop with ⟨text, rfl⟩ | ⟨st, hst, hmirrors⟩
  · cases happends
  · exact ⟨st, hst, by rw [hmirrors.appends, happends]⟩

/-- The code of a language can be written, and is a picture of its plan. -/
theorem exists_isPicture {l : Localization} {width : IntegerWidth} {p : Plan} {r : Registration}
    (hl : l.WellFormed width) (hp : (l.lower width).result = .ok p)
    (hr : typeName l.language = .ok r.type) (w : IntegerWidth) :
    ∃ code, localizer w r p = .ok code ∧ IsPicture p code := by
  obtain ⟨code, hcode, hauxiliaries, hmethods⟩ := exists_localizer_with hl hp hr w
  refine ⟨code, hcode, ?_, ?_, ?_⟩
  · refine ((List.forall₂_and_left _ _).2 ⟨fun f hf => hf, hmethods⟩).imp ?_
    rintro f mc ⟨hf, hmc, -⟩
    obtain ⟨m, hm, hmf⟩ := Localization.exists_message_of_mem hp hf
    have hidentifier := isIdentifier_of_methodName hmf.name
    exact isWritten_of_method (hmf.plans (hl.messages m hm)) hidentifier hmc
  · refine ((List.forall₂_and_left _ _).2 ⟨fun g hg => hg, hauxiliaries⟩).imp ?_
    rintro g a ⟨hg, ha, hname⟩
    obtain ⟨m, hm, v, hv, hvg⟩ :=
      Localization.exists_variable_of_mem hp (List.mem_of_mem_filter hg)
    have hplans := hvg.plans (hl.messages m hm) hv
    have hidentifier := isIdentifier_of_auxiliaryName hvg.name
    exact ⟨isWritten_of_auxiliary hplans hidentifier ha, hname,
      exists_appends hplans hidentifier ha⟩
  · obtain ⟨type, -, h⟩ := bind_eq_ok.1 hcode
    obtain ⟨auxiliaries, -, h⟩ := bind_eq_ok.1 h
    obtain ⟨methods, -, heq⟩ := bind_eq_ok.1 h
    cases heq
    rfl

namespace IsPicture

variable {p : Plan} {code : LocalizerCode} (h : IsPicture p code)

include h

theorem exists_function {f : Function} (hf : f ∈ p.written) :
    ∃ w ∈ code.functions, IsWritten f w := by
  rcases List.mem_append.1 hf with hf | hf
  · obtain ⟨m, hm, hwritten⟩ := exists_of_forall₂_left h.methods hf
    exact ⟨_, LocalizerCode.method_mem_functions hm, hwritten⟩
  · obtain ⟨a, ha, hwritten, -⟩ := exists_of_forall₂_left h.auxiliaries hf
    exact ⟨_, LocalizerCode.auxiliary_mem_functions ha, hwritten⟩

theorem exists_plan {w : FunctionCode} (hw : w ∈ code.functions) :
    ∃ f ∈ p.written, IsWritten f w := by
  rcases List.mem_append.1 hw with hw | hw
  · obtain ⟨m, hm, rfl⟩ := List.mem_map.1 hw
    obtain ⟨f, hf, hwritten⟩ := exists_of_forall₂_right h.methods hm
    exact ⟨f, List.mem_append_left _ hf, hwritten⟩
  · obtain ⟨a, ha, rfl⟩ := List.mem_map.1 hw
    obtain ⟨g, hg, hwritten, -⟩ := exists_of_forall₂_right h.auxiliaries ha
    exact ⟨g, List.mem_append_right _ hg, hwritten⟩

/-- Chains of calls in the code are those of the plan that are kept. -/
theorem reached_iff {n : String} : code.Reached n ↔ p.Reached n := by
  constructor
  · intro hreached
    induction hreached with
    | method hm hst hcall =>
        obtain ⟨f, hf, hwritten⟩ := exists_of_forall₂_right h.methods hm
        obtain ⟨op, hop, hcall⟩ := hwritten.exists_callee_iff.1 ⟨_, hst, hcall⟩
        exact .message hf hop hcall
    | auxiliary _ ha hst hcall ih =>
        obtain ⟨g, hg, hwritten, hname, -⟩ := exists_of_forall₂_right h.auxiliaries ha
        obtain ⟨op, hop, hcall⟩ := hwritten.exists_callee_iff.1 ⟨_, hst, hcall⟩
        exact .auxiliary (hname ▸ ih) hg hop hcall
  · intro hreached
    induction hreached with
    | message hf hop hcall =>
        obtain ⟨m, hm, hwritten⟩ := exists_of_forall₂_left h.methods hf
        obtain ⟨st, hst, hcall⟩ := hwritten.exists_callee_iff.2 ⟨_, hop, hcall⟩
        exact .method hm hst hcall
    | auxiliary _ hg hop hcall ih =>
        obtain ⟨a, ha, hwritten, hname, -⟩ := exists_of_forall₂_left h.auxiliaries hg
        obtain ⟨st, hst, hcall⟩ := hwritten.exists_callee_iff.2 ⟨_, hop, hcall⟩
        exact .auxiliary (hname.symm ▸ ih) ha hst hcall

theorem exists_formats_iff :
    (∃ w ∈ code.functions, ∃ st ∈ w.body, st.formats) ↔
      ∃ f ∈ p.written, ∃ op ∈ f.flow.keptOps, op.formats := by
  constructor
  · rintro ⟨w, hw, hformats⟩
    obtain ⟨f, hf, hwritten⟩ := h.exists_plan hw
    exact ⟨f, hf, hwritten.exists_formats_iff.1 hformats⟩
  · rintro ⟨f, hf, hformats⟩
    obtain ⟨w, hw, hwritten⟩ := h.exists_function hf
    exact ⟨w, hw, hwritten.exists_formats_iff.2 hformats⟩

/-- There are no dead items if branches that are left out use nothing of their own. -/
theorem noDeadItems_of_spared {l : Localization} {width : IntegerWidth} (hl : l.WellFormed width)
    (hp : (l.lower width).result = .ok p) (hspared : p.Spared) : code.NoDeadItems where
  params w hw := by
    obtain ⟨f, hf, hwritten⟩ := h.exists_plan hw
    obtain ⟨s, direct, t, names, hplans⟩ := Localization.exists_plans hl hp hf
    exact (hwritten.params_read_iff hplans).2 (hspared.reads f hf)
  buffers a ha := by
    obtain ⟨g, -, -, -, happends⟩ := exists_of_forall₂_right h.auxiliaries ha
    exact happends
  reached a ha := by
    obtain ⟨g, hg, -, hname, -⟩ := exists_of_forall₂_right h.auxiliaries ha
    obtain ⟨hmem, hreferenced⟩ := List.mem_filter.1 hg
    rw [h.reached_iff, hname]
    exact Localization.reached_of_calls hl hp hspared.calls hmem hreferenced
  imports := by
    rw [h.imports, Localization.mem_imports_iff hp, h.exists_formats_iff]
    constructor
    · rintro ⟨f, hf, op, hop | hop, hformats⟩
      · exact ⟨f, hf, op, hop, hformats⟩
      · exact hspared.formats f hf op hop hformats
    · rintro ⟨f, hf, op, hop, hformats⟩
      exact ⟨f, hf, op, .inl hop, hformats⟩

theorem spared_of_noDeadItems {l : Localization} {width : IntegerWidth} (hl : l.WellFormed width)
    (hp : (l.lower width).result = .ok p) (halive : code.NoDeadItems) : p.Spared where
  reads f hf := by
    obtain ⟨w, hw, hwritten⟩ := h.exists_function hf
    obtain ⟨s, direct, t, names, hplans⟩ := Localization.exists_plans hl hp hf
    exact (hwritten.params_read_iff hplans).1 (halive.params w hw)
  calls f hf op hop n hcall := by
    -- what is called in a branch that is left out is written all the same
    obtain ⟨g, hg, hreferenced, rfl⟩ :=
      Localization.exists_written_of_callee hl hp hf (.inr hop) hcall
    obtain ⟨a, ha, -, hname, -⟩ :=
      exists_of_forall₂_left h.auxiliaries (List.mem_filter.2 ⟨hg, hreferenced⟩)
    rw [← h.reached_iff, ← hname]
    exact halive.reached a ha
  formats f hf op hop hformats := by
    have himported : formatImport ∈ code.imports := by
      rw [h.imports, Localization.mem_imports_iff hp]
      exact ⟨f, hf, op, .inr hop, hformats⟩
    exact h.exists_formats_iff.1 (halive.imports.1 himported)

end IsPicture

end Code

/-- The code of every language can be written. It has no dead items if and only if whatever is used
in branches that are left out is used elsewhere as well, and no such branch is there if integers are
signed, or if no plural has a branch for the others that no number leads to. -/
theorem Compiled.noDeadItems_iff {s : Settings} {ls : List Localization} {c : Compiled}
    (hc : (compile s ls).result = .ok c) :
    ∀ e ∈ c.entries, ∃ code, Code.localizer s.integer e.1 e.2 = .ok code ∧
      (code.NoDeadItems ↔ e.2.Spared) ∧
      ((s.integer = .signed ∨
          ∀ l ∈ ls, ∀ m ∈ l.messages, ∀ t ∈ m.templates, t.hasIdleBranch = false) →
        code.NoDeadItems) := by
  intro e he
  obtain ⟨l, hl, hwell, hentry⟩ := exists_localization_of_mem hc he
  obtain ⟨code, hcode, hpicture⟩ :=
    Code.exists_isPicture hwell hentry.plan hentry.typeName s.integer
  refine ⟨code, hcode, ⟨?_, ?_⟩, fun hidle => ?_⟩
  · exact hpicture.spared_of_noDeadItems hwell hentry.plan
  · exact hpicture.noDeadItems_of_spared hwell hentry.plan
  · refine hpicture.noDeadItems_of_spared hwell hentry.plan ?_
    exact Localization.spared_of_noIdleBranch hentry.plan (hidle.imp_right fun h => h l hl)

theorem noDeadItems_letters : ∃ c, (compile {} lettersTwice).result = .ok c ∧
    c.entries.length = 2 ∧
    ∀ e ∈ c.entries, ∃ code, Code.localizer .signed e.1 e.2 = .ok code ∧ code.NoDeadItems := by
  obtain ⟨c, hc, -⟩ := exists_compiled_lettersTwice
  refine ⟨c, hc, (Compiled.forall₂_isEntry hc).length_eq.symm, fun e he => ?_⟩
  obtain ⟨code, hcode, -, halive⟩ := Compiled.noDeadItems_iff hc e he
  exact ⟨code, hcode, halive (.inl rfl)⟩

/-! ## A branch for nothing -/

/-- How many files there are: 0, 1 or more, and a branch for any other number, which alone names
the owner and the place. -/
def folder : Message :=
  { name := "files"
    arguments := [⟨"count", .integer⟩, ⟨"owner", .display⟩]
    template := .plural
      { argument := "count"
        zero := some [.literal "no files"]
        one := some [.literal "one file"]
        many := some [.argument "count" none, .literal " files"]
        other := some [.argument "owner" none, .var "place"] }
    vars := [{ name := "place", template := .plain [.literal " at home"] }] }

def folders : Localization := { language := "en", messages := [folder] }

theorem folder_wellFormed : folder.WellFormed .unsigned where
  parameters := ⟨["count", "owner"],
    .cons (by decide +kernel) (.cons (by decide +kernel) .nil), by decide⟩
  types := by simp [folder]
  received := by simp [folder]
  template := by
    refine ⟨List.cons_ne_nil _ _, ?_, .inl rfl, ?_⟩
    · exact ⟨⟨"count", .integer⟩, rfl, by simp [Visible], rfl⟩
    · simp [Plural.branches, Category.all, Plural.branch?, Message.BodyOk, Message.PartOk, folder,
        Message.argumentNamed?, Message.variableNamed?, Visible, Format.Rendering.resolve]
  templates := by simp [folder, Message.TemplateOk, Message.BodyOk, Message.PartOk]
  acyclic := by
    refine Message.acyclic_of_varRefs_eq_nil fun v hv => ?_
    rw [List.mem_singleton.1 hv]
    rfl

theorem validate_folders : validate .unsigned [folders] = [] := by
  refine validate_eq_nil_iff.2 ⟨⟨["en"], .cons (by decide +kernel) .nil, by decide⟩, fun l hl => ?_⟩
  rw [List.mem_singleton.1 hl]
  refine ⟨⟨"en", by decide +kernel⟩, ⟨"EnLocalizer", by decide +kernel⟩, ?_, ?_, fun m hm => ?_⟩
  · exact ⟨["files"], .cons (by decide +kernel) .nil, by decide⟩
  · exact ⟨["files_place"], .cons (by decide +kernel) .nil, by decide⟩
  · exact List.mem_singleton.1 hm ▸ folder_wellFormed

/-- What is left of the code: nothing calls the function of the place, and nothing is formatted. -/
theorem code_folders {p : Plan} {code : Code.LocalizerCode}
    (hp : (folders.lower .unsigned).result = .ok p)
    (hcode : Code.localizer .unsigned ⟨"en", "en", "EnLocalizer"⟩ p = .ok code) :
    code.imports = [formatImport] ∧ code.auxiliaries.map (·.name) = ["files_place"] ∧
      code.functions.map (fun f => (f.params.map (·.name), f.reads)) =
        [(["count", "owner"], ["count", "count"]), ([], [])] ∧
      (code.functions.flatMap (·.body)).all fun st => st.callee?.isNone && !st.formats := by
  have hreferenced : folder.referenced = ["place"] := by
    show folder.reach [] ["place"] = ["place"]
    rw [Message.reach_of_named List.not_mem_nil rfl]
    show Message.reach _ ["place"] [] = ["place"]
    rw [Message.reach]
  have hvars : folder.vars = [{ name := "place", template := .plain [.literal " at home"] }] := rfl
  have hall : (((folders.lower .unsigned).result.toOption.bind fun p =>
      (Code.localizer .unsigned ⟨"en", "en", "EnLocalizer"⟩ p).toOption).all fun code =>
        decide (code.imports = [formatImport] ∧ code.auxiliaries.map (·.name) = ["files_place"] ∧
          code.functions.map (fun f => (f.params.map (·.name), f.reads)) =
            [(["count", "owner"], ["count", "count"]), ([], [])] ∧
          (code.functions.flatMap (·.body)).all fun st =>
            st.callee?.isNone && !st.formats)) = true := by
    simp only [Localization.lower, folders, List.map, Message.lower]
    rw [hvars]
    simp only [Message.variableFunctions, hreferenced]
    decide +kernel
  simpa [hp, hcode, Except.toOption] using hall

/-- The owner is a parameter that is not read, the function of the place is written and never
reached, and formatting is imported for nothing. -/
theorem deadItems_folder : ∃ c, (compile { integer := .unsigned } [folders]).result = .ok c ∧
    ∃ e ∈ c.entries, ∃ code, Code.localizer .unsigned e.1 e.2 = .ok code ∧
      (∃ f ∈ code.functions, ∃ x ∈ f.params, x.name = "owner" ∧ x.name ∉ f.reads) ∧
      (∃ a ∈ code.auxiliaries, ¬ code.Reached a.name) ∧
      (formatImport ∈ code.imports ∧ ¬ ∃ f ∈ code.functions, ∃ st ∈ f.body, st.formats) ∧
      ¬ code.NoDeadItems := by
  obtain ⟨c, hc⟩ : ∃ c, (compile { integer := .unsigned } [folders]).result = .ok c := by
    refine exists_compile_eq_ok_iff.2
      ⟨List.cons_ne_nil _ _, validate_folders, fun l hl l' hl' => ?_⟩
    rw [List.mem_singleton.1 hl, List.mem_singleton.1 hl']
  obtain ⟨⟨r, p⟩, he, hentry⟩ :=
    exists_of_forall₂_left (Compiled.forall₂_isEntry hc) List.mem_cons_self
  have hr : r = ⟨"en", "en", "EnLocalizer"⟩ := by
    refine Except.ok.inj (hentry.registration.symm.trans (Contract.register_eq_ok.2 ?_))
    exact ⟨rfl, by decide +kernel, by decide +kernel⟩
  have hwell := (validate_eq_nil_iff.1 validate_folders).2 folders List.mem_cons_self
  obtain ⟨code, hcode, -⟩ :=
    Code.exists_isPicture hwell hentry.plan hentry.typeName .unsigned
  obtain ⟨himports, hnames, hfunctions, hbodies⟩ := code_folders hentry.plan (hr ▸ hcode)
  have hbody : ∀ f ∈ code.functions, ∀ st ∈ f.body, st.callee? = none ∧ st.formats = false := by
    intro f hf st hst
    simpa using List.all_eq_true.1 hbodies st (List.mem_flatMap.2 ⟨f, hf, hst⟩)
  have howner : ∃ f ∈ code.functions, ∃ x ∈ f.params, x.name = "owner" ∧ x.name ∉ f.reads := by
    have hf : (["count", "owner"], ["count", "count"]) ∈
        code.functions.map fun f => (f.params.map (·.name), f.reads) := by
      rw [hfunctions]
      exact List.mem_cons_self
    obtain ⟨f, hf, heq⟩ := List.mem_map.1 hf
    obtain ⟨hparams, hreads⟩ := Prod.mk.inj heq
    have hx : "owner" ∈ f.params.map (·.name) := by simp [hparams]
    obtain ⟨x, hx, hname⟩ := List.mem_map.1 hx
    exact ⟨f, hf, x, hx, hname, by simp [hreads, hname]⟩
  have hplace : ∃ a ∈ code.auxiliaries, ¬ code.Reached a.name := by
    have ha : "files_place" ∈ code.auxiliaries.map (·.name) := by simp [hnames]
    obtain ⟨a, ha, -⟩ := List.mem_map.1 ha
    refine ⟨a, ha, fun hreached => ?_⟩
    obtain ⟨f, hf, st, hst, hcall⟩ := hreached.exists_call
    cases hcall.symm.trans (hbody f hf st hst).1
  refine ⟨c, hc, (r, p), he, code, hcode, howner, hplace, ⟨?_, ?_⟩, fun halive => ?_⟩
  · rw [himports]
    exact List.mem_cons_self
  · rintro ⟨f, hf, st, hst, hformats⟩
    cases hformats.symm.trans (hbody f hf st hst).2
  · obtain ⟨a, ha, hdead⟩ := hplace
    exact hdead (halive.reached a ha)

end Phrasebook
