import Phrasebook.Proofs.Contract.Conformance
import Phrasebook.Proofs.Message.Fitting
import Phrasebook.Proofs.Plan.Overflow
import Phrasebook.Proofs.Plan.Scoping
import Phrasebook.Proofs.Text.Word

set_option autoImplicit false

/-! # Evaluation comes to an end

With values for all arguments what is read is there, what is called is found, and what chooses a
branch is an integer. Two things can go wrong. Calls nest too deep, if some chain of variables, each
referred to by the branch that is taken of the one before, is longer than `maxDepth`. Or the
evaluation breaks off, if the message does not fit (`Message.Fits`). Both can be told from the
templates, and in all other cases there is a text (`Compiled.evaluate_of_takes`).

The same is said of every piece of a plan, with the calls that it has left and the variables that it
refers to (`Message.Finishes`): pieces one after the other (`Finishes.bind`), a call
(`Finishes.call`), and by induction on the calls that are left all functions of variables
(`call_finishes`). -/

namespace Phrasebook

open Format (Value maxTextSize)

/-! ## Chains of variables -/

/-- The variables that a template refers to under values for its arguments. -/
def Template.refsFor (args : Values) (t : Template) : List String :=
  match t.bodyFor? args with
  | some b => b.varRefs
  | none => []

namespace Message

/-- Variables that are followed from one to the next, the first of them from `refs`. -/
inductive Chain (m : Message) (args : Values) : List String → List String → Prop
  | nil {refs} : Chain m args refs []
  | cons {refs name v names} (hname : name ∈ refs) (hv : m.variableNamed? name = some v)
      (hrest : Chain m args (v.template.refsFor args) names) : Chain m args refs (name :: names)

/-- How a computation ends that refers to the variables `refs` and may nest `depth` calls: with a
value only if no chain of variables is longer, with an error only at the function of a variable with
which one gets too long; or it breaks off. -/
inductive Finishes {α : Type} (m : Message) (args : Values) (depth : Nat) (refs : List String) :
    Attempt EvalError α → Prop
  | ok (a : α) (hshort : ∀ names, m.Chain args refs names → names.length ≤ depth) :
      Finishes m args depth refs (.ok a)
  | error {names last function} (hchain : m.Chain args refs (names ++ [last]))
      (hdepth : names.length = depth) (hlast : auxiliaryName m.name last = .ok function) :
      Finishes m args depth refs (.error (.recursionLimit function))
  | overflow : Finishes m args depth refs .overflow

variable {m : Message} {args : Values} {depth : Nat} {refs refs' : List String} {α β : Type}

theorem Chain.mono {names : List String} (h : m.Chain args refs names) (hsub : refs ⊆ refs') :
    m.Chain args refs' names := by
  cases h with
  | nil => exact .nil
  | cons hname hv hrest => exact .cons (hsub hname) hv hrest

theorem chain_nil_iff {names : List String} : m.Chain args [] names ↔ names = [] := by
  constructor
  · rintro (_ | ⟨hname, -, -⟩)
    · rfl
    · cases hname
  · rintro rfl
    exact .nil

theorem chain_append {names : List String} (h : m.Chain args (refs ++ refs') names) :
    m.Chain args refs names ∨ m.Chain args refs' names := by
  cases h with
  | nil => exact .inl .nil
  | cons hname hv hrest =>
      rcases List.mem_append.1 hname with hname | hname
      · exact .inl (.cons hname hv hrest)
      · exact .inr (.cons hname hv hrest)

namespace Finishes

theorem pure (a : α) : m.Finishes args depth [] (.ok a) := by
  refine .ok a fun names hnames => ?_
  rw [chain_nil_iff.1 hnames]
  exact Nat.zero_le _

/-- One computation after the other. -/
theorem bind {r : Attempt EvalError α} {f : α → Attempt EvalError β}
    (hr : m.Finishes args depth refs r) (hf : ∀ a, m.Finishes args depth refs' (f a)) :
    m.Finishes args depth (refs ++ refs') (r >>= f) := by
  -- A chain starts in one of the two, and whichever fails has a chain that is too long.
  cases hr with
  | ok a hshort =>
      have hb := hf a
      rw [Attempt.ok_bind]
      generalize f a = r at hb
      cases hb with
      | ok b hshort' =>
          refine .ok b fun names hnames => ?_
          rcases chain_append hnames with hnames | hnames
          · exact hshort names hnames
          · exact hshort' names hnames
      | error hchain hdepth hlast =>
          exact .error (hchain.mono (List.subset_append_right _ _)) hdepth hlast
      | overflow => exact .overflow
  | error hchain hdepth hlast =>
      exact .error (hchain.mono (List.subset_append_left _ _)) hdepth hlast
  | overflow => exact .overflow

theorem map {r : Attempt EvalError α} (hr : m.Finishes args depth refs r) (f : α → β) :
    m.Finishes args depth refs (do return f (← r)) := by
  have h := hr.bind fun a => pure (f a)
  rwa [List.append_nil] at h

theorem write {room : Nat} {text : String} {next : Nat → Attempt EvalError Outcome}
    (hnext : ∀ room, m.Finishes args depth refs (next room)) :
    m.Finishes args depth refs (Plan.write room text next) := by
  unfold Plan.write
  split
  · exact (hnext _).map _
  · exact .overflow

/-- There is no room for a call. -/
theorem recursionLimit {name function : String} {v : Variable}
    (hv : m.variableNamed? name = some v) (hfunction : auxiliaryName m.name name = .ok function) :
    m.Finishes args 0 [name] (.error (.recursionLimit function) : Attempt EvalError α) := by
  have hchain : m.Chain args [name] ([] ++ [name]) := .cons List.mem_cons_self hv .nil
  exact .error hchain rfl hfunction

/-- A call takes the room of one. -/
theorem call {name : String} {v : Variable} {r : Attempt EvalError α}
    (hv : m.variableNamed? name = some v)
    (hr : m.Finishes args depth (v.template.refsFor args) r) :
    m.Finishes args (depth + 1) [name] r := by
  -- The chains from the variable are those from its template, with the variable in front.
  cases hr with
  | ok a hshort =>
      refine .ok a fun names hnames => ?_
      cases hnames with
      | nil => exact Nat.zero_le _
      | cons hname hv' hrest =>
          rw [List.mem_singleton.1 hname, hv] at hv'
          cases hv'
          exact Nat.succ_le_succ (hshort _ hrest)
  | @error names _ _ hchain hdepth hlast =>
      have hchain' : m.Chain args [name] (name :: names ++ [_]) :=
        .cons List.mem_cons_self hv hchain
      exact .error hchain' (by rw [List.length_cons, hdepth]) hlast
  | overflow => exact .overflow

end Finishes

end Message

namespace Plan

/-! ## What is there -/

/-- Everything that a template sees has the value that was supplied for it, and it suits. -/
structure Sees (s : Scope) (args values : Values) : Prop where
  value : ∀ {x a}, s.message.argumentNamed? x = some a → Visible s.visible x →
    ∃ v, values.lookup x = some v ∧ args.lookup x = some v ∧ v.suits a.type

/-- Pairs that are among others, under the names that are asked for. -/
theorem lookup_eq_of_forall_mem {values passed : Values}
    (h : ∀ e ∈ passed, values.lookup e.1 = some e.2) {x : String} (hx : x ∈ passed.map (·.1)) :
    passed.lookup x = values.lookup x := by
  obtain ⟨e, he, rfl⟩ := List.mem_map.1 hx
  have hsome : (passed.lookup e.1).isSome := by
    rw [List.lookup_isSome_iff]
    exact ⟨e, he, by simp⟩
  obtain ⟨v, hv⟩ := Option.isSome_iff_exists.1 hsome
  rw [hv, h _ (mem_of_lookup hv)]

theorem passed_eq_ok_of_binds {s : Scope} (message : String) {args values : Values}
    {names : List String} {bs : List Binding} (hsees : Sees s args values)
    (hbs : List.Forall₂ s.Binds names bs) :
    ∃ passed, Plan.passed message values bs = .ok passed ∧
      ∀ x ∈ names, passed.lookup x = values.lookup x := by
  obtain ⟨passed, hpassed⟩ : ∃ passed : Values, List.Forall₂
      (fun b e => e.1 = b.argument ∧ values.lookup b.argument = some e.2) bs passed := by
    refine exists_forall₂ fun b hb => ?_
    obtain ⟨x, -, type, hx⟩ := exists_of_forall₂_right hbs hb
    obtain ⟨⟨a, ha, hseen, -⟩, -, rfl⟩ := Scope.binding_eq_ok.1 hx
    obtain ⟨v, hv, -⟩ := hsees.value ha hseen
    exact ⟨(b.argument, v), rfl, hv⟩
  have hnames : passed.map (·.1) = names := by
    rw [← Scope.arguments_of_binds hbs]
    exact (map_eq_map_of_forall₂ hpassed fun b e he => he.1.symm).symm
  refine ⟨passed, passed_eq_ok.2 hpassed, fun x hx => ?_⟩
  refine lookup_eq_of_forall_mem (fun e he => ?_) (hnames ▸ hx)
  obtain ⟨b, -, hname, hvalue⟩ := exists_of_forall₂_right hpassed he
  rw [hname]
  exact hvalue

/-! ## Operations and flows -/

section Running

variable {message : String} {call : Caller} {s : Scope} {args values : Values} {depth room : Nat}

/-- Calls of the functions of variables end, with no more than `depth` of them inside each other. -/
def CallsFinish (s : Scope) (args values : Values) (depth : Nat) (call : Caller) : Prop :=
  ∀ {room name v function bs}, s.message.variableNamed? name = some v →
    auxiliaryName s.message.name name = .ok function → List.Forall₂ s.Binds v.arguments bs →
    s.message.Finishes args depth [name] (call room function values bs)

theorem runOps_finishes (hcalls : CallsFinish s args values depth call)
    (hsees : Sees s args values) {ps : List Part} {ops : List Op}
    (hops : (s.parts ps).result = .ok ops) :
    s.message.Finishes args depth (Body.varRefs ps) (runOps message call values room ops) := by
  -- Along the parts: only a variable refers to anything, and only its call can fail.
  induction ps generalizing ops room with
  | nil =>
      cases hops
      exact .pure _
  | cons p ps ih =>
      obtain ⟨op, rest, hop, hrest, rfl⟩ := Scope.parts_cons_eq_ok.1 hops
      cases p with
      | literal text =>
          rw [Scope.part_literal] at hop
          by_cases hempty : text.isEmpty
          · rw [if_pos hempty] at hop
            cases hop
            exact ih hrest
          · rw [if_neg hempty] at hop
            cases hop
            rw [Scope.joinedOption, runOps_joined, runOps]
            exact .write fun _ => ih hrest
      | argument name directive =>
          obtain ⟨b, type, r, hb, -, rfl⟩ := Scope.part_argument_eq_ok.1 hop
          obtain ⟨⟨a, ha, hseen, -⟩, -, rfl⟩ := Scope.binding_eq_ok.1 hb
          obtain ⟨v, hv, -⟩ := hsees.value ha hseen
          rw [Scope.joinedOption, runOps_joined, runOps, value_eq_ok.2 hv, Attempt.liftM_ok,
            Attempt.ok_bind]
          cases r.render? v with
          | none => exact .overflow
          | some text => exact .write fun _ => ih hrest
      | var name =>
          obtain ⟨op, hcall, rfl⟩ := Scope.part_var_eq_ok.1 hop
          obtain ⟨v, function, bs, hv, hfunction, hbs, rfl⟩ := Scope.call_eq_ok.1 hcall
          rw [Scope.joinedOption, runOps_joined, runOps]
          exact (hcalls hv hfunction hbs).bind fun text => .write fun _ => ih hrest

theorem runBody_finishes (hcalls : CallsFinish s args values depth call)
    (hsees : Sees s args values) {direct : Bool} {b : Body} {block : Block}
    (hblock : (s.body direct b).result = .ok block) :
    s.message.Finishes args depth b.varRefs (runOps message call values room block.ops) := by
  by_cases hconstant : direct ∧ b.isConstant
  · obtain ⟨rfl, hconstant⟩ := hconstant
    rw [Scope.body_eq_ok_of_constant hconstant] at hblock
    subst hblock
    rw [Body.varRefs_of_isConstant hconstant]
    exact .pure _
  · obtain ⟨ops, hops, rfl⟩ := (Scope.body_eq_ok_of_accumulate hconstant).1 hblock
    exact runOps_finishes hcalls hsees hops

theorem runFlow_finishes (hcalls : CallsFinish s args values depth call)
    (hsees : Sees s args values) {direct : Bool} {t : Template} {flow : Flow}
    (hflow : (s.template direct t).result = .ok flow) :
    s.message.Finishes args depth (t.refsFor args) (runFlow message call values room flow) := by
  cases t with
  | unset => cases hflow
  | plain b =>
      obtain ⟨block, hblock, rfl⟩ := Scope.template_plain_eq_ok.1 hflow
      exact runBody_finishes hcalls hsees hblock
  | plural p =>
      obtain ⟨d, hd, rfl⟩ := Scope.template_plural_eq_ok.1 hflow
      obtain ⟨-, hdriver, -⟩ := Scope.plural_eq_ok.1 hd
      obtain ⟨⟨a, ha, hseen, htype⟩, -, hname⟩ := Scope.binding_eq_ok.1 hdriver
      obtain ⟨v, hv, hsupplied, hsuits⟩ := hsees.value ha hseen
      -- The value that chooses the branch is an integer, as its argument is declared to be.
      obtain ⟨n, rfl⟩ : ∃ n, v = .integer n := by
        rw [htype] at hsuits
        cases v with
        | integer n => exact ⟨n, rfl⟩
        | text _ | float _ | display _ => cases hsuits
      have hbody : (Template.plural p).bodyFor? args = p.bodyFor? n := by
        simp only [Template.bodyFor?, hsupplied]
      rw [← hname] at hv
      rw [Template.refsFor, hbody, runFlow, value_eq_ok.2 hv]
      rcases select_means hd (n := n) with ⟨hnone, hb⟩ | ⟨branch, b, hselect, hb, hblock⟩
      · simp only [Attempt.liftM_ok, Attempt.ok_bind, hnone, hb]
        exact .pure _
      · simp only [Attempt.liftM_ok, Attempt.ok_bind, hselect, hb]
        exact runBody_finishes hcalls hsees hblock

end Running

/-! ## Calls -/

/-- The functions of variables end, however many calls are left. -/
theorem call_finishes {p : Plan} {m : Message} {language message : String} {width : IntegerWidth}
    {args : Values} (hserves : p.Serves m language width) (depth : Nat) :
    ∀ {s : Scope} {values}, s.message = m → Sees s args values →
      CallsFinish s args values depth (p.call message depth) := by
  induction depth with
  | zero =>
      intro s values _ _ room name v function bs hv hfunction _
      exact .recursionLimit hv hfunction
  | succ depth ih =>
      rintro s values rfl hsees room name v function bs hv hfunction hbs
      obtain ⟨f, hf, hvf⟩ := hserves hv hfunction
      obtain ⟨passed, hpassed, hsame⟩ := passed_eq_ok_of_binds message hsees hbs
      rw [Plan.call, hf, hpassed]
      -- What the variable receives is seen by its caller, so that the caller has a value for it.
      have hcallee : Sees (s.message.variableScope language width v) args passed := by
        refine ⟨fun {x a} ha hseen => ?_⟩
        have hx : x ∈ v.arguments := hseen v.arguments rfl
        rw [hsame x hx]
        obtain ⟨b, -, type, hb⟩ := exists_of_forall₂_left hbs hx
        obtain ⟨⟨a', ha', hseen', -⟩, -⟩ := Scope.binding_eq_ok.1 hb
        exact hsees.value ha hseen'
      have hcalls : CallsFinish (s.message.variableScope language width v) args passed depth
          (p.call message depth) := ih (s := s.message.variableScope language width v) rfl hcallee
      exact .call hv ((runFlow_finishes hcalls hcallee hvf.flow).map _)

/-! ## Messages -/

theorem supplied_eq_ok {width : IntegerWidth} {f : Function} {args : Values} {q : Param}
    {v : Value} (hv : args.lookup q.binding.argument = some v) (hsuits : v.suits q.type)
    (hfits : ∀ n, v = .integer n → width.contains n) :
    Plan.supplied width f args q = .ok (q.binding.argument, v) := by
  cases v with
  | integer n => simp [Plan.supplied, hv, hsuits, hfits n rfl]
  | text _ | float _ | display _ => simp [Plan.supplied, hv, hsuits]

section Parameters

variable {m : Message} {language : String} {width : IntegerWidth} {f : Function} {args : Values}

theorem exists_argument_of_mem_params (hf : m.IsFunction language width f) {q : Param}
    (hq : q ∈ f.params) : ∃ a ∈ m.arguments, a.name = q.binding.argument ∧ q.type = a.type := by
  obtain ⟨x, -, hx⟩ := exists_of_forall₂_right hf.params hq
  obtain ⟨a, ha, -, hname, htype, -⟩ := Scope.param_eq_ok.1 hx
  obtain ⟨hmem, hx⟩ := Message.mem_of_argumentNamed? ha
  exact ⟨a, hmem, hx.trans hname.symm, htype⟩

theorem exists_param_of_mem_arguments (hf : m.IsFunction language width f) {a : Argument}
    (ha : a ∈ m.arguments) : ∃ q ∈ f.params, q.binding.argument = a.name := by
  obtain ⟨q, hq, hx⟩ := exists_of_forall₂_left hf.params (List.mem_map_of_mem ha)
  obtain ⟨-, -, -, hargument, -⟩ := Scope.param_eq_ok.1 hx
  exact ⟨q, hq, hargument⟩

/-- Values for declared arguments are all for parameters. -/
theorem find?_unknown_eq_none (hf : m.IsFunction language width f)
    (hdeclared : ∀ e ∈ args, ∃ a ∈ m.arguments, a.name = e.1) :
    args.find? (fun e => (f.paramFor? e.1).isNone) = none := by
  rw [List.find?_eq_none]
  intro e he
  obtain ⟨a, ha, hname⟩ := hdeclared e he
  obtain ⟨q, hq, hargument⟩ := exists_param_of_mem_arguments hf ha
  have hsome : (f.paramFor? e.1).isSome := by
    rw [Function.paramFor?, List.find?_isSome]
    exact ⟨q, hq, by simp [hargument, hname]⟩
  simp [Option.isSome_iff_ne_none.1 hsome]

/-- The message sees its arguments with the values that are bound to its parameters. -/
theorem sees_of_forall₂ (hf : m.IsFunction language width f) (hargs : m.Takes width args)
    {values : Values}
    (hvalues : List.Forall₂ (fun q e => Plan.supplied width f args q = .ok e) f.params values) :
    Sees (m.scope language width) args values := by
  refine ⟨fun ha _ => ?_⟩
  obtain ⟨hmem, rfl⟩ := Message.mem_of_argumentNamed? ha
  obtain ⟨v, hv, hsuits, -⟩ := hargs.supplied _ hmem
  refine ⟨v, ?_, hv, hsuits⟩
  rw [← hv]
  refine lookup_eq_of_forall_mem (fun e he => ?_) ?_
  · obtain ⟨q, -, hq⟩ := exists_of_forall₂_right hvalues he
    exact (of_supplied_eq_ok hq).2.1
  · obtain ⟨q, hq, hargument⟩ := exists_param_of_mem_arguments hf hmem
    obtain ⟨e, he, hqe⟩ := exists_of_forall₂_left hvalues hq
    rw [← hargument, ← (of_supplied_eq_ok hqe).1]
    exact List.mem_map_of_mem he

/-- Values that a message takes are bound to its parameters. -/
theorem exists_bind (hf : m.IsFunction language width f) (hargs : m.Takes width args) :
    ∃ values, Plan.bind width f args = .ok values ∧ Sees (m.scope language width) args values := by
  obtain ⟨values, hvalues⟩ : ∃ values : Values, List.Forall₂
      (fun q e => Plan.supplied width f args q = .ok e) f.params values := by
    refine exists_forall₂ fun q hq => ?_
    obtain ⟨a, ha, hname, htype⟩ := exists_argument_of_mem_params hf hq
    obtain ⟨v, hv, hsuits, hfits⟩ := hargs.supplied a ha
    exact ⟨_, supplied_eq_ok (hname ▸ hv) (htype ▸ hsuits) hfits⟩
  refine ⟨values, ?_, sees_of_forall₂ hf hargs hvalues⟩
  rw [Plan.bind, find?_unknown_eq_none hf hargs.declared]
  exact mapM_eq_ok.2 hvalues

end Parameters

theorem evaluate_finishes {p : Plan} {l : Localization} {width : IntegerWidth} {m : Message}
    {args : Values} (hl : l.WellFormed width) (hp : (l.lower width).result = .ok p)
    (hm : m ∈ l.messages) (hargs : m.Takes width args) :
    m.Finishes args maxDepth (m.template.refsFor args) (p.evaluate width m.name args) := by
  obtain ⟨f, hf, hmf⟩ := Localization.exists_messageNamed? hl hp hm
  obtain ⟨values, hvalues, hsees⟩ := exists_bind hmf hargs
  simp only [evaluate, hf, hvalues, Attempt.liftM_ok, Attempt.ok_bind]
  have hcalls : CallsFinish (m.scope l.language width) args values maxDepth
      (p.call m.name maxDepth) := call_finishes (Localization.serves hl hp hm) maxDepth rfl hsees
  have hrun : m.Finishes args maxDepth (m.template.refsFor args)
      (runFlow m.name (p.call m.name maxDepth) values maxTextSize f.flow) :=
    runFlow_finishes (s := m.scope l.language width) hcalls hsees hmf.flow
  have hchecked : ∀ o : Outcome, m.Finishes args maxDepth []
      (if o.messageText.utf8ByteSize ≤ maxTextSize then Pure.pure o.messageText
        else .overflow) := by
    intro o
    split
    · exact .pure _
    · exact .overflow
  have h := hrun.bind hchecked
  rwa [List.append_nil] at h

end Plan

/-- With values that a message takes, it can be evaluated if and only if it follows no chain of more
than `maxDepth` variables and it fits. If calls nest too deep, then at the function of the first
variable that is one too many; an evaluation breaks off only if the message does not fit; and
nothing else ever goes wrong. -/
theorem Compiled.evaluate_of_takes {s : Settings} {ls : List Localization} {c : Compiled}
    (hc : (compile s ls).result = .ok c) :
    c.languages = ls.map (·.language) ∧
      ∀ l ∈ ls, ∀ m ∈ l.messages, ∀ args, m.Takes s.integer args →
        ((∃ text, c.evaluate l.language m.name args = .ok text) ↔
          (∀ names, m.Chain args (m.template.refsFor args) names → names.length ≤ maxDepth) ∧
            m.Fits args) ∧
        (∀ e, c.evaluate l.language m.name args = .error e →
          ∃ names last function, m.Chain args (m.template.refsFor args) (names ++ [last]) ∧
            names.length = maxDepth ∧ auxiliaryName m.name last = .ok function ∧
            e = .recursionLimit function) ∧
        (c.evaluate l.language m.name args = .overflow → ¬ m.Fits args) := by
  refine ⟨languages_eq hc, fun l hl m hm args hargs => ?_⟩
  obtain ⟨⟨-, hvalid⟩, hsettings, -, -⟩ := compile_eq_ok.1 hc
  obtain ⟨p, hplan, hp⟩ := exists_planOf? hc hl
  have hwell := (validate_eq_nil_iff.1 hvalid).2 l hl
  have hevaluate : c.evaluate l.language m.name args = p.evaluate s.integer m.name args := by
    rw [evaluate, hplan, hsettings]
  rw [hevaluate]
  have hoverflow : p.evaluate s.integer m.name args = .overflow → ¬ m.Fits args := by
    intro hover hfits
    obtain ⟨text, htext⟩ := hfits.exists_means (hwell.messages m hm) hargs
    exact Nat.not_lt.2 (hfits.size text htext) (Plan.evaluate_overflow hwell hp hm hover htext)
  have hfinishes := Plan.evaluate_finishes hwell hp hm hargs
  cases hresult : p.evaluate s.integer m.name args with
  | ok text =>
      rw [hresult] at hfinishes
      cases hfinishes with
      | ok _ hshort =>
          obtain ⟨-, -, -, -, -, -, -, hsize⟩ := Plan.evaluate_eq_ok.1 hresult
          have hfits := (Plan.evaluate_means hwell hp hm hresult).fits hsize
          simpa [hfits] using hshort
  | error e =>
      rw [hresult] at hfinishes
      cases hfinishes with
      | @error names last function hchain hdepth hlast =>
          have hlong : ¬ ∀ names, m.Chain args (m.template.refsFor args) names →
              names.length ≤ maxDepth := by
            intro hshort
            have hlong := hshort _ hchain
            rw [List.length_append, List.length_singleton] at hlong
            omega
          refine ⟨by simp [hlong], ?_, by simp⟩
          intro e he
          cases he
          exact ⟨names, last, function, hchain, hdepth, hlast, rfl⟩
  | overflow => simp [hoverflow hresult]

/-! ## An example -/

/-- The name of a step of a flight of stairs. Reserved words are shorter. -/
def stepName (k : Nat) : String := String.ofList (List.replicate (k + 9) 's')

/-- A step that leads to the next one, unless it is the last. -/
def stairStep (n k : Nat) : Variable :=
  { name := stepName k
    template := .plain (if k + 1 < n then [.var (stepName (k + 1))] else []) }

/-- Stairs of `n` steps; only the number 1 leads down. -/
def stairs (n : Nat) : Message :=
  { name := "stairs"
    arguments := [⟨"count", .integer⟩]
    template := .plural
      { argument := "count"
        one := some [.var (stepName 0)]
        other := some [] }
    vars := (List.range n).map (stairStep n) }

theorem length_stepName (k : Nat) : (stepName k).length = k + 9 := by
  simp [stepName]

theorem stepName_injective : Function.Injective stepName := by
  intro j k h
  have hlength := congrArg String.length h
  rw [length_stepName, length_stepName] at hlength
  omega

theorem auxiliaryName_stairs (k : Nat) :
    auxiliaryName "stairs" (stepName k) = .ok ("stairs_" ++ stepName k) := by
  have hsteps : ∀ c ∈ List.replicate (k + 9) 's', c = 's' := fun c hc => (List.mem_replicate.1 hc).2
  have hsnake : Text.snakeCase (stepName k) = stepName k :=
    Text.snakeCase_of_isLower (by simp) fun c hc => by rw [hsteps c hc]; rfl
  have hmessage : Text.snakeCase "stairs" = "stairs" := by decide +kernel
  have hstep : Text.isIdentifier (stepName k) := by
    have hlist : (stepName k).toList = 's' :: List.replicate (k + 8) 's' := by
      rw [stepName, String.toList_ofList, List.replicate_succ]
    refine Text.isIdentifier_of_length (Text.isWordShaped_of_toList hlist (by decide) ?_)
      (by rw [length_stepName]; omega)
    intro c hc
    rw [(List.mem_replicate.1 hc).2]
    decide
  have hfunction : Text.isIdentifier ("stairs_" ++ stepName k) := by
    have hlist : ("stairs_" ++ stepName k).toList =
        's' :: (['t', 'a', 'i', 'r', 's', '_'] ++ List.replicate (k + 9) 's') := by
      rw [String.toList_append, stepName, String.toList_ofList, String.toList_ofList]
      rfl
    refine Text.isIdentifier_of_length (Text.isWordShaped_of_toList hlist (by decide) ?_)
      (by rw [String.length_append, length_stepName]; omega)
    intro c hc
    rcases List.mem_append.1 hc with hc | hc
    · have hcheck : ['t', 'a', 'i', 'r', 's', '_'].all Text.isIdentifierContinue := by decide
      exact List.all_eq_true.1 hcheck c hc
    · rw [hsteps c hc]
      decide
  have hjoined : "stairs" ++ "_" ++ stepName k = "stairs_" ++ stepName k := rfl
  simp only [auxiliaryName, hsnake, hmessage, hjoined, checkedName, hstep, hfunction, if_true]
  rfl

theorem variableNamed?_stairs {n k : Nat} (hk : k < n) :
    (stairs n).variableNamed? (stepName k) = some (stairStep n k) := by
  have hnodup : ((stairs n).vars.map (·.name)).Nodup := by
    have hnames : (stairs n).vars.map (·.name) = (List.range n).map stepName := by
      simp [stairs, stairStep, Function.comp_def]
    rw [hnames]
    exact List.nodup_range.map stepName_injective
  exact find?_eq_some_of_nodup hnodup (List.mem_map_of_mem (List.mem_range.2 hk))

/-- A step is referred to by the one before. -/
theorem length_of_refers_stairs {n : Nat} {x y : String} (h : (stairs n).Refers x y) :
    x.length < y.length := by
  obtain ⟨v, hv, hy⟩ : ∃ v, (stairs n).variableNamed? x = some v ∧ y ∈ v.template.varRefs := by
    cases hv : (stairs n).variableNamed? x with
    | none =>
        rw [Message.Refers, Message.refsOf_of_unnamed hv] at h
        cases h
    | some v =>
        rw [Message.Refers, Message.refsOf_of_named hv] at h
        exact ⟨v, rfl, h⟩
  obtain ⟨hmem, rfl⟩ := Message.mem_of_variableNamed? hv
  obtain ⟨k, -, rfl⟩ := List.mem_map.1 hmem
  by_cases hk : k + 1 < n
  · have hnext : y = stepName (k + 1) := by
      simpa [stairStep, hk, Template.varRefs, Template.bodies, Body.varRefs, Part.var?] using hy
    rw [hnext, stairStep, length_stepName, length_stepName]
    omega
  · simp [stairStep, hk, Template.varRefs, Template.bodies, Body.varRefs] at hy

theorem stairs_wellFormed {n : Nat} (hn : 0 < n) : (stairs n).WellFormed .signed where
  parameters := ⟨["count"], .cons (by decide +kernel) .nil, by decide⟩
  types := by simp [stairs]
  received := by
    intro v hv
    obtain ⟨k, -, rfl⟩ := List.mem_map.1 hv
    simp [stairStep]
  template := by
    refine ⟨List.cons_ne_nil _ _, ⟨⟨"count", .integer⟩, rfl, by simp [Visible], rfl⟩, .inl rfl, ?_⟩
    have hfirst : (stairs n).PartOk none (.var (stepName 0)) :=
      ⟨_, variableNamed?_stairs hn, by simp [stairStep]⟩
    simpa [Plural.branches, Category.all, Plural.branch?, Message.BodyOk] using hfirst
  templates := by
    intro v hv
    obtain ⟨k, -, rfl⟩ := List.mem_map.1 hv
    by_cases hk : k + 1 < n
    · have hnext : (stairs n).PartOk (some []) (.var (stepName (k + 1))) :=
        ⟨_, variableNamed?_stairs hk, by simp [stairStep]⟩
      simpa [stairStep, hk, Message.TemplateOk, Message.BodyOk] using hnext
    · simp [stairStep, hk, Message.TemplateOk, Message.BodyOk]
  acyclic := by
    intro x hx
    have hlt : Relation.TransGen (· < ·) x.length x.length :=
      hx.lift String.length fun _ _ h => length_of_refers_stairs h
    rw [Relation.transGen_eq_self] at hlt
    exact Nat.lt_irrefl _ hlt

/-- Stairs with one step more than calls can nest. -/
def longStairs : Localization := { language := "en", messages := [stairs (maxDepth + 1)] }

theorem longStairs_wellFormed : longStairs.WellFormed .signed where
  module := ⟨"en", by decide +kernel⟩
  type := ⟨"EnLocalizer", by decide +kernel⟩
  methods := by
    have hname : methodName "stairs" = .ok "stairs" := by decide +kernel
    exact ⟨["stairs"], .cons hname .nil, by decide⟩
  functions := by
    have hplaced : placedVariables longStairs.messages =
        (List.range (maxDepth + 1)).map fun k => ("stairs", stepName k) := by
      simp [placedVariables, longStairs, stairs, stairStep, Function.comp_def]
    rw [hplaced]
    refine ⟨(List.range (maxDepth + 1)).map fun k => "stairs_" ++ stepName k, ?_, ?_⟩
    · rw [List.forall₂_map_left_iff, List.forall₂_map_right_iff, List.forall₂_same]
      exact fun k _ => auxiliaryName_stairs k
    · refine List.nodup_range.map fun j k h => stepName_injective ?_
      exact String.append_right_inj _ |>.1 h
  messages := fun m hm => List.mem_singleton.1 hm ▸ stairs_wellFormed (Nat.succ_pos _)

theorem compile_longStairs : ∃ c, (compile {} [longStairs]).result = .ok c :=
  exists_compile_singleton longStairs_wellFormed

/-- The steps are followed one by one. -/
theorem chain_stairs {n : Nat} {args : Values} (j : Nat) : ∀ {k}, k + j ≤ n →
    (stairs n).Chain args [stepName k] ((List.range' k j).map stepName) := by
  induction j with
  | zero => exact fun _ => .nil
  | succ j ih =>
      intro k hk
      refine .cons List.mem_cons_self (variableNamed?_stairs (by omega)) ?_
      by_cases hlast : k + 1 < n
      · have hnext : (stairStep n k).template.refsFor args = [stepName (k + 1)] := by
          simp [stairStep, hlast, Template.refsFor, Template.bodyFor?, Body.varRefs, Part.var?]
        rw [hnext]
        exact ih (by omega)
      · obtain rfl : j = 0 := by omega
        exact .nil

theorem stairs_takes (n : Nat) (count : Int) (h : IntegerWidth.signed.contains count) :
    (stairs n).Takes .signed [("count", .integer count)] where
  declared := by simp [stairs]
  supplied := by simpa [stairs, Value.suits] using h

/-- All steps are empty. -/
theorem bodyMeans_stairs {n : Nat} {args : Values} (j : Nat) : ∀ {k}, k + j = n → 0 < j →
    ∃ b, (stairStep n k).template.bodyFor? args = some b ∧ (stairs n).BodyMeans args b "" := by
  induction j with
  | zero => exact fun _ h => absurd h (Nat.lt_irrefl 0)
  | succ j ih =>
      intro k hk _
      refine ⟨_, rfl, ?_⟩
      by_cases hlast : k + 1 < n
      · obtain ⟨b, hb, hmeans⟩ := ih (k := k + 1) (by omega) (by omega)
        rw [if_pos hlast]
        exact .var (t := "") (variableNamed?_stairs hlast) hb hmeans .nil
      · rw [if_neg hlast]
        exact .nil

theorem stairs_fits (n : Nat) (hn : 0 < n) :
    (stairs n).Fits [("count", .integer 1)] ∧ (stairs n).Fits [("count", .integer 2)] := by
  have hsize : ("" : String).utf8ByteSize ≤ maxTextSize := Nat.zero_le _
  obtain ⟨b, hb, hmeans⟩ : ∃ b, (stairStep n 0).template.bodyFor? [("count", .integer 1)] = some b ∧
      (stairs n).BodyMeans [("count", .integer 1)] b "" := bodyMeans_stairs n (Nat.zero_add n) hn
  have hone : (stairs n).Means [("count", .integer 1)] "" :=
    ⟨_, rfl, .var (t := "") (variableNamed?_stairs hn) hb hmeans .nil⟩
  have htwo : (stairs n).Means [("count", .integer 2)] "" := ⟨_, rfl, .nil⟩
  exact ⟨hone.fits hsize, htwo.fits hsize⟩

/-- The number 1 leads down more steps than calls can nest; the number 2 leads nowhere. -/
theorem evaluate_of_takes_stairs : ∃ c, (compile {} [longStairs]).result = .ok c ∧
    (∃ function, c.evaluate "en" "stairs" [("count", .integer 1)] =
      .error (.recursionLimit function)) ∧
    ∃ text, c.evaluate "en" "stairs" [("count", .integer 2)] = .ok text := by
  obtain ⟨c, hc⟩ := compile_longStairs
  have h := (Compiled.evaluate_of_takes hc).2 longStairs List.mem_cons_self _ List.mem_cons_self
  obtain ⟨hone, htwo⟩ := stairs_fits (maxDepth + 1) (Nat.succ_pos _)
  refine ⟨c, hc, ?_, ?_⟩
  · obtain ⟨hok, herror, hoverflow⟩ := h _ (stairs_takes _ 1 (by decide))
    cases hevaluate : c.evaluate "en" "stairs" [("count", .integer 1)] with
    | ok text =>
        have hshort := (hok.1 ⟨text, hevaluate⟩).1 _
          (chain_stairs (maxDepth + 1) (k := 0) (by omega))
        rw [List.length_map, List.length_range'] at hshort
        omega
    | error e =>
        obtain ⟨_, _, function, -, -, -, rfl⟩ := herror e hevaluate
        exact ⟨function, rfl⟩
    | overflow => exact absurd hone (hoverflow hevaluate)
  · refine (h _ (stairs_takes _ 2 (by decide))).1.2 ⟨fun names hnames => ?_, htwo⟩
    rw [Message.chain_nil_iff.1 hnames]
    exact Nat.zero_le _

/-- A float with one decimal place more than there can be. -/
def ratio : Message :=
  { name := "ratio"
    arguments := [⟨"x", .float⟩]
    template := .plain [.argument "x" (some ".65536")] }

def ratios : Localization := { language := "en", messages := [ratio] }

/-- The number 0.5. -/
def oneHalf : Values := [("x", .float (.ofDecimal false 5 1 (-1)))]

theorem ratio_wellFormed : ratio.WellFormed .signed where
  parameters := ⟨["x"], .cons (by decide +kernel) .nil, List.nodup_singleton _⟩
  types := by simp [ratio]
  received := by simp [ratio]
  template := by
    have hresolve : (Format.Rendering.resolve .float (some ".65536")).toOption.isSome := by
      decide +kernel
    obtain ⟨r, hr⟩ := Option.isSome_iff_exists.1 hresolve
    refine List.forall_mem_singleton.2 ⟨⟨"x", .float⟩, rfl, by simp [Visible], r, ?_⟩
    cases h : Format.Rendering.resolve .float (some ".65536") with
    | ok r' => simpa [h, Except.toOption] using hr
    | error e => simp [h, Except.toOption] at hr
  templates := by simp [ratio]
  acyclic := Message.acyclic_of_varRefs_eq_nil (by simp [ratio])

theorem ratios_wellFormed : ratios.WellFormed .signed where
  module := ⟨"en", by decide +kernel⟩
  type := ⟨"EnLocalizer", by decide +kernel⟩
  methods := ⟨["ratio"], .cons (by decide +kernel) .nil, List.nodup_singleton _⟩
  functions := ⟨[], .nil, List.nodup_nil⟩
  messages := fun m hm => List.mem_singleton.1 hm ▸ ratio_wellFormed

/-- No call is made and the message takes its value, but the evaluation breaks off. -/
theorem evaluate_ratio : ∃ c, (compile {} [ratios]).result = .ok c ∧
    ratio.Takes .signed oneHalf ∧
    (∀ names, ratio.Chain oneHalf (ratio.template.refsFor oneHalf) names →
      names.length ≤ maxDepth) ∧
    c.evaluate "en" "ratio" oneHalf = .overflow := by
  obtain ⟨c, hc⟩ := exists_compile_singleton (s := {}) ratios_wellFormed
  refine ⟨c, hc, ⟨by simp [ratio, oneHalf], by simp [ratio, oneHalf, Value.suits]⟩,
    fun names hnames => ?_, ?_⟩
  · rw [Message.chain_nil_iff.1 hnames]
    exact Nat.zero_le _
  · obtain ⟨p, hplan, hp⟩ := Compiled.exists_planOf? hc List.mem_cons_self
    have hbroken : (ratios.lower .signed).result.toOption.map
        (·.evaluate .signed "ratio" oneHalf) = some .overflow := by
      decide +kernel
    rw [show (ratios.lower .signed).result = .ok p from hp] at hbroken
    rw [Compiled.evaluate, show c.planOf? "en" = some p from hplan,
      (compile_eq_ok.1 hc).2.1]
    simpa [Except.toOption] using hbroken

end Phrasebook
