import Phrasebook.Proofs.Compilation
import Phrasebook.Proofs.Message.Meaning
import Phrasebook.Proofs.Plan.Evaluation

set_option autoImplicit false

/-! # Carrying out a plan gives what the message means

Lowering leaves out empty literals, joins neighbouring ones, turns literal bodies into texts that
are given back and variables into calls by a name that is made up. None of this shows: if a message
can be evaluated, the text is the one that its templates mean (`Compiled.evaluate_iff_means`).

The proof follows the evaluation. `runOps_means` and `runFlow_means` say it of operations and flows,
provided that calls do what they should; `call_means` provides this, by induction on the depth of
calls; it rests on `Plan.Serves`: a call finds the function of the variable it is made for, since
the names of functions are different in the whole localization. -/

namespace Phrasebook

open Format (Value)

namespace Plan

/-! ## Values -/

/-- Values are among those that were supplied, and their integers fit. -/
structure Given (width : IntegerWidth) (args values : Values) : Prop where
  supplied : ∀ {x v}, values.lookup x = some v → args.lookup x = some v
  fits : ∀ {x n}, values.lookup x = some (.integer n) → width.contains n

theorem given_of_forall_mem {width : IntegerWidth} {args values : Values}
    (h : ∀ e ∈ values, args.lookup e.1 = some e.2 ∧
      ∀ n, e.2 = .integer n → width.contains n) : Given width args values where
  supplied hx := (h _ (mem_of_lookup hx)).1
  fits hx := (h _ (mem_of_lookup hx)).2 _ rfl

theorem given_of_passed {message : String} {width : IntegerWidth} {args values passed : Values}
    {bs : List Binding} (hgiven : Given width args values)
    (h : Plan.passed message values bs = .ok passed) : Given width args passed := by
  refine given_of_forall_mem fun e he => ?_
  obtain ⟨b, -, hname, hvalue⟩ := exists_of_forall₂_right (passed_eq_ok.1 h) he
  rw [hname]
  refine ⟨hgiven.supplied hvalue, fun n hn => ?_⟩
  rw [hn] at hvalue
  exact hgiven.fits hvalue

theorem given_of_bind {width : IntegerWidth} {f : Function} {args values : Values}
    (h : Plan.bind width f args = .ok values) : Given width args values := by
  refine given_of_forall_mem fun e he => ?_
  obtain ⟨q, -, hq⟩ := exists_of_forall₂_right (forall₂_of_bind h) he
  obtain ⟨-, hlookup, -, hfits⟩ := of_supplied_eq_ok hq
  exact ⟨hlookup, hfits⟩

/-! ## Operations and flows -/

section Running

variable {message : String} {call : Caller} {values : Values} {room : Nat}

/-- It makes no difference whether two texts are written at once or one by one. -/
theorem write_append (a b : String) (next : Nat → Attempt EvalError Outcome) :
    write room (a ++ b) next = write room a fun room => write room b next := by
  have hsize : (a ++ b).utf8ByteSize = a.utf8ByteSize + b.utf8ByteSize :=
    String.utf8ByteSize_append
  unfold write
  by_cases ha : a.utf8ByteSize ≤ room
  · by_cases hb : b.utf8ByteSize ≤ room - a.utf8ByteSize
    · have hboth : (a ++ b).utf8ByteSize ≤ room := by omega
      have hrest : room - (a ++ b).utf8ByteSize = room - a.utf8ByteSize - b.utf8ByteSize := by omega
      simp only [if_pos hboth, if_pos ha, if_pos hb, hrest]
      cases next (room - a.utf8ByteSize - b.utf8ByteSize) with
      | ok o => simp [Outcome.after, String.append_assoc]
      | error e | overflow => rfl
    · have hboth : ¬ (a ++ b).utf8ByteSize ≤ room := by omega
      simp only [if_neg hboth, if_pos ha, if_neg hb, Attempt.overflow_bind]
  · have hboth : ¬ (a ++ b).utf8ByteSize ≤ room := by omega
    rw [if_neg hboth, if_neg ha]

theorem runOps_joined (op : Op) (ops : List Op) :
    runOps message call values room (Scope.joined op ops) =
      runOps message call values room (op :: ops) := by
  unfold Scope.joined
  split
  · simp only [runOps, write_append]
  · rfl

variable {s : Scope} {args : Values}

/-- Calls give what the variables mean that they are made for. -/
def CallsMean (m : Message) (args values : Values) (call : Caller) : Prop :=
  ∀ {room name v function bs text}, m.variableNamed? name = some v →
    auxiliaryName m.name name = .ok function → call room function values bs = .ok text →
    ∃ b, v.template.bodyFor? args = some b ∧ m.BodyMeans args b text

theorem runOps_means (hcalls : CallsMean s.message args values call)
    (hgiven : Given s.width args values) {ps : List Part} {ops : List Op} {o : Outcome}
    (hops : (s.parts ps).result = .ok ops) (hrun : runOps message call values room ops = .ok o) :
    o.returned = none ∧ s.message.BodyMeans args ps o.written := by
  induction ps generalizing ops o room with
  | nil =>
      cases hops
      cases hrun
      exact ⟨rfl, .nil⟩
  | cons p ps ih =>
      obtain ⟨op, rest, hop, hrest, rfl⟩ := Scope.parts_cons_eq_ok.1 hops
      cases p with
      | literal text =>
          rw [Scope.part_literal] at hop
          by_cases hempty : text.isEmpty
          · rw [if_pos hempty] at hop
            cases hop
            obtain ⟨hreturned, hmeans⟩ := ih hrest hrun
            rw [String.isEmpty_iff] at hempty
            subst hempty
            have hliteral : s.message.BodyMeans args (.literal "" :: ps) ("" ++ o.written) :=
              .literal hmeans
            rw [String.empty_append] at hliteral
            exact ⟨hreturned, hliteral⟩
          · rw [if_neg hempty] at hop
            cases hop
            rw [Scope.joinedOption, runOps_joined, runOps_literal_eq_ok] at hrun
            obtain ⟨-, o', hrun, rfl⟩ := hrun
            obtain ⟨hreturned, hmeans⟩ := ih hrest hrun
            exact ⟨hreturned, hmeans.literal⟩
      | argument name directive =>
          obtain ⟨b, type, r, hb, hr, rfl⟩ := Scope.part_argument_eq_ok.1 hop
          obtain ⟨⟨a, ha, -, rfl⟩, -, hname⟩ := Scope.binding_eq_ok.1 hb
          rw [Scope.joinedOption, runOps_joined, runOps_argument_eq_ok, hname] at hrun
          obtain ⟨v, hv, text, htext, -, o', hrun, rfl⟩ := hrun
          obtain ⟨hreturned, hmeans⟩ := ih hrest hrun
          exact ⟨hreturned, .argument ha hr (hgiven.supplied hv) htext hmeans⟩
      | var name =>
          obtain ⟨op, hcall, rfl⟩ := Scope.part_var_eq_ok.1 hop
          obtain ⟨v, function, bs, hv, hfunction, -, rfl⟩ := Scope.call_eq_ok.1 hcall
          rw [Scope.joinedOption, runOps_joined, runOps_call_eq_ok] at hrun
          obtain ⟨text, htext, -, o', hrun, rfl⟩ := hrun
          obtain ⟨b, hb, hbody⟩ := hcalls hv hfunction htext
          obtain ⟨hreturned, hmeans⟩ := ih hrest hrun
          exact ⟨hreturned, .var hv hb hbody hmeans⟩

/-- A text is given back only where it may be, and then it is the whole text. -/
theorem runBody_means (hcalls : CallsMean s.message args values call)
    (hgiven : Given s.width args values) {direct : Bool} {b : Body} {block : Block} {o : Outcome}
    (hblock : (s.body direct b).result = .ok block)
    (hrun : runOps message call values room block.ops = .ok o) :
    (direct = false → o.returned = none) ∧ s.message.BodyMeans args b o.messageText := by
  by_cases hconstant : direct ∧ b.isConstant
  · obtain ⟨rfl, hconstant⟩ := hconstant
    rw [Scope.body_eq_ok_of_constant hconstant] at hblock
    subst hblock
    cases hrun
    exact ⟨nofun, Message.bodyMeans_literalText hconstant⟩
  · obtain ⟨ops, hops, rfl⟩ := (Scope.body_eq_ok_of_accumulate hconstant).1 hblock
    obtain ⟨hreturned, hmeans⟩ := runOps_means hcalls hgiven hops hrun
    refine ⟨fun _ => hreturned, ?_⟩
    rw [Outcome.messageText, hreturned]
    exact hmeans

/-- The branch that is taken is the one that the plural means. -/
theorem select_means {direct : Bool} {p : Plural} {d : Dispatch} {n : Int}
    (hd : (s.plural direct p).result = .ok d) :
    (d.select n = none ∧ p.bodyFor? n = none) ∨ ∃ branch b, d.select n = some branch ∧
      p.bodyFor? n = some b ∧ (s.body direct b).result = .ok branch.body := by
  obtain ⟨-, -, hbranches, -⟩ := Scope.plural_eq_ok.1 hd
  rw [Scope.branches_eq_ok] at hbranches
  rw [← Plural.find?_branches, Dispatch.select]
  rcases find?_of_forall₂ hbranches (p := fun b => b.1.condition.accepts n)
      (q := fun branch => branch.condition.accepts n) (fun b branch h => by rw [h.1.2])
    with ⟨hleft, hright⟩ | ⟨b, branch, hleft, hright, -, hbody⟩
  · exact .inl ⟨hright, by rw [hleft]; rfl⟩
  · exact .inr ⟨branch, b.2, hright, by rw [hleft]; rfl, hbody⟩

theorem runFlow_means (hcalls : CallsMean s.message args values call)
    (hgiven : Given s.width args values) {direct : Bool} {t : Template} {flow : Flow} {o : Outcome}
    (ht : s.message.TemplateOk s.width s.visible t)
    (hflow : (s.template direct t).result = .ok flow)
    (hrun : runFlow message call values room flow = .ok o) :
    (direct = false → o.returned = none) ∧
      ∃ b, t.bodyFor? args = some b ∧ s.message.BodyMeans args b o.messageText := by
  cases t with
  | unset => exact ht.elim
  | plain b =>
      obtain ⟨block, hblock, rfl⟩ := Scope.template_plain_eq_ok.1 hflow
      obtain ⟨hreturned, hmeans⟩ := runBody_means hcalls hgiven hblock hrun
      exact ⟨hreturned, b, rfl, hmeans⟩
  | plural p =>
      obtain ⟨d, hd, rfl⟩ := Scope.template_plural_eq_ok.1 hflow
      obtain ⟨-, hdriver, -⟩ := Scope.plural_eq_ok.1 hd
      obtain ⟨-, -, hname⟩ := Scope.binding_eq_ok.1 hdriver
      obtain ⟨n, hn, hrun⟩ := runFlow_dispatch_eq_ok.1 hrun
      rw [hname] at hn
      have hbody : (Template.plural p).bodyFor? args = p.bodyFor? n := by
        simp only [Template.bodyFor?, hgiven.supplied hn]
      rw [hbody]
      rcases select_means hd (n := n) with ⟨-, hnone⟩ | ⟨branch, b, hselect, hb, hblock⟩
      · have hsome := Plural.isSome_bodyFor? ht (hgiven.fits hn)
        rw [hnone] at hsome
        cases hsome
      · simp only [hselect] at hrun
        obtain ⟨hreturned, hmeans⟩ := runBody_means hcalls hgiven hblock hrun
        exact ⟨hreturned, b, hb, hmeans⟩

end Running

/-! ## Calls -/

/-- Calls give what variables mean, however deep they nest. -/
theorem call_means {p : Plan} {m : Message} {language message : String} {width : IntegerWidth}
    {args : Values} (hm : m.WellFormed width) (hserves : p.Serves m language width)
    (depth : Nat) : ∀ {values}, Given width args values →
      CallsMean m args values (p.call message depth) := by
  induction depth with
  | zero =>
      intro values _ room name v function bs text _ _ h
      cases h
  | succ depth ih =>
      intro values hgiven room name v function bs text hv hfunction h
      obtain ⟨f, passed, o, hf, hpassed, ho, rfl⟩ := call_eq_ok.1 h
      obtain ⟨f', hf', hvf⟩ := hserves hv hfunction
      rw [hf] at hf'
      cases hf'
      have hpassed := given_of_passed hgiven hpassed
      have hv := hm.templates v (Message.mem_of_variableNamed? hv).1
      obtain ⟨hreturned, b, hb, hmeans⟩ :=
        runFlow_means (s := m.variableScope language width v) (ih hpassed) hpassed hv hvf.flow ho
      refine ⟨b, hb, ?_⟩
      -- Nothing is given back, so the text of the call is all that was written.
      have htext : o.callText = o.messageText := by
        simp [Outcome.callText, Outcome.messageText, hreturned rfl]
      rw [htext]
      exact hmeans

theorem evaluate_means {p : Plan} {l : Localization} {width : IntegerWidth} {m : Message}
    {args : Values} {text : String} (hl : l.WellFormed width)
    (hp : (l.lower width).result = .ok p) (hm : m ∈ l.messages)
    (h : p.evaluate width m.name args = .ok text) : m.Means args text := by
  obtain ⟨f, values, o, hf, hvalues, ho, rfl, -⟩ := evaluate_eq_ok.1 h
  obtain ⟨f', hf', hmf⟩ := Localization.exists_messageNamed? hl hp hm
  rw [hf] at hf'
  cases hf'
  have hwell := hl.messages m hm
  have hgiven := given_of_bind hvalues
  have hcalls : CallsMean m args values (p.call m.name maxDepth) :=
    call_means hwell (Localization.serves hl hp hm) maxDepth hgiven
  obtain ⟨-, b, hb, hmeans⟩ :=
    runFlow_means (s := m.scope l.language width) hcalls hgiven hwell.template hmf.flow ho
  exact ⟨b, hb, hmeans⟩

end Plan

/-- Whatever can be evaluated gives the text that the message means, and no other. -/
theorem Compiled.evaluate_iff_means {s : Settings} {ls : List Localization} {c : Compiled}
    (hc : (compile s ls).result = .ok c) :
    c.languages = ls.map (·.language) ∧
      ∀ l ∈ ls, ∀ m ∈ l.messages, ∀ args text, c.evaluate l.language m.name args = .ok text →
        ∀ t, m.Means args t ↔ t = text := by
  refine ⟨languages_eq hc, fun l hl m hm args text htext t => ?_⟩
  obtain ⟨⟨-, hvalid⟩, hsettings, -, -⟩ := compile_eq_ok.1 hc
  obtain ⟨p, hplan, hp⟩ := exists_planOf? hc hl
  rw [evaluate, hplan, hsettings] at htext
  have hmeans := Plan.evaluate_means ((validate_eq_nil_iff.1 hvalid).2 l hl) hp hm htext
  constructor
  · intro ht
    exact ht.unique hmeans
  · rintro rfl
    exact hmeans

theorem evaluate_iff_means_letters : ∃ c, (compile {} lettersTwice).result = .ok c ∧
    c.evaluate "de" "inbox" threeForAnn = .ok "Ann: 3 Briefe" ∧
    ∀ t, (inbox "ein Brief" " Briefe").Means threeForAnn t ↔ t = "Ann: 3 Briefe" := by
  obtain ⟨c, hc, htext⟩ := exists_compiled_lettersTwice
  refine ⟨c, hc, htext, ?_⟩
  exact (Compiled.evaluate_iff_means hc).2 (letters "de" "ein Brief" " Briefe")
    (List.mem_cons_of_mem _ List.mem_cons_self) _ List.mem_cons_self _ _ htext

end Phrasebook
