import Phrasebook.Proofs.Code.Emission

set_option autoImplicit false

/-! # Texts and buffers

A body either is one text or appends to a buffer, and a function is simple if all its bodies are
texts. The shape of a function is decided by a look at the whole template, and the mode of a body by
a look at the body alone; the code of a method is chosen by both. They agree: lowering makes a text
of exactly the bodies of a message that are literal (`Scope.forall₂_lowersTo`), so that the simple
functions are those whose bodies are all texts, and for them the code gives these texts and nothing
that stands in for one (`Message.lower_modes`). -/

namespace Phrasebook

/-! ## Operations that append -/

def Op.isLiteral : Op → Bool
  | .literal _ => true
  | _ => false

theorem Op.exists_of_isLiteral {op : Op} (h : op.isLiteral) : ∃ text, op = .literal text := by
  cases op with
  | literal text => exact ⟨text, rfl⟩
  | argument | call | giveBack => cases h

/-- Operations that only append, with no literal that is empty or next to another one. -/
structure Appending (ops : List Op) : Prop where
  noText : ∀ text, .giveBack text ∉ ops
  nonempty : .literal "" ∉ ops
  apart : ops.IsChain fun a b => ¬(a.isLiteral ∧ b.isLiteral)

theorem appending_nil : Appending [] := ⟨by simp, by simp, .nil⟩

theorem appending_cons {op : Op} {ops : List Op} :
    Appending (op :: ops) ↔
      (∀ text, op ≠ .giveBack text) ∧ op ≠ .literal "" ∧
        (∀ next ∈ ops.head?, ¬(op.isLiteral ∧ next.isLiteral)) ∧ Appending ops := by
  constructor
  · rintro ⟨hgive, hne, hapart⟩
    rw [List.isChain_cons] at hapart
    simp only [List.mem_cons, not_or, forall_and] at hgive hne
    exact ⟨fun text => Ne.symm (hgive.1 text), Ne.symm hne.1, hapart.1, hgive.2, hne.2, hapart.2⟩
  · rintro ⟨hgive, hne, hnext, hops⟩
    refine ⟨fun text => ?_, ?_, List.isChain_cons.2 ⟨hnext, hops.apart⟩⟩
    · rw [List.mem_cons, not_or]
      exact ⟨(hgive text).symm, hops.noText text⟩
    · rw [List.mem_cons, not_or]
      exact ⟨hne.symm, hops.nonempty⟩

namespace Scope

variable {s : Scope} {direct : Bool}

/-- An operation for a part is no text to give back and appends something. -/
theorem part_appends {p : Part} {op : Op} (h : (s.part p).result = .ok (some op)) :
    (∀ text, op ≠ .giveBack text) ∧ op ≠ .literal "" := by
  cases p with
  | literal text =>
      rw [part_literal] at h
      by_cases hempty : text.isEmpty
      · simp [hempty] at h
      · simp only [hempty, Bool.false_eq_true, if_false, Except.ok.injEq, Option.some.injEq] at h
        subst h
        simpa using hempty
  | argument name directive =>
      obtain ⟨b, type, r, -, -, heq⟩ := part_argument_eq_ok.1 h
      cases heq
      simp
  | var name =>
      obtain ⟨op, hcall, heq⟩ := part_var_eq_ok.1 h
      cases heq
      obtain ⟨v, function, bs, -, -, -, rfl⟩ := call_eq_ok.1 hcall
      simp

theorem appending_joined {op : Op} {ops : List Op} (hgive : ∀ text, op ≠ .giveBack text)
    (hne : op ≠ .literal "") (h : Appending ops) : Appending (joined op ops) := by
  unfold joined
  split
  · next a b ops =>
      -- what comes after it does not see which literal it is
      obtain ⟨-, -, hnext, hops⟩ := appending_cons.1 h
      refine appending_cons.2 ⟨nofun, fun heq => ?_, hnext, hops⟩
      rw [Op.literal.injEq, String.append_eq_empty_iff] at heq
      exact hne (by rw [heq.1])
  · next hjoin =>
      refine appending_cons.2 ⟨hgive, hne, ?_, h⟩
      rintro next hnext ⟨hop, hliteral⟩
      obtain ⟨a, rfl⟩ := Op.exists_of_isLiteral hop
      obtain ⟨b, rfl⟩ := Op.exists_of_isLiteral hliteral
      obtain ⟨rest, rfl⟩ := List.head?_eq_some_iff.1 hnext
      exact hjoin a b rest rfl rfl

theorem appending_of_parts {ps : List Part} {ops : List Op} (h : (s.parts ps).result = .ok ops) :
    Appending ops := by
  induction ps generalizing ops with
  | nil =>
      cases h
      exact appending_nil
  | cons p ps ih =>
      obtain ⟨o, rest, ho, hrest, rfl⟩ := parts_cons_eq_ok.1 h
      cases o with
      | none => exact ih hrest
      | some op =>
          obtain ⟨hgive, hne⟩ := part_appends ho
          exact appending_joined hgive hne (ih hrest)

end Scope

/-! ## Modes -/

/-- The plan that a body is lowered to. If `direct` allows it, a literal body is one text. -/
structure Body.LowersTo (direct : Bool) (b : Body) (block : Block) : Prop where
  mode : block.mode = .constant ↔ direct ∧ b.isConstant
  text : block.mode = .constant → block.ops = [.giveBack b.literalText]
  appending : block.mode = .accumulate → Appending block.ops

theorem Body.isConstant_iff {b : Body} : b.isConstant ↔ ∀ p ∈ b, ∃ text, p = .literal text := by
  rw [isConstant, List.all_eq_true]
  refine forall₂_congr fun p _ => ?_
  cases p <;> simp [Part.isLiteral, Part.literal?]

theorem Body.LowersTo.isSome_constant? {direct : Bool} {b : Body} {block : Block}
    (h : b.LowersTo direct block) : block.constant?.isSome ↔ block.mode = .constant := by
  simp only [Option.isSome_iff_exists, Block.constant?_eq_some_iff]
  constructor
  · rintro ⟨-, hmode, -⟩
    exact hmode
  · exact fun hmode => ⟨_, hmode, h.text hmode⟩

namespace Scope

variable {s : Scope} {direct : Bool}

theorem lowersTo_of_body {b : Body} {block : Block} (h : (s.body direct b).result = .ok block) :
    b.LowersTo direct block := by
  by_cases hconstant : direct ∧ b.isConstant
  · obtain ⟨rfl, hconstant⟩ := hconstant
    rw [body_eq_ok_of_constant hconstant] at h
    subst h
    exact ⟨by simp [hconstant], fun _ => rfl, nofun⟩
  · obtain ⟨ops, hops, rfl⟩ := (body_eq_ok_of_accumulate hconstant).1 h
    exact ⟨by simpa using hconstant, nofun, fun _ => appending_of_parts hops⟩

/-- Each body of a template has its plan in the flow. -/
theorem forall₂_lowersTo {t : Template} {flow : Flow}
    (h : (s.template direct t).result = .ok flow) :
    List.Forall₂ (Body.LowersTo direct) t.bodies flow.blocks := by
  cases t with
  | unset => cases h
  | plain b =>
      obtain ⟨block, hblock, rfl⟩ := template_plain_eq_ok.1 h
      exact .cons (lowersTo_of_body hblock) .nil
  | plural p =>
      obtain ⟨d, hd, rfl⟩ := template_plural_eq_ok.1 h
      obtain ⟨-, -, hbranches, -⟩ := plural_eq_ok.1 hd
      rw [branches_eq_ok] at hbranches
      rw [Template.bodies, Flow.blocks, List.forall₂_map_left_iff, List.forall₂_map_right_iff]
      exact hbranches.imp fun b branch hb => lowersTo_of_body hb.2

/-- If a literal body is one text, the bodies that are texts are those that are literal. -/
theorem isConstant_iff_mode {t : Template} {flow : Flow}
    (h : (s.template true t).result = .ok flow) :
    t.isConstant ↔ ∀ block ∈ flow.blocks, block.mode = .constant := by
  have hbodies : t.isConstant ↔ ∀ b ∈ t.bodies, b.isConstant := by
    cases t with
    | unset => cases h
    | plain b => simp [Template.isConstant, Template.bodies]
    | plural p =>
        simp only [Template.isConstant, Template.bodies, Plural.isConstant, List.all_eq_true,
          List.forall_mem_map]
  have hlowers := forall₂_lowersTo h
  rw [hbodies]
  constructor
  · intro hconstant block hblock
    obtain ⟨b, hb, hlower⟩ := exists_of_forall₂_right hlowers hblock
    exact hlower.mode.2 ⟨rfl, hconstant b hb⟩
  · intro hmodes b hb
    obtain ⟨block, hblock, hlower⟩ := exists_of_forall₂_left hlowers hb
    exact (hlower.mode.1 (hmodes block hblock)).2

theorem flow_isConstant_iff_mode {t : Template} {flow : Flow}
    (h : (s.template direct t).result = .ok flow) :
    flow.isConstant ↔ ∀ block ∈ flow.blocks, block.mode = .constant := by
  have hblocks : flow.isConstant ↔ ∀ block ∈ flow.blocks, block.constant?.isSome := by
    cases flow with
    | sequence block => simp [Flow.isConstant, Flow.blocks]
    | dispatch d => simp [Flow.isConstant, Dispatch.isConstant, Flow.blocks]
  rw [hblocks]
  refine forall₂_congr fun block hblock => ?_
  obtain ⟨b, -, hlower⟩ := exists_of_forall₂_right (forall₂_lowersTo h) hblock
  exact hlower.isSome_constant?

end Scope

/-! ## Code -/

namespace Code

/-- The body of a method gives the texts of the bodies of a flow: that of its only body, or in one
arm after another that of each branch that can be taken. -/
inductive GivesTexts : Flow → MethodBody → Prop
  | text {block : Block} {text : String} (h : block.ops = [.giveBack text]) :
      GivesTexts (.sequence block) (.text text)
  | texts {d : Dispatch} {taken : List (Pattern × Option String)}
      (h : List.Forall₂ (fun branch arm => ∃ text, branch.body.ops = [.giveBack text] ∧
        arm = (.ofCondition branch.condition, some text)) d.live taken) :
      GivesTexts (.dispatch d)
        (.texts d.driver.ident (taken ++ if d.needsFallback then [(.any, none)] else []))

/-- The texts of a flow that has nothing else can be written. -/
theorem exists_givesTexts {s : Scope} {direct : Bool} {t : Template} {flow : Flow}
    (h : (s.template direct t).result = .ok flow) (hconstant : flow.isConstant) :
    ∃ body, constantBody flow = .ok body ∧ GivesTexts flow body := by
  cases flow with
  | sequence block =>
      obtain ⟨text, htext⟩ := Option.isSome_iff_exists.1 hconstant
      refine ⟨.text text, ?_, .text (Block.constant?_eq_some_iff.1 htext).2⟩
      rw [constantBody, htext]
      rfl
  | dispatch d =>
      have hdriver : identifier d.driver.ident = .ok d.driver.ident :=
        identifier_of_isIdentifier (isIdentifier_of_binds ⟨_, Scope.binding_driver h⟩)
      obtain ⟨as, has⟩ : ∃ as, arms d (fun b => .ok (some (b.constant?.getD ""))) none = .ok as :=
        exists_arms fun b _ => ⟨_, rfl⟩
      obtain ⟨taken, htaken, rfl⟩ := arms_eq_ok.1 has
      have hlive := (List.forall₂_and_left _ _).2 ⟨fun b hb => hb, htaken⟩
      have htexts : List.Forall₂ (fun branch arm => ∃ text, branch.body.ops = [.giveBack text] ∧
          arm = (.ofCondition branch.condition, some text)) d.live taken := by
        refine hlive.imp fun branch arm hb => ?_
        obtain ⟨hmem, hpattern, harm⟩ := hb
        have hsome := List.all_eq_true.1 hconstant branch (List.mem_of_mem_filter hmem)
        obtain ⟨text, htext⟩ := Option.isSome_iff_exists.1 hsome
        rw [htext, Except.ok.injEq] at harm
        exact ⟨text, (Block.constant?_eq_some_iff.1 htext).2, Prod.ext hpattern harm.symm⟩
      refine ⟨_, ?_, .texts htexts⟩
      rw [constantBody, hdriver, ok_bind]
      exact bind_eq_ok.2 ⟨_, has, rfl⟩

section Methods

variable {f : Function} (w : IntegerWidth)

theorem method_of_isConstant {body : MethodBody} (hshape : f.shape = .simple)
    (hconstant : f.flow.isConstant) (hbody : constantBody f.flow = .ok body) :
    method w f = do
      let name ← identifier f.name
      let params ← f.params.mapM (parameter w)
      return { name, params, body } := by
  simp only [method, hshape, hconstant, hbody, ok_bind, decide_true, Bool.and_self, if_true]

theorem method_of_shape_ne (hshape : f.shape ≠ .simple) :
    method w f = do
      let name ← identifier f.name
      let params ← f.params.mapM (parameter w)
      let p ← procedure true f.flow
      return { name, params, body := .buffered p } := by
  simp only [method, hshape, decide_false, Bool.false_and, Bool.false_eq_true, if_false,
    map_eq_pure_bind, bind_assoc, pure_bind]

end Methods

end Code

namespace Message

/-- In a message, a body is planned as a text if it is literal and only then, and it is the text of
its literals; in a variable, no body is. All other bodies append, without needless literals. A
message is simple if all its bodies are texts and only then, which is also when the code takes it
for constant: then its method gives those texts, and otherwise it fills a buffer. -/
theorem lower_modes {m : Message} {language : String} {width : IntegerWidth} {f : Function}
    {gs : List Function} (h : (m.lower language width).result = .ok (f, gs)) :
    List.Forall₂ (fun body block =>
        (block.mode = .constant ↔ ∀ p ∈ body, ∃ text, p = .literal text) ∧
          (block.mode = .constant → block.ops = [.giveBack body.literalText]))
      m.template.bodies f.flow.blocks ∧
    (∀ g ∈ gs, ∀ block ∈ g.flow.blocks, block.mode ≠ .constant) ∧
    (∀ g ∈ f :: gs, ∀ block ∈ g.flow.blocks, block.mode = .accumulate → Appending block.ops) ∧
    (f.shape = .simple ↔ ∀ block ∈ f.flow.blocks, block.mode = .constant) ∧
    (f.shape = .simple ↔ f.flow.isConstant) ∧
    (f.shape = .simple → ∃ body, Code.GivesTexts f.flow body ∧ ∀ w, Code.method w f = do
      let name ← Code.identifier f.name
      let params ← f.params.mapM (Code.parameter w)
      return { name, params, body }) ∧
    (f.shape ≠ .simple → ∀ w, Code.method w f = do
      let name ← Code.identifier f.name
      let params ← f.params.mapM (Code.parameter w)
      let p ← Code.procedure true f.flow
      return { name, params, body := .buffered p }) := by
  obtain ⟨hf, hgs⟩ := lower_eq_ok.1 h
  have hlowers := Scope.forall₂_lowersTo hf.flow
  have hvariables : ∀ g ∈ gs, ∃ v : Variable,
      List.Forall₂ (Body.LowersTo false) v.template.bodies g.flow.blocks := by
    intro g hg
    obtain ⟨v, -, hv⟩ := exists_of_forall₂_right hgs hg
    exact ⟨v, Scope.forall₂_lowersTo hv.flow⟩
  have hshape : f.shape = .simple ↔ ∀ block ∈ f.flow.blocks, block.mode = .constant := by
    rw [← Scope.isConstant_iff_mode hf.flow, hf.shape]
    simp
  have hflow := hshape.trans (Scope.flow_isConstant_iff_mode hf.flow).symm
  refine ⟨?_, ?_, ?_, hshape, hflow, ?_, fun hne w => Code.method_of_shape_ne w hne⟩
  · refine hlowers.imp fun b block hb => ⟨?_, hb.text⟩
    rw [hb.mode, Body.isConstant_iff]
    simp
  · intro g hg block hblock hmode
    obtain ⟨v, hv⟩ := hvariables g hg
    obtain ⟨b, -, hb⟩ := exists_of_forall₂_right hv hblock
    cases (hb.mode.1 hmode).1
  · intro g hg block hblock
    rcases List.mem_cons.1 hg with rfl | hg
    · obtain ⟨b, -, hb⟩ := exists_of_forall₂_right hlowers hblock
      exact hb.appending
    · obtain ⟨v, hv⟩ := hvariables g hg
      obtain ⟨b, -, hb⟩ := exists_of_forall₂_right hv hblock
      exact hb.appending
  · intro hsimple
    have hconstant := hflow.1 hsimple
    obtain ⟨body, hbody, htexts⟩ := Code.exists_givesTexts hf.flow hconstant
    exact ⟨body, htexts, fun w => Code.method_of_isConstant w hsimple hconstant hbody⟩

end Message

/-- A variable that is literal. -/
def whereabouts : Variable :=
  { name := "place", arguments := [], template := .plain [.literal " at", .literal " home"] }

def oneLetter : Body := [.literal "one ", .literal "", .literal "letter"]

def manyLetters : Body :=
  [.literal "", .argument "count" none, .literal " let", .literal "ters", .var "place"]

/-- A message with a body of no parts, a literal body, and one that is not literal. -/
def mailbox : Message :=
  { name := "mailbox"
    arguments := [⟨"count", .integer⟩]
    template := .plural
      { argument := "count"
        zero := some []
        one := some oneLetter
        many := some manyLetters }
    vars := [whereabouts] }

theorem exists_lower_mailbox : ∃ f g, (mailbox.lower "en" .signed).result = .ok (f, [g]) := by
  have hmessage : (mailbox.function "en" .signed).result.isOk := by decide +kernel
  have hvariable : ∀ b, (mailbox.variableFunction "en" .signed b whereabouts).result.isOk := by
    decide +kernel
  obtain ⟨f, hf⟩ := exists_of_isOk hmessage
  obtain ⟨g, hg⟩ := exists_of_isOk (hvariable (decide (whereabouts.name ∈ mailbox.referenced)))
  refine ⟨f, g, Message.lower_eq_ok.2 ⟨Message.function_eq_ok.1 hf, ?_⟩⟩
  exact .cons (Message.variableFunction_eq_ok.1 hg) .nil

/-- Two bodies are texts, but the message is not simple; and the variable is no text. -/
theorem lower_modes_mailbox : ∃ f g zero one many,
    (mailbox.lower "en" .signed).result = .ok (f, [g]) ∧ f.flow.blocks = [zero, one, many] ∧
      zero.ops = [.giveBack ""] ∧ one.ops = [.giveBack "one letter"] ∧
      many.mode = .accumulate ∧ Appending many.ops ∧ f.shape ≠ .simple ∧
      f.flow.isConstant = false ∧ ∀ block ∈ g.flow.blocks, block.mode ≠ .constant := by
  obtain ⟨f, g, hlower⟩ := exists_lower_mailbox
  obtain ⟨hbodies, hvariable, happending, hshape, hflow, -⟩ := Message.lower_modes hlower
  have htemplate : mailbox.template.bodies = [[], oneLetter, manyLetters] := rfl
  simp only [htemplate, List.forall₂_cons_left_iff, List.forall₂_nil_left_iff] at hbodies
  obtain ⟨zero, _, hzero, ⟨one, _, hone, ⟨many, _, hmany, rfl, rfl⟩, rfl⟩, hblocks⟩ := hbodies
  have hmode : many.mode = .accumulate := by
    cases hmode : many.mode with
    | accumulate => rfl
    | constant =>
        obtain ⟨text, heq⟩ := hmany.1.1 hmode (.argument "count" none) (by decide)
        cases heq
  have hmem : many ∈ f.flow.blocks := by simp [hblocks]
  have hgeneral : f.shape ≠ .simple := by
    intro hsimple
    have hconstant := hshape.1 hsimple many hmem
    rw [hmode] at hconstant
    cases hconstant
  refine ⟨f, g, zero, one, many, hlower, hblocks, hzero.2 (hzero.1.2 (by simp)),
    hone.2 (hone.1.2 ?_), hmode, happending f List.mem_cons_self many hmem hmode, hgeneral, ?_,
    hvariable g List.mem_cons_self⟩
  · exact Body.isConstant_iff.1 (by decide)
  · rwa [ne_eq, hflow, Bool.not_eq_true] at hgeneral

end Phrasebook
