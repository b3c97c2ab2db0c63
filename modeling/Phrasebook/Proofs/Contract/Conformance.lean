import Phrasebook.Proofs.Compilation

set_option autoImplicit false

/-! # Localizations that have the same messages

A localization conforms to a reference if every method finds a message with its arguments and every
message has a method. Where messages have names of their own this is the same as to say that both
have the same signatures in some order (`differences_eq_nil_iff_perm`), which treats the two alike.
So localizations can be compiled if they are well formed, have module names of their own and all
have the same signatures (`exists_compile_eq_ok_iff`), and then every plan has the functions that
the contract asks for and no others (`Compiled.implements_contract`). -/

namespace Phrasebook

/-! ## Signatures -/

/-- The names of the messages, with their arguments. -/
def Localization.signatures (l : Localization) : List (String × List Argument) :=
  l.messages.map fun m => (m.name, m.arguments)

theorem Localization.WellFormed.nodup_signatures {l : Localization} {width : IntegerWidth}
    (h : l.WellFormed width) : l.signatures.Nodup := by
  refine List.Nodup.of_map (·.1) ?_
  rw [signatures, List.map_map]
  exact nodup_messageNames h

namespace Contract

/-- The method for a signature. -/
structure IsMethod (signature : String × List Argument) (method : Method) : Prop where
  message : method.message = signature.1
  name : methodName signature.1 = .ok method.name
  arguments : method.arguments = signature.2

theorem IsMethod.unique {signature : String × List Argument} {m m' : Method}
    (h : IsMethod signature m) (h' : IsMethod signature m') : m = m' := by
  obtain ⟨message, name, arguments⟩ := m
  obtain ⟨message', name', arguments'⟩ := m'
  obtain ⟨rfl, hname, rfl⟩ := h
  obtain ⟨rfl, hname', rfl⟩ := h'
  cases Except.ok.inj (hname.symm.trans hname')
  rfl

theorem methodsOf_eq_ok {l : Localization} {methods : List Method} :
    methodsOf l = .ok methods ↔ List.Forall₂ IsMethod l.signatures methods := by
  simp only [methodsOf, mapM_eq_ok, bind_eq_ok, mapError_eq_ok, Localization.signatures,
    List.forall₂_map_left_iff]
  have hone : ∀ (m : Message) (method : Method),
      (∃ n, methodName m.name = .ok n ∧
        (pure { message := m.name, name := n, arguments := m.arguments } :
          Except SchemaError Method) = .ok method) ↔ IsMethod (m.name, m.arguments) method := by
    rintro m ⟨message, name, arguments⟩
    constructor
    · rintro ⟨n, hn, heq⟩
      cases heq
      exact ⟨rfl, hn, rfl⟩
    · rintro ⟨hmessage, hname, harguments⟩
      cases hmessage
      cases harguments
      exact ⟨name, hname, rfl⟩
  simp only [hone]

/-- The methods are for the signatures of the reference. -/
theorem mem_signatures_iff {reference : Localization} {methods : List Method}
    (h : methodsOf reference = .ok methods) {signature : String × List Argument} :
    signature ∈ reference.signatures ↔
      ∃ method ∈ methods, (method.message, method.arguments) = signature := by
  have hmethods := methodsOf_eq_ok.1 h
  constructor
  · intro hmem
    obtain ⟨method, hmethod, his⟩ := exists_of_forall₂_left hmethods hmem
    exact ⟨method, hmethod, by rw [his.message, his.arguments]⟩
  · rintro ⟨method, hmethod, rfl⟩
    obtain ⟨signature, hmem, his⟩ := exists_of_forall₂_right hmethods hmethod
    rwa [his.message, his.arguments]

/-! ## Differences -/

theorem methodViolations_eq_nil_iff {reference : String} {l : Localization} {method : Method} :
    methodViolations reference l method = [] ↔
      ∃ m, l.messageNamed? method.message = some m ∧ m.arguments = method.arguments := by
  unfold methodViolations
  cases l.messageNamed? method.message with
  | none => simp
  | some m => by_cases harguments : m.arguments = method.arguments <;> simp [harguments]

theorem differences_eq_nil_iff {reference : String} {methods : List Method} {l : Localization} :
    differences reference methods l = [] ↔
      (∀ method ∈ methods, ∃ m, l.messageNamed? method.message = some m ∧
        m.arguments = method.arguments) ∧
      ∀ m ∈ l.messages, ∃ method ∈ methods, method.message = m.name := by
  have hexpected : (l.messages.filter fun m => (methodFor? methods m.name).isNone) = [] ↔
      ∀ m ∈ l.messages, ∃ method ∈ methods, method.message = m.name := by
    simp [List.filter_eq_nil_iff, methodFor?, List.find?_eq_none]
  rw [differences, List.append_eq_nil_iff, List.flatMap_eq_nil_iff, List.map_eq_nil_iff, hexpected]
  simp only [located_eq_nil_iff, methodViolations_eq_nil_iff]

/-- A localization does not differ from the reference if the two have the same signatures. -/
theorem differences_eq_nil_iff_perm {reference l : Localization} {width : IntegerWidth}
    {methods : List Method} (hreference : reference.WellFormed width) (hl : l.WellFormed width)
    (hmethods : methodsOf reference = .ok methods) :
    differences reference.language methods l = [] ↔ l.signatures.Perm reference.signatures := by
  have hnames := Localization.nodup_messageNames hl
  rw [List.perm_ext_iff_of_nodup hl.nodup_signatures hreference.nodup_signatures,
    differences_eq_nil_iff]
  simp only [mem_signatures_iff hmethods]
  constructor
  · rintro ⟨hfound, hexpected⟩ signature
    constructor
    · intro hmem
      obtain ⟨m, hm, rfl⟩ := List.mem_map.1 hmem
      obtain ⟨method, hmethod, hmessage⟩ := hexpected m hm
      obtain ⟨m', hm', harguments⟩ := hfound method hmethod
      -- The name of a message leads back to it, so it is the one that has the right arguments.
      rw [hmessage, Localization.messageNamed?, find?_eq_some_of_nodup hnames hm] at hm'
      cases hm'
      exact ⟨method, hmethod, by rw [hmessage, harguments]⟩
    · rintro ⟨method, hmethod, rfl⟩
      obtain ⟨m, hm, harguments⟩ := hfound method hmethod
      have hname : m.name = method.message := by simpa using List.find?_some hm
      exact List.mem_map.2 ⟨m, List.mem_of_find?_eq_some hm, by rw [hname, harguments]⟩
  · intro h
    refine ⟨fun method hmethod => ?_, fun m hm => ?_⟩
    · obtain ⟨m, hm, heq⟩ := List.mem_map.1 ((h _).2 ⟨method, hmethod, rfl⟩)
      rw [Prod.mk.injEq] at heq
      refine ⟨m, ?_, heq.2⟩
      rw [← heq.1]
      exact find?_eq_some_of_nodup hnames hm
    · obtain ⟨method, hmethod, heq⟩ := (h (m.name, m.arguments)).1 (List.mem_map.2 ⟨m, hm, rfl⟩)
      rw [Prod.mk.injEq] at heq
      exact ⟨method, hmethod, heq.1⟩

/-- The methods of a contract are those of every localization. -/
theorem forall₂_isMethod_of_unify {ls : List Localization} {width : IntegerWidth} {c : Contract}
    (hls : ∀ l ∈ ls, l.WellFormed width) (h : (unify ls).result = .ok c) :
    ∃ reference ∈ ls, List.Forall₂ IsMethod reference.signatures c.methods ∧
      ∀ l ∈ ls, l.signatures.Perm reference.signatures := by
  cases ls with
  | nil => cases h
  | cons reference rest =>
      obtain ⟨-, hmethods, hnone, -⟩ := unify_cons_eq_ok.1 h
      refine ⟨reference, List.mem_cons_self, methodsOf_eq_ok.1 hmethods, fun l hl => ?_⟩
      exact (differences_eq_nil_iff_perm (hls reference List.mem_cons_self) (hls l hl) hmethods).1
        (hnone l hl)

/-- Localizations have a contract if they all have the same signatures. -/
theorem exists_unify_eq_ok_iff {ls : List Localization} {width : IntegerWidth} (hne : ls ≠ [])
    (hls : ∀ l ∈ ls, l.WellFormed width) :
    (∃ c, (unify ls).result = .ok c) ↔ ∀ l ∈ ls, ∀ l' ∈ ls, l.signatures.Perm l'.signatures := by
  constructor
  · rintro ⟨c, hc⟩ l hl l' hl'
    obtain ⟨reference, -, -, hperm⟩ := forall₂_isMethod_of_unify hls hc
    exact (hperm l hl).trans (hperm l' hl').symm
  · intro h
    obtain ⟨reference, rest, rfl⟩ := List.exists_cons_of_ne_nil hne
    have hreference := hls reference List.mem_cons_self
    obtain ⟨methods, hmethods⟩ := exists_methodsOf hreference
    obtain ⟨rs, hrs⟩ := exists_forall₂ fun l hl => exists_register (hls l hl)
    refine ⟨⟨reference.language, methods, rs⟩, unify_cons_eq_ok.2 ⟨rfl, hmethods, ?_, hrs⟩⟩
    intro l hl
    exact (differences_eq_nil_iff_perm hreference (hls l hl) hmethods).2
      (h l hl reference List.mem_cons_self)

end Contract

/-- What can be compiled, without a word about the order in which it comes. -/
theorem exists_compile_eq_ok_iff {s : Settings} {ls : List Localization} :
    (∃ c, (compile s ls).result = .ok c) ↔
      ls ≠ [] ∧ validate s.integer ls = [] ∧
        ∀ l ∈ ls, ∀ l' ∈ ls, l.signatures.Perm l'.signatures := by
  constructor
  · rintro ⟨c, hc⟩
    obtain ⟨⟨hne, hvalid⟩, -, hunify, -⟩ := compile_eq_ok.1 hc
    exact ⟨hne, hvalid,
      (Contract.exists_unify_eq_ok_iff hne (validate_eq_nil_iff.1 hvalid).2).1 ⟨_, hunify⟩⟩
  · rintro ⟨hne, hvalid, hperm⟩
    have hls := (validate_eq_nil_iff.1 hvalid).2
    obtain ⟨contract, hunify⟩ := (Contract.exists_unify_eq_ok_iff hne hls).2 hperm
    obtain ⟨plans, hplans⟩ := exists_forall₂ fun l hl => Localization.exists_lower (hls l hl)
    exact ⟨⟨s, contract, plans⟩, compile_eq_ok.2 ⟨⟨hne, hvalid⟩, rfl, hunify, hplans⟩⟩

/-- A localization on its own only has to be well-formed. -/
theorem exists_compile_singleton {s : Settings} {l : Localization} (hl : l.WellFormed s.integer) :
    ∃ c, (compile s [l]).result = .ok c := by
  obtain ⟨module, hmodule⟩ := hl.module
  refine exists_compile_eq_ok_iff.2 ⟨List.cons_ne_nil _ _, validate_eq_nil_iff.2 ⟨?_, ?_⟩, ?_⟩
  · exact ⟨[module], .cons hmodule .nil, List.nodup_singleton _⟩
  · intro l' hl'
    rwa [List.mem_singleton.1 hl']
  · intro a ha b hb
    rw [List.mem_singleton.1 ha, List.mem_singleton.1 hb]

/-! ## Interfaces of functions -/

/-- The name of a function and its parameters: how it is called. -/
def Function.interface (f : Function) : String × List (String × ArgType) :=
  (f.name, f.params.map fun q => (q.binding.ident, q.type))

/-- The name of a method and the parameters for its arguments. -/
def Method.interface (m : Method) : Except Violation (String × List (String × ArgType)) := do
  let params ← m.arguments.mapM fun a => return (← parameterName a.name, a.type)
  return (m.name, params)

/-- The interface that a signature asks for. -/
structure IsInterface (signature : String × List Argument)
    (interface : String × List (String × ArgType)) : Prop where
  name : methodName signature.1 = .ok interface.1
  params : List.Forall₂ (fun a q => parameterName a.name = .ok q.1 ∧ a.type = q.2)
    signature.2 interface.2

theorem IsInterface.unique {signature : String × List Argument}
    {i i' : String × List (String × ArgType)} (h : IsInterface signature i)
    (h' : IsInterface signature i') : i = i' := by
  refine Prod.ext ?_ ?_
  · exact Except.ok.inj (h.name.symm.trans h'.name)
  · refine List.right_unique_forall₂' ?_ h.params h'.params
    rintro a ⟨x, type⟩ ⟨x', type'⟩ ⟨hx, rfl⟩ ⟨hx', rfl⟩
    cases Except.ok.inj (hx.symm.trans hx')
    rfl

theorem Contract.IsMethod.interface_eq_ok {signature : String × List Argument} {m : Method}
    {interface : String × List (String × ArgType)} (h : Contract.IsMethod signature m) :
    m.interface = .ok interface ↔ IsInterface signature interface := by
  obtain ⟨n, params⟩ := interface
  have hone : ∀ (a : Argument) (q : String × ArgType),
      (do return (← parameterName a.name, a.type) : Except Violation _) = .ok q ↔
        parameterName a.name = .ok q.1 ∧ a.type = q.2 := by
    rintro a ⟨x, type⟩
    rw [bind_eq_ok]
    constructor
    · rintro ⟨y, hy, heq⟩
      cases heq
      exact ⟨hy, rfl⟩
    · rintro ⟨hx, rfl⟩
      exact ⟨x, hx, rfl⟩
  rw [Method.interface, bind_eq_ok]
  simp only [mapM_eq_ok, hone, h.arguments]
  constructor
  · rintro ⟨params, hparams, heq⟩
    cases heq
    exact ⟨h.name, hparams⟩
  · rintro ⟨hname, hparams⟩
    refine ⟨params, hparams, ?_⟩
    cases Except.ok.inj (hname.symm.trans h.name)
    rfl

theorem Message.IsFunction.isInterface {m : Message} {language : String} {width : IntegerWidth}
    {f : Function} (hf : m.IsFunction language width f) (hm : m.WellFormed width) :
    IsInterface (m.name, m.arguments) f.interface where
  name := hf.name
  params := by
    have hnodup : (m.arguments.map (·.name)).Nodup :=
      hm.parameters.nodup_map fun a b h => by rw [h]
    have hparams := List.forall₂_map_left_iff.1 hf.params
    refine List.forall₂_map_right_iff.2 ?_
    refine ((List.forall₂_and_left _ _).2 ⟨fun a ha => ha, hparams⟩).imp ?_
    rintro a q ⟨ha, hq⟩
    obtain ⟨a', ha', hident, -, htype, -⟩ := Scope.param_eq_ok.1 hq
    -- The argument that is looked up by its name is the one that the parameter stands for.
    rw [argumentNamed?, Message.scope, find?_eq_some_of_nodup hnodup ha] at ha'
    cases ha'
    exact ⟨hident, htype.symm⟩

theorem Localization.forall₂_isInterface {l : Localization} {width : IntegerWidth} {p : Plan}
    (hl : l.WellFormed width) (hp : (l.lower width).result = .ok p) :
    List.Forall₂ IsInterface l.signatures (p.messages.map Function.interface) := by
  obtain ⟨-, fs, hmessages, -, hfs⟩ := lower_eq_ok hp
  rw [hmessages, List.map_map, Localization.signatures, List.forall₂_map_left_iff,
    List.forall₂_map_right_iff]
  refine ((List.forall₂_and_left _ _).2 ⟨fun m hm => hm, hfs⟩).imp ?_
  rintro m f ⟨hm, hmf, -⟩
  exact hmf.isInterface (hl.messages m hm)

/-- Every localizer has, in some order, the methods of the contract with their parameters, each of
them once and no others. -/
theorem Compiled.implements_contract {s : Settings} {ls : List Localization} {c : Compiled}
    (hc : (compile s ls).result = .ok c) :
    ∃ interfaces, c.contract.methods.mapM Method.interface = .ok interfaces ∧
      (interfaces.map (·.1)).Nodup ∧
      ∀ p ∈ c.plans, (p.messages.map Function.interface).Perm interfaces ∧
        p.messages.length = c.contract.methods.length := by
  obtain ⟨⟨-, hvalid⟩, -, hunify, hplans⟩ := compile_eq_ok.1 hc
  have hls := (validate_eq_nil_iff.1 hvalid).2
  obtain ⟨reference, hreference, hmethods, hperm⟩ :=
    Contract.forall₂_isMethod_of_unify hls hunify
  -- The functions of the reference are what the methods ask for, one by one.
  obtain ⟨q, -, hq⟩ := exists_of_forall₂_left hplans hreference
  have hinterfaces := Localization.forall₂_isInterface (hls reference hreference) hq
  refine ⟨q.messages.map Function.interface, mapM_eq_ok.2 ?_, ?_, fun p hp => ?_⟩
  · exact forall₂_of_common hmethods hinterfaces
      fun signature _ m i hm hi => hm.interface_eq_ok.2 hi
  · rw [List.map_map]
    exact Localization.nodup_methodNames (hls reference hreference) hq
  · -- Those of any other localization are made of the same signatures.
    obtain ⟨l, hl, hlp⟩ := exists_of_forall₂_right hplans hp
    have hfunctions := perm_of_forall₂ (fun _ _ _ hi hi' => hi.unique hi') (hperm l hl)
      (Localization.forall₂_isInterface (hls l hl) hlp) hinterfaces
    refine ⟨hfunctions, ?_⟩
    have hlength := hfunctions.length_eq
    rw [List.length_map, List.length_map] at hlength
    rw [hlength, ← hmethods.length_eq, hinterfaces.length_eq, List.length_map]

theorem implements_contract_letters : ∃ c, (compile {} lettersTwice).result = .ok c ∧
    ∃ interfaces, c.contract.methods.mapM Method.interface = .ok interfaces ∧
      ∀ p ∈ c.plans, (p.messages.map Function.interface).Perm interfaces := by
  obtain ⟨c, hc, -⟩ := exists_compiled_lettersTwice
  obtain ⟨interfaces, hinterfaces, -, hplans⟩ := Compiled.implements_contract hc
  exact ⟨c, hc, interfaces, hinterfaces, fun p hp => (hplans p hp).1⟩

end Phrasebook
