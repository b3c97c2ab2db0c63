import Phrasebook.Proofs.Contract.Order
import Phrasebook.Proofs.Contract.Registry

set_option autoImplicit false

/-! # The files

Whatever has been compiled can be written: the names that code is written with have all been checked
before, each where it was made. All that may still stand in the way of a file is a type of the
program that is a path, but none that can stand where a type is expected (`Compiled.readable_iff`).
There is one file for the interface and one for each language, in the order of the localizations
(`Compiled.files_eq`). No two have the same name: the names of modules are different, and none of
them is a reserved word. -/

namespace Phrasebook

/-- The values of computations that are collected are all there if each of them is. -/
theorem collect_eq_ok {α : Type} {xs : List (Logged CompileError α)} {as : List α} :
    (collect xs).result = .ok as ↔ List.Forall₂ (fun x a => x.result = .ok a) xs as := by
  have hresults : (xs.mapM Traced.attempt).result = .ok (xs.map (·.result)) :=
    result_mapM_attempt (fun x => x) xs
  simp only [collect, Traced.result_bind, Traced.result_liftM, Traced.result_pure, hresults,
    ok_bind]
  constructor
  · intro h
    obtain ⟨_, hcheck, heq⟩ := bind_eq_ok.1 h
    cases heq
    have hall := forall₂_of_partitionResults (check_eq_ok.1 hcheck)
    exact List.forall₂_map_left_iff.1 hall
  · intro h
    rw [partitionResults_of_forall₂ (List.forall₂_map_left_iff.2 h)]
    rfl

/-! ## One file -/

theorem renderFile_eq_ok {s : Settings} {name contents : String} {isTyped : Bool}
    {code : Code.Fragment} :
    Code.renderFile s name isTyped code = .ok contents ↔
      isTyped ∧ contents = Code.fileText s code := by
  cases isTyped <;> simp [Code.renderFile, eq_comm]

theorem renderInterface_eq_ok {s : Settings} {contract : Contract} {f : GeneratedFile} :
    (renderInterface s contract).result = .ok f ↔
      ∃ i, Code.interface s contract = .ok i ∧ i.isTyped ∧
        f = ⟨interfaceFile, Code.fileText s i.code⟩ := by
  simp only [renderInterface, Traced.result_bind, Traced.result_liftM, Traced.result_pure,
    bind_eq_ok, renderFile_eq_ok, Except.ok.injEq]
  constructor
  · rintro ⟨i, hi, contents, ⟨htyped, rfl⟩, rfl⟩
    exact ⟨i, hi, htyped, rfl⟩
  · rintro ⟨i, hi, htyped, rfl⟩
    exact ⟨i, hi, _, ⟨htyped, rfl⟩, rfl⟩

theorem renderLocalizer_eq_ok {s : Settings} {r : Registration} {p : Plan} {f : GeneratedFile} :
    (renderLocalizer s r p).result = .ok f ↔
      ∃ code, Code.localizer s.integer r p = .ok code ∧ code.isTyped ∧
        f = ⟨r.module ++ ".rs", Code.fileText s code.code⟩ := by
  simp only [renderLocalizer, Traced.result_bind, Traced.result_liftM, Traced.result_pure,
    Traced.result_step, ok_bind, bind_eq_ok, renderFile_eq_ok, Except.ok.injEq]
  constructor
  · rintro ⟨code, hcode, contents, ⟨htyped, rfl⟩, rfl⟩
    exact ⟨code, hcode, htyped, rfl⟩
  · rintro ⟨code, hcode, htyped, rfl⟩
    exact ⟨code, hcode, _, ⟨htyped, rfl⟩, rfl⟩

/-! ## All files -/

namespace Compiled

variable {s : Settings} {ls : List Localization} {c : Compiled}

/-- Everywhere in the code that is written, types stand where they are expected. -/
structure Readable (c : Compiled) : Prop where
  interface : ∀ i, Code.interface c.settings c.contract = .ok i → i.isTyped
  localizers : ∀ e ∈ c.entries, ∀ code,
    Code.localizer c.settings.integer e.1 e.2 = .ok code → code.isTyped

/-- The files are that of the interface and those of the languages. -/
theorem files_eq_ok {files : List GeneratedFile} :
    c.files.result = .ok files ↔
      ∃ general rest, files = general :: rest ∧
        (renderInterface c.settings c.contract).result = .ok general ∧
        List.Forall₂ (fun e f => (renderLocalizer c.settings e.1 e.2).result = .ok f)
          c.entries rest := by
  rw [Compiled.files, emit, collect_eq_ok]
  constructor
  · rintro (_ | ⟨hgeneral, hrest⟩)
    exact ⟨_, _, rfl, hgeneral, List.forall₂_map_left_iff.1 hrest⟩
  · rintro ⟨general, rest, rfl, hgeneral, hrest⟩
    exact .cons hgeneral (List.forall₂_map_left_iff.2 hrest)

/-- Whatever the settings of the code are, the interface and all languages can be written. -/
theorem exists_code (hc : (compile s ls).result = .ok c) (t : Settings) :
    (∃ i, Code.interface t c.contract = .ok i) ∧
      ∀ e ∈ c.entries, ∃ code, Code.localizer t.integer e.1 e.2 = .ok code := by
  constructor
  · obtain ⟨i, hi, -⟩ := exists_interface_with hc t
    exact ⟨i, hi⟩
  · intro e he
    obtain ⟨l, -, hwell, hentry⟩ := exists_localization_of_mem hc he
    obtain ⟨code, hcode, -⟩ :=
      Code.exists_localizer_with hwell hentry.plan hentry.typeName t.integer
    exact ⟨code, hcode⟩

/-- There are files exactly if they can be read as code. -/
theorem exists_files_iff (hc : (compile s ls).result = .ok c) :
    (∃ files, c.files.result = .ok files) ↔ c.Readable := by
  -- the code is there in any case, so that only types can be in the way
  obtain ⟨⟨i, hi⟩, hcodes⟩ := exists_code hc c.settings
  constructor
  · rintro ⟨files, hfiles⟩
    obtain ⟨general, rest, -, hgeneral, hrest⟩ := files_eq_ok.1 hfiles
    constructor
    · intro i' hi'
      obtain ⟨i, hi, htyped, -⟩ := renderInterface_eq_ok.1 hgeneral
      rw [hi] at hi'
      cases hi'
      exact htyped
    · intro e he code' hcode'
      obtain ⟨f, -, hf⟩ := exists_of_forall₂_left hrest he
      obtain ⟨code, hcode, htyped, -⟩ := renderLocalizer_eq_ok.1 hf
      rw [hcode] at hcode'
      cases hcode'
      exact htyped
  · intro h
    have hgeneral := renderInterface_eq_ok.2 ⟨i, hi, h.interface i hi, rfl⟩
    obtain ⟨rest, hrest⟩ : ∃ rest, List.Forall₂
        (fun e f => (renderLocalizer c.settings e.1 e.2).result = .ok f) c.entries rest := by
      refine exists_forall₂ fun e he => ?_
      obtain ⟨code, hcode⟩ := hcodes e he
      exact ⟨_, renderLocalizer_eq_ok.2 ⟨code, hcode, h.localizers e he code hcode, rfl⟩⟩
    exact ⟨_, files_eq_ok.2 ⟨_, rest, rfl, hgeneral, hrest⟩⟩

/-- No two files have the same name. -/
theorem nodup_names (hc : (compile s ls).result = .ok c) {files : List GeneratedFile}
    (hfiles : c.files.result = .ok files) : (files.map (·.name)).Nodup := by
  obtain ⟨general, rest, rfl, hgeneral, hrest⟩ := files_eq_ok.1 hfiles
  obtain ⟨i, -, -, rfl⟩ := renderInterface_eq_ok.1 hgeneral
  have hmodules : c.entries.map (·.1.module) = c.contract.registry.map (·.module) := by
    obtain ⟨-, -, hunify, hplans⟩ := compile_eq_ok.1 hc
    have hlength : c.contract.registry.length ≤ c.plans.length :=
      le_of_eq ((Contract.unify_eq_ok hunify).length_eq.symm.trans hplans.length_eq)
    rw [← List.map_fst_zip hlength, List.map_map]
    rfl
  have hnames : rest.map (·.name) = (c.contract.registry.map (·.module)).map (· ++ ".rs") := by
    rw [← hmodules, List.map_map]
    refine (map_eq_map_of_forall₂ hrest fun e f hf => ?_).symm
    obtain ⟨code, -, -, rfl⟩ := renderLocalizer_eq_ok.1 hf
    rfl
  have hinjective : Function.Injective (· ++ ".rs") :=
    fun a b h => (String.append_left_inj ".rs").1 h
  rw [List.map_cons, List.nodup_cons, hnames, List.nodup_map_iff hinjective]
  refine ⟨fun hmem => ?_, nodup_modules hc⟩
  -- A module whose file has the name of the interface would have a reserved word for its name.
  obtain ⟨module, hmodule, hname⟩ := List.mem_map.1 hmem
  obtain ⟨r, hr, rfl⟩ := List.mem_map.1 hmodule
  obtain ⟨-, -, hunify, -⟩ := compile_eq_ok.1 hc
  obtain ⟨l, -, hlr⟩ := exists_of_forall₂_right (Contract.unify_eq_ok hunify) hr
  have hidentifier := isIdentifier_of_moduleName (Contract.register_eq_ok.1 hlr).2.1
  have hmod : r.module = "mod" := hinjective hname
  rw [hmod] at hidentifier
  have hreserved : Text.isIdentifier "mod" = false := by decide +kernel
  rw [hreserved] at hidentifier
  cases hidentifier

end Compiled

/-! ## What can be read

Types are what the messages declare, and every message is a method of the interface. -/

/-- The type can stand where a type is expected: a path of the program if it is a type, any other in
any case. -/
def ArgType.isType : ArgType → Bool
  | .custom path => (Code.TypePath.read? path).all (·.isType)
  | _ => true

namespace Code

theorem isTyped_eq {w : IntegerWidth} {type : ArgType} {x : Parameter}
    (h : parameterType w type = .ok x.type) : x.isTyped = type.isType := by
  unfold Parameter.isTyped
  cases type with
  | text | integer | float | display =>
      rw [← Except.ok.inj h]
      rfl
  | custom path =>
      cases hread : TypePath.read? path with
      | none =>
          rw [parameterType, hread] at h
          cases h
      | some t =>
          rw [parameterType, hread] at h
          rw [← Except.ok.inj h, ArgType.isType, hread]
          rfl

theorem isTyped_of_plans {s : Scope} {direct : Bool} {t : Template} {names : List String}
    {f : Function} {w : IntegerWidth} {xs : List Parameter} (h : s.Plans direct t names f)
    (htypes : ∀ a ∈ s.message.arguments, a.type.isType)
    (hxs : List.Forall₂ (fun q x => parameter w q = .ok x) f.params xs) :
    xs.all Parameter.isTyped := by
  rw [List.all_eq_true]
  intro x hx
  obtain ⟨q, hq, hqx⟩ := exists_of_forall₂_right hxs hx
  obtain ⟨name, -, hparam⟩ := exists_of_forall₂_right h.params hq
  obtain ⟨a, ha, -, -, htype, -⟩ := Scope.param_eq_ok.1 hparam
  rw [isTyped_eq ((parameter_eq_ok (h.isParameterName hq)).1 hqx).2, htype]
  exact htypes a (Message.mem_of_argumentNamed? ha).1

theorem forall₂_of_signature {w : IntegerWidth} {reference : String} {m : Method}
    {code : SignatureCode} (h : signature w reference m = .ok code) :
    List.Forall₂ (fun a x => parameterType w a.type = .ok x.type) m.arguments code.params := by
  obtain ⟨name, -, h⟩ := bind_eq_ok.1 h
  obtain ⟨params, hparams, heq⟩ := bind_eq_ok.1 h
  cases heq
  refine (mapM_eq_ok.1 hparams).imp fun a x hax => ?_
  obtain ⟨raw, -, hax⟩ := bind_eq_ok.1 hax
  obtain ⟨ident, -, hax⟩ := bind_eq_ok.1 hax
  obtain ⟨type, htype, heq⟩ := bind_eq_ok.1 hax
  cases heq
  exact htype

theorem forall₂_of_interface {s : Settings} {c : Contract} {i : InterfaceCode}
    (h : interface s c = .ok i) :
    List.Forall₂ (fun m code => signature s.integer c.reference m = .ok code)
      c.methods i.methods := by
  obtain ⟨modules, -, h⟩ := bind_eq_ok.1 h
  obtain ⟨types, -, h⟩ := bind_eq_ok.1 h
  obtain ⟨methods, hmethods, heq⟩ := bind_eq_ok.1 h
  cases heq
  exact mapM_eq_ok.1 hmethods

end Code

namespace Compiled

variable {s : Settings} {ls : List Localization} {c : Compiled}

/-- An interface has types where they are expected if the messages of each localization have. -/
theorem isTyped_interface_iff (hc : (compile s ls).result = .ok c) {i : Code.InterfaceCode}
    (hi : Code.interface s c.contract = .ok i) :
    i.isTyped ↔ ∀ l ∈ ls, ∀ m ∈ l.messages, ∀ a ∈ m.arguments, a.type.isType := by
  obtain ⟨⟨-, hvalid⟩, -, hunify, -⟩ := compile_eq_ok.1 hc
  have hls := (validate_eq_nil_iff.1 hvalid).2
  obtain ⟨reference, hreference, hmethods, hperm⟩ := Contract.forall₂_isMethod_of_unify hls hunify
  have hcodes := Code.forall₂_of_interface hi
  simp only [Code.InterfaceCode.isTyped, List.all_eq_true]
  constructor
  · intro h l hl m hm a ha
    -- the method that the reference has for the same signature
    have hsignature : (m.name, m.arguments) ∈ reference.signatures :=
      (hperm l hl).mem_iff.1 (List.mem_map_of_mem hm)
    obtain ⟨method, hmethod, his⟩ := exists_of_forall₂_left hmethods hsignature
    obtain ⟨code, hcode, hsig⟩ := exists_of_forall₂_left hcodes hmethod
    rw [← show method.arguments = m.arguments from his.arguments] at ha
    obtain ⟨x, hx, htype⟩ := exists_of_forall₂_left (Code.forall₂_of_signature hsig) ha
    rw [← Code.isTyped_eq htype]
    exact h code hcode x hx
  · intro h code hcode x hx
    obtain ⟨method, hmethod, hsig⟩ := exists_of_forall₂_right hcodes hcode
    obtain ⟨signature, hmem, his⟩ := exists_of_forall₂_right hmethods hmethod
    obtain ⟨m, hm, rfl⟩ := List.mem_map.1 hmem
    obtain ⟨a, ha, htype⟩ := exists_of_forall₂_right (Code.forall₂_of_signature hsig) hx
    rw [show method.arguments = m.arguments from his.arguments] at ha
    rw [Code.isTyped_eq htype]
    exact h reference hreference m hm a ha

/-- The files can be read as code if all types of arguments can stand where types are expected. -/
theorem readable_iff (hc : (compile s ls).result = .ok c) :
    c.Readable ↔ ∀ l ∈ ls, ∀ m ∈ l.messages, ∀ a ∈ m.arguments, a.type.isType := by
  obtain ⟨-, hsettings, -⟩ := compile_eq_ok.1 hc
  subst hsettings
  obtain ⟨⟨i, hi⟩, -⟩ := exists_code hc c.settings
  constructor
  · intro h
    exact (isTyped_interface_iff hc hi).1 (h.interface i hi)
  · intro h
    refine ⟨fun i' hi' => (isTyped_interface_iff hc hi').2 h, fun e he code hcode => ?_⟩
    obtain ⟨l, hl, hwell, hentry⟩ := exists_localization_of_mem hc he
    obtain ⟨code', hcode', hauxiliaries, hmethods⟩ :=
      Code.exists_localizer_with hwell hentry.plan hentry.typeName c.settings.integer
    rw [hcode] at hcode'
    cases hcode'
    rw [Code.LocalizerCode.isTyped, Bool.and_eq_true, List.all_eq_true, List.all_eq_true]
    constructor
    · intro a ha
      obtain ⟨g, hg, hga, -⟩ := exists_of_forall₂_right hauxiliaries ha
      obtain ⟨m, hm, v, hv, hvg⟩ :=
        Localization.exists_variable_of_mem hentry.plan (List.mem_of_mem_filter hg)
      have hparams :=
        (Code.auxiliary_eq_ok (isIdentifier_of_auxiliaryName hvg.name) hga).2.2.1
      exact Code.isTyped_of_plans (hvg.plans (hwell.messages m hm) hv) (h l hl m hm) hparams
    · intro mc hmc
      obtain ⟨f, hf, hfm, -⟩ := exists_of_forall₂_right hmethods hmc
      obtain ⟨m, hm, hmf⟩ := Localization.exists_message_of_mem hentry.plan hf
      have hparams := (Code.method_eq_ok (isIdentifier_of_methodName hmf.name) hfm).2.1
      exact Code.isTyped_of_plans (hmf.plans (hwell.messages m hm)) (h l hl m hm) hparams

/-- What has been compiled can be written, under any settings. If it can be read as code, there are
files, first that of the interface, and then one for each localization, in their order: it has the
name of the language's module, and is written from the registration and the plan that stand in the
same place and are for the same language. -/
theorem files_eq (hc : (compile s ls).result = .ok c) :
    (∀ t : Settings, (∃ i, Code.interface t c.contract = .ok i) ∧
      ∀ e ∈ c.entries, ∃ code, Code.localizer t.integer e.1 e.2 = .ok code) ∧
    ((∃ files, c.files.result = .ok files) ↔ c.Readable) ∧
    ∀ files, c.files.result = .ok files →
      files.length = ls.length + 1 ∧ (files.map (·.name)).Nodup ∧
      (∃ i, Code.interface s c.contract = .ok i ∧
        files[0]? = some ⟨"mod.rs", Code.fileText s i.code⟩) ∧
      ∀ (k : Nat) (l : Localization), ls[k]? = some l →
        ∃ r p code, c.contract.registry[k]? = some r ∧ r.language = l.language ∧
          c.plans[k]? = some p ∧ p.language = l.language ∧
          Code.localizer s.integer r p = .ok code ∧
          files[k + 1]? = some ⟨r.module ++ ".rs", Code.fileText s code.code⟩ := by
  refine ⟨exists_code hc, exists_files_iff hc, fun files hfiles => ?_⟩
  obtain ⟨general, rest, rfl, hgeneral, hrest⟩ := files_eq_ok.1 hfiles
  have hsettings := settings_eq hc
  have hentries := forall₂_isEntry hc
  refine ⟨?_, nodup_names hc hfiles, ?_, fun k l hl => ?_⟩
  · rw [List.length_cons, ← hrest.length_eq, ← hentries.length_eq]
  · obtain ⟨i, hi, -, rfl⟩ := renderInterface_eq_ok.1 hgeneral
    rw [hsettings] at hi ⊢
    exact ⟨i, hi, rfl⟩
  · obtain ⟨⟨r, p⟩, hentry, his⟩ := exists_getElem?_of_forall₂ hentries hl
    obtain ⟨f, hf, hrendered⟩ := exists_getElem?_of_forall₂ hrest hentry
    obtain ⟨code, hcode, -, rfl⟩ := renderLocalizer_eq_ok.1 hrendered
    rw [hsettings] at hcode hf
    obtain ⟨hr, hp⟩ := List.getElem?_zip_eq_some.1 hentry
    refine ⟨r, p, code, hr, (Contract.register_eq_ok.1 his.registration).1, hp, ?_, hcode, ?_⟩
    · exact (Localization.lower_eq_ok his.plan).1
    · rw [List.getElem?_cons_succ]
      exact hf

end Compiled

theorem files_eq_letters : ∃ c, (compile {} lettersTwice).result = .ok c ∧
    ∃ files, c.files.result = .ok files ∧ files.length = 3 ∧ (files.map (·.name)).Nodup := by
  obtain ⟨c, hc, -⟩ := exists_compiled_lettersTwice
  have htypes : ∀ l ∈ lettersTwice, ∀ m ∈ l.messages, ∀ a ∈ m.arguments, a.type.isType := by
    simp [lettersTwice, letters, inbox, ArgType.isType]
  obtain ⟨-, hexists, hfiles⟩ := Compiled.files_eq hc
  obtain ⟨files, hok⟩ := hexists.2 ((Compiled.readable_iff hc).2 htypes)
  obtain ⟨hlength, hnodup, -⟩ := hfiles files hok
  exact ⟨c, hc, files, hok, hlength, hnodup⟩

end Phrasebook
