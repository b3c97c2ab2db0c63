import Phrasebook.Compiler
import Phrasebook.Proofs.Plan.Lowering

set_option autoImplicit false

/-! # When compilation succeeds

Compilation succeeds if validation finds nothing and the localizations have the same messages
(`compile_eq_ok`). Once validation has passed, no other error is left than a difference between a
localization and the reference, and errors are never nested
(`compile_of_validate_eq_nil`). -/

namespace Phrasebook

/-! ## Errors and their parts -/

namespace CompileError

/-- The errors that an error is made of. -/
def members : CompileError → List CompileError
  | .aggregate es => es
  | e => [e]

/-- No error inside another one has errors inside. -/
def IsFlat (e : CompileError) : Prop :=
  ∀ e' ∈ e.members, ∀ es, e' ≠ .aggregate es

/-- A message is missing, or there is one too many, or it has other arguments. -/
def IsDifference : CompileError → Prop
  | .schema ⟨_, .missingMessage _⟩ => True
  | .schema ⟨_, .unexpectedMessage _⟩ => True
  | .schema ⟨_, .signatureMismatch _ _⟩ => True
  | _ => False

/-- There is a difference to report, and nothing else. -/
def OnlyDifferences (e : CompileError) : Prop :=
  e.members ≠ [] ∧ ∀ e' ∈ e.members, e'.IsDifference

theorem check_eq_error {es : List CompileError} {e : CompileError} :
    check es = .error e ↔ ofList? es = some e := by
  rcases es with _ | ⟨d, _ | ⟨d', ds⟩⟩ <;> simp [check, ofList?]

/-- What is put together can be taken apart again. -/
theorem members_of_checkSchema_eq_error {es : List SchemaError} {e : CompileError}
    (h : checkSchema es = .error e) : e.members = es.map .schema ∧ es ≠ [] := by
  rw [checkSchema, check_eq_error] at h
  rcases es with _ | ⟨d, _ | ⟨d', ds⟩⟩
  · cases h
  · cases h
    exact ⟨rfl, by simp⟩
  · cases h
    exact ⟨rfl, by simp⟩

theorem isFlat_of_members {e : CompileError} {es : List SchemaError}
    (h : e.members = es.map .schema) : e.IsFlat := by
  intro e' he' inner heq
  rw [h] at he'
  obtain ⟨d, -, rfl⟩ := List.mem_map.1 he'
  cases heq

theorem OnlyDifferences.isFlat {e : CompileError} (h : e.OnlyDifferences) : e.IsFlat := by
  intro e' he' inner heq
  have hdifference := h.2 e' he'
  rw [heq] at hdifference
  exact hdifference

end CompileError

/-! ## The contract -/

namespace Contract

/-- What a localization says about a method is a difference. -/
theorem isDifference_of_mem_differences {reference : String} {methods : List Method}
    {l : Localization} {e : SchemaError} (h : e ∈ differences reference methods l) :
    (CompileError.schema e).IsDifference := by
  unfold differences at h
  rcases List.mem_append.1 h with h | h
  · obtain ⟨method, -, hmethod⟩ := List.mem_flatMap.1 h
    obtain ⟨v, hv, rfl⟩ := List.mem_map.1 hmethod
    unfold methodViolations at hv
    split at hv
    · rw [List.mem_singleton.1 hv]
      trivial
    · split at hv
      · cases hv
      · rw [List.mem_singleton.1 hv]
        trivial
  · obtain ⟨m, -, rfl⟩ := List.mem_map.1 h
    trivial

theorem register_eq_ok {l : Localization} {r : Registration} :
    register l = .ok r ↔
      r.language = l.language ∧ moduleName l.language = .ok r.module ∧
        typeName l.language = .ok r.type := by
  unfold register
  rw [bind_eq_ok]
  constructor
  · rintro ⟨⟨module, type⟩, hnames, heq⟩
    cases heq
    exact ⟨rfl, languageNames_eq_ok.1 (mapError_eq_ok.1 hnames)⟩
  · rintro ⟨hlanguage, hnames⟩
    refine ⟨(r.module, r.type), mapError_eq_ok.2 (languageNames_eq_ok.2 hnames), ?_⟩
    rw [← hlanguage]
    rfl

theorem exists_register {l : Localization} {width : IntegerWidth} (h : l.WellFormed width) :
    ∃ r, register l = .ok r := by
  obtain ⟨module, hmodule⟩ := h.module
  obtain ⟨type, htype⟩ := h.type
  exact ⟨⟨l.language, module, type⟩, register_eq_ok.2 ⟨rfl, hmodule, htype⟩⟩

theorem exists_methodsOf {l : Localization} {width : IntegerWidth} (h : l.WellFormed width) :
    ∃ methods, methodsOf l = .ok methods := by
  simp only [methodsOf, mapM_eq_ok]
  refine exists_forall₂ fun m hm => ?_
  obtain ⟨n, hn⟩ := h.methods.exists_name hm
  exact ⟨⟨m.name, n, m.arguments⟩, bind_eq_ok.2 ⟨n, mapError_eq_ok.2 hn, rfl⟩⟩

/-- Well-formed localizations are refused for their differences from the first. -/
theorem checkSchema_of_unify_eq_error {reference : Localization} {rest : List Localization}
    {width : IntegerWidth} {methods : List Method} {e : CompileError}
    (hls : ∀ l ∈ reference :: rest, l.WellFormed width)
    (hmethods : methodsOf reference = .ok methods)
    (h : (unify (reference :: rest)).result = .error e) :
    CompileError.checkSchema
      ((reference :: rest).flatMap (differences reference.language methods)) = .error e := by
  have herrors : (reference :: rest).flatMap (errorsOf reference.language methods) =
      (reference :: rest).flatMap (differences reference.language methods) := by
    refine List.flatMap_congr fun l hl => ?_
    obtain ⟨r, hr⟩ := exists_register (hls l hl)
    rw [errorsOf, hr, List.append_nil]
  simp only [unify, hmethods, Except.mapError, Traced.result_bind, Traced.result_liftM,
    ok_bind, herrors] at h
  cases hcheck : CompileError.checkSchema
      ((reference :: rest).flatMap (differences reference.language methods)) with
  | ok u =>
      rw [hcheck] at h
      cases h
  | error e' =>
      rw [hcheck] at h
      cases h
      rfl

/-- All that well-formed localizations can be at fault for is a difference. -/
theorem onlyDifferences_of_unify_eq_error {ls : List Localization} {width : IntegerWidth}
    {e : CompileError} (hne : ls ≠ []) (hls : ∀ l ∈ ls, l.WellFormed width)
    (h : (unify ls).result = .error e) : e.OnlyDifferences := by
  obtain ⟨reference, rest, rfl⟩ := List.exists_cons_of_ne_nil hne
  obtain ⟨methods, hmethods⟩ := exists_methodsOf (hls reference List.mem_cons_self)
  obtain ⟨hmembers, hsome⟩ := CompileError.members_of_checkSchema_eq_error
    (checkSchema_of_unify_eq_error hls hmethods h)
  refine ⟨by rw [hmembers]; simpa using hsome, fun e' he' => ?_⟩
  rw [hmembers] at he'
  obtain ⟨d, hd, rfl⟩ := List.mem_map.1 he'
  obtain ⟨l, -, hd⟩ := List.mem_flatMap.1 hd
  exact isDifference_of_mem_differences hd

theorem errorsOf_eq_nil_iff {reference : String} {methods : List Method} {l : Localization} :
    errorsOf reference methods l = [] ↔
      differences reference methods l = [] ∧ ∃ r, register l = .ok r := by
  rw [errorsOf, List.append_eq_nil_iff]
  cases register l <;> simp

/-- A contract has the methods of the first localization, from which no other differs, and the
languages are registered in the order they come in. -/
theorem unify_cons_eq_ok {reference : Localization} {rest : List Localization} {c : Contract} :
    (unify (reference :: rest)).result = .ok c ↔
      c.reference = reference.language ∧ methodsOf reference = .ok c.methods ∧
        (∀ l ∈ reference :: rest, differences reference.language c.methods l = []) ∧
        List.Forall₂ (fun l r => register l = .ok r) (reference :: rest) c.registry := by
  simp only [unify, Traced.result_bind, Traced.result_liftM, bind_eq_ok, mapError_eq_ok]
  constructor
  · rintro ⟨methods, hmethods, _, hcheck, _, -, heq⟩
    cases heq
    have hnone := fun l hl =>
      errorsOf_eq_nil_iff.1 (List.flatMap_eq_nil_iff.1 (checkSchema_eq_ok.1 hcheck) l hl)
    obtain ⟨rs, hrs⟩ := exists_forall₂ fun l hl => (hnone l hl).2
    rw [partitionResults_of_forall₂ (List.forall₂_map_left_iff.2 hrs)]
    exact ⟨rfl, hmethods, fun l hl => (hnone l hl).1, hrs⟩
  · rintro ⟨hreference, hmethods, hnone, hrs⟩
    refine ⟨_, hmethods, (), checkSchema_eq_ok.2 ?_, (), rfl, ?_⟩
    · refine List.flatMap_eq_nil_iff.2 fun l hl => errorsOf_eq_nil_iff.2 ⟨hnone l hl, ?_⟩
      obtain ⟨r, -, hr⟩ := exists_of_forall₂_left hrs hl
      exact ⟨r, hr⟩
    · rw [partitionResults_of_forall₂ (List.forall₂_map_left_iff.2 hrs), ← hreference]
      rfl

theorem unify_eq_ok {ls : List Localization} {c : Contract} (h : (unify ls).result = .ok c) :
    List.Forall₂ (fun l r => register l = .ok r) ls c.registry := by
  cases ls with
  | nil => cases h
  | cons reference rest => exact (unify_cons_eq_ok.1 h).2.2.2

end Contract

/-! ## Compilation -/

theorem result_mapM_attempt {σ ε α β : Type} (f : α → Traced σ ε β) (as : List α) :
    (as.mapM fun a => (f a).attempt).result = .ok (as.map fun a => (f a).result) := by
  induction as with
  | nil => rfl
  | cons a as ih =>
      rw [List.mapM_cons, Traced.result_bind]
      simp only [Traced.attempt, ok_bind, Traced.result_bind] at ih ⊢
      rw [ih]
      rfl

theorem result_compileOne (s : Settings) (l : Localization) :
    (compileOne s l).result = (l.lower s.integer).result := by
  unfold compileOne
  rw [Traced.result_bind]
  cases (l.lower s.integer).result <;> rfl

/-- Past validation there are plans for all localizations, and the contract decides. -/
theorem result_compile {s : Settings} {ls : List Localization} (hne : ls ≠ [])
    (hvalid : validate s.integer ls = []) :
    ∃ plans, List.Forall₂ (fun l p => (l.lower s.integer).result = .ok p) ls plans ∧
      (compile s ls).result = (Contract.unify ls).result.map
        fun contract => { settings := s, contract, plans } := by
  obtain ⟨plans, hplans⟩ : ∃ plans,
      List.Forall₂ (fun l p => (l.lower s.integer).result = .ok p) ls plans :=
    exists_forall₂ fun l hl => Localization.exists_lower ((validate_eq_nil_iff.1 hvalid).2 l hl)
  have hresults : partitionResults (ls.map fun l => (compileOne s l).result) = ([], plans) := by
    refine partitionResults_of_forall₂ (List.forall₂_map_left_iff.2 ?_)
    exact hplans.imp fun l p hp => by rw [result_compileOne, hp]
  have hempty : ls.isEmpty = false := by simpa using hne
  refine ⟨plans, hplans, ?_⟩
  simp only [compile, hempty, hvalid, Bool.false_eq_true, if_false, CompileError.checkSchema,
    List.map_nil, Traced.result_bind, ok_bind, result_mapM_attempt]
  simp only [Traced.attempt, Traced.result_liftM, ok_bind]
  cases hunify : (Contract.unify ls).result with
  | error e =>
      simp only [hresults, Except.map]
      rfl
  | ok contract =>
      simp only [hresults, Except.map]
      rfl

theorem validate_eq_nil_of_compile_eq_ok {s : Settings} {ls : List Localization} {c : Compiled}
    (h : (compile s ls).result = .ok c) : ls ≠ [] ∧ validate s.integer ls = [] := by
  unfold compile at h
  cases ls with
  | nil => cases h
  | cons l ls =>
      refine ⟨by simp, ?_⟩
      simp only [List.isEmpty_cons, Bool.false_eq_true, if_false, Traced.result_bind,
        bind_eq_ok] at h
      obtain ⟨_, hvalid, -⟩ := h
      exact checkSchema_eq_ok.1 hvalid

/-- What has been compiled has been validated, and consists of a plan for each localization and of
what they have in common. -/
theorem compile_eq_ok {s : Settings} {ls : List Localization} {c : Compiled} :
    (compile s ls).result = .ok c ↔
      (ls ≠ [] ∧ validate s.integer ls = []) ∧ c.settings = s ∧
        (Contract.unify ls).result = .ok c.contract ∧
        List.Forall₂ (fun l p => (l.lower s.integer).result = .ok p) ls c.plans := by
  constructor
  · intro h
    have hvalid := validate_eq_nil_of_compile_eq_ok h
    obtain ⟨plans, hplans, hcompile⟩ := result_compile hvalid.1 hvalid.2
    rw [hcompile] at h
    cases hunify : (Contract.unify ls).result with
    | error e => simp [hunify, Except.map] at h
    | ok contract =>
        rw [hunify] at h
        cases h
        exact ⟨hvalid, rfl, rfl, hplans⟩
  · rintro ⟨hvalid, rfl, hunify, hcplans⟩
    obtain ⟨plans, hplans, hcompile⟩ := result_compile hvalid.1 hvalid.2
    have hsame : plans = c.plans := by
      refine List.right_unique_forall₂' ?_ hplans hcplans
      intro l p q hp hq
      rw [hp] at hq
      cases hq
      rfl
    rw [hcompile, hunify, hsame]
    rfl

theorem Compiled.settings_eq {s : Settings} {ls : List Localization} {c : Compiled}
    (hc : (compile s ls).result = .ok c) : c.settings = s :=
  (compile_eq_ok.1 hc).2.1

theorem Compiled.wellFormed {s : Settings} {ls : List Localization} {c : Compiled}
    (hc : (compile s ls).result = .ok c) {l : Localization} (hl : l ∈ ls) :
    l.WellFormed s.integer :=
  (validate_eq_nil_iff.1 (compile_eq_ok.1 hc).1.2).2 l hl

theorem Compiled.languages_eq {s : Settings} {ls : List Localization} {c : Compiled}
    (hc : (compile s ls).result = .ok c) : c.languages = ls.map (·.language) := by
  obtain ⟨-, -, hunify, -⟩ := compile_eq_ok.1 hc
  exact (map_eq_map_of_forall₂ (Contract.unify_eq_ok hunify)
    fun l r hr => (Contract.register_eq_ok.1 hr).1.symm).symm

theorem Compiled.nodup_languages {s : Settings} {ls : List Localization} {c : Compiled}
    (hc : (compile s ls).result = .ok c) : c.languages.Nodup := by
  obtain ⟨⟨-, hvalid⟩, -⟩ := compile_eq_ok.1 hc
  rw [languages_eq hc]
  exact (validate_eq_nil_iff.1 hvalid).1.nodup_map fun l l' h => by rw [h]

theorem Compiled.map_language_plans {s : Settings} {ls : List Localization} {c : Compiled}
    (hc : (compile s ls).result = .ok c) : c.plans.map (·.language) = c.languages := by
  obtain ⟨-, -, -, hplans⟩ := compile_eq_ok.1 hc
  rw [languages_eq hc]
  exact (map_eq_map_of_forall₂ hplans fun l p hp => (Localization.lower_eq_ok hp).1.symm).symm

/-- A language that has been compiled is found again, with its own plan. -/
theorem Compiled.exists_planOf? {s : Settings} {ls : List Localization} {c : Compiled}
    (hc : (compile s ls).result = .ok c) {l : Localization} (hl : l ∈ ls) :
    ∃ p, c.planOf? l.language = some p ∧ (l.lower s.integer).result = .ok p := by
  obtain ⟨-, -, -, hplans⟩ := compile_eq_ok.1 hc
  obtain ⟨p, hpmem, hp⟩ := exists_of_forall₂_left hplans hl
  refine ⟨p, ?_, hp⟩
  rw [← (Localization.lower_eq_ok hp).1]
  exact find?_eq_some_of_nodup (map_language_plans hc ▸ nodup_languages hc) hpmem

/-- A plan that is found is that of a localization, and stands next to its registration. -/
theorem Compiled.exists_localization_of_planOf? {s : Settings} {ls : List Localization}
    {c : Compiled} (hc : (compile s ls).result = .ok c) {language : String} {p : Plan}
    (h : c.planOf? language = some p) :
    ∃ l ∈ ls, l.language = language ∧ (l.lower s.integer).result = .ok p ∧
      ∃ r, (r, p) ∈ c.contract.registry.zip c.plans ∧ Contract.register l = .ok r := by
  obtain ⟨-, -, hunify, hplans⟩ := compile_eq_ok.1 hc
  have hpairs : List.Forall₂ (fun r p => ∃ l ∈ ls, Contract.register l = .ok r ∧
      (l.lower s.integer).result = .ok p) c.contract.registry c.plans :=
    forall₂_of_common (Contract.unify_eq_ok hunify) hplans
      fun l hl r p hr hp => ⟨l, hl, hr, hp⟩
  obtain ⟨hlength, hpair⟩ := List.forall₂_iff_zip.1 hpairs
  obtain ⟨r, -, hmem⟩ := exists_of_forall₂_right (List.forall₂_iff_zip.2 ⟨hlength, id⟩)
    (List.mem_of_find?_eq_some h)
  obtain ⟨l, hl, hr, hp⟩ := hpair hmem
  refine ⟨l, hl, ?_, hp, r, hmem, hr⟩
  rw [← (Localization.lower_eq_ok hp).1]
  simpa using List.find?_some h

/-- Errors are never nested. Lowering has none to add once validation has passed, so that the
contract's are reported as they are. -/
theorem isFlat_of_compile_eq_error {s : Settings} {ls : List Localization} {e : CompileError}
    (h : (compile s ls).result = .error e) : e.IsFlat := by
  by_cases hne : ls = []
  · subst hne
    cases h
    simp [CompileError.IsFlat, CompileError.members]
  by_cases hvalid : validate s.integer ls = []
  · obtain ⟨plans, -, hcompile⟩ := result_compile hne hvalid
    rw [hcompile] at h
    cases hunify : (Contract.unify ls).result with
    | ok contract => simp [hunify, Except.map] at h
    | error e' =>
        rw [hunify] at h
        cases h
        exact (Contract.onlyDifferences_of_unify_eq_error hne (validate_eq_nil_iff.1 hvalid).2
          hunify).isFlat
  · have hempty : ls.isEmpty = false := by simpa using hne
    simp only [compile, hempty, Bool.false_eq_true, if_false, Traced.result_bind,
      Traced.result_liftM] at h
    cases hcheck : CompileError.checkSchema (validate s.integer ls) with
    | ok u => exact absurd (checkSchema_eq_ok.1 hcheck) hvalid
    | error e' =>
        simp only [hcheck, error_bind] at h
        cases h
        exact CompileError.isFlat_of_members
          (CompileError.members_of_checkSchema_eq_error hcheck).1

/-- If validation finds nothing, every localization can be lowered, and all that may still be wrong
is that localizations differ in their messages. Whatever is wrong, errors are never nested. -/
theorem compile_of_validate_eq_nil (s : Settings) (ls : List Localization) :
    (ls ≠ [] → validate s.integer ls = [] →
      (∀ l ∈ ls, ∃ p, (l.lower s.integer).result = .ok p) ∧
      (∀ e, (Contract.unify ls).result = .error e → e.OnlyDifferences) ∧
      ((∃ c, (compile s ls).result = .ok c) ∨
        ∃ e, (compile s ls).result = .error e ∧ e.OnlyDifferences)) ∧
    ∀ e, (compile s ls).result = .error e → e.IsFlat := by
  refine ⟨fun hne hvalid => ?_, fun e he => isFlat_of_compile_eq_error he⟩
  have hls := (validate_eq_nil_iff.1 hvalid).2
  have hunify := fun e => Contract.onlyDifferences_of_unify_eq_error (e := e) hne hls
  refine ⟨fun l hl => Localization.exists_lower (hls l hl), hunify, ?_⟩
  obtain ⟨plans, -, hcompile⟩ := result_compile hne hvalid
  rw [hcompile]
  cases hresult : (Contract.unify ls).result with
  | ok contract => exact .inl ⟨_, rfl⟩
  | error e => exact .inr ⟨e, rfl, hunify e hresult⟩

/-! ## An example -/

/-- How many letters a user has got. -/
def inbox (one other : String) : Message :=
  { name := "inbox"
    arguments := [⟨"user name", .text⟩, ⟨"count", .integer⟩]
    template := .plain [.argument "user name" none, .literal ": ", .var "items"]
    vars := [
      { name := "items"
        arguments := ["count"]
        template := .plural
          { argument := "count"
            one := some [.literal one]
            other := some [.argument "count" none, .literal other] } }] }

def letters (language one other : String) : Localization :=
  { language, messages := [inbox one other] }

theorem inbox_wellFormed (one other : String) : (inbox one other).WellFormed .signed where
  parameters := ⟨["user_name", "count"],
    .cons (by decide +kernel) (.cons (by decide +kernel) .nil), by decide⟩
  types := by simp [inbox]
  received := by simp [inbox]
  template := by
    simp [inbox, Message.TemplateOk, Message.BodyOk, Message.PartOk, Visible,
      Message.argumentNamed?, Message.variableNamed?, Format.Rendering.resolve]
  templates := by
    intro v hv
    rw [List.mem_singleton.1 hv]
    refine ⟨List.cons_ne_nil _ _, ?_, .inl rfl, ?_⟩
    · exact ⟨⟨"count", .integer⟩, rfl, by simp [Visible], rfl⟩
    · simp [Plural.branches, Category.all, Plural.branch?, Message.BodyOk, Message.PartOk, inbox,
        Message.argumentNamed?, Visible, Format.Rendering.resolve]
  acyclic := by
    refine Message.acyclic_of_varRefs_eq_nil fun v hv => ?_
    rw [List.mem_singleton.1 hv]
    rfl

theorem letters_wellFormed {language : String} (one other : String)
    (hmodule : ∃ n, moduleName language = .ok n) (htype : ∃ n, typeName language = .ok n) :
    (letters language one other).WellFormed .signed where
  module := hmodule
  type := htype
  methods := by
    have hname : methodName "inbox" = .ok "inbox" := by decide +kernel
    exact ⟨["inbox"], .cons hname .nil, by decide⟩
  functions := by
    have hname : auxiliaryName "inbox" "items" = .ok "inbox_items" := by decide +kernel
    exact ⟨["inbox_items"], .cons hname .nil, by decide⟩
  messages := fun m hm => List.mem_singleton.1 hm ▸ inbox_wellFormed one other

/-- English and German. -/
def lettersTwice : List Localization :=
  [letters "en" "one letter" " letters", letters "de" "ein Brief" " Briefe"]

theorem validate_lettersTwice : validate .signed lettersTwice = [] := by
  refine validate_eq_nil_iff.2 ⟨⟨["en", "de"], ?_, by decide⟩, fun l hl => ?_⟩
  · exact .cons (by decide +kernel) (.cons (by decide +kernel) .nil)
  · rcases List.mem_pair.1 hl with rfl | rfl
    · exact letters_wellFormed _ _ ⟨"en", by decide +kernel⟩ ⟨"EnLocalizer", by decide +kernel⟩
    · exact letters_wellFormed _ _ ⟨"de", by decide +kernel⟩ ⟨"DeLocalizer", by decide +kernel⟩

/-- Values for the arguments, in another order than they are declared in. -/
def threeForAnn : Values := [("count", .integer 3), ("user name", .text "Ann")]

theorem evaluate_letters : ((letters "de" "ein Brief" " Briefe").lower .signed).result.toOption.map
    (·.evaluate .signed "inbox" threeForAnn) = some (.ok "Ann: 3 Briefe") := by
  have hreferenced : (inbox "ein Brief" " Briefe").referenced = ["items"] := by
    show (inbox "ein Brief" " Briefe").reach [] ["items"] = ["items"]
    rw [Message.reach_of_named List.not_mem_nil rfl]
    show Message.reach _ ["items"] [] = ["items"]
    rw [Message.reach]
  have hvars : (inbox "ein Brief" " Briefe").vars = [
      { name := "items"
        arguments := ["count"]
        template := .plural
          { argument := "count"
            one := some [.literal "ein Brief"]
            other := some [.argument "count" none, .literal " Briefe"] } }] := rfl
  simp only [Localization.lower, letters, List.map, Message.lower]
  rw [hvars]
  simp only [Message.variableFunctions, hreferenced]
  decide +kernel

theorem exists_compiled_lettersTwice : ∃ c, (compile {} lettersTwice).result = .ok c ∧
    c.evaluate "de" "inbox" threeForAnn = .ok "Ann: 3 Briefe" := by
  have hne : lettersTwice ≠ [] := List.cons_ne_nil _ _
  obtain ⟨plans, -, hcompile⟩ := result_compile (s := {}) hne validate_lettersTwice
  have hunify : (Contract.unify lettersTwice).result.toOption.isSome := by decide +kernel
  cases hcontract : (Contract.unify lettersTwice).result with
  | error e => simp [hcontract, Except.toOption] at hunify
  | ok contract =>
      rw [hcontract] at hcompile
      refine ⟨_, hcompile, ?_⟩
      obtain ⟨p, hplan, hp⟩ := Compiled.exists_planOf? hcompile
        (List.mem_cons_of_mem (letters "en" "one letter" " letters") List.mem_cons_self)
      have htext := evaluate_letters
      rw [show ((letters "de" "ein Brief" " Briefe").lower .signed).result = .ok p from hp] at htext
      have hevaluate : p.evaluate .signed "inbox" threeForAnn = .ok "Ann: 3 Briefe" := by
        simpa [Except.toOption] using htext
      rw [Compiled.evaluate, show (Compiled.planOf? _ "de") = some p from hplan]
      exact hevaluate

/-- Both languages can be compiled together; two without a name give two errors side by side. -/
theorem compile_lettersTwice :
    (lettersTwice ≠ [] ∧ validate .signed lettersTwice = [] ∧
      (∀ l ∈ lettersTwice, ∃ p, (l.lower .signed).result = .ok p) ∧
      ((∃ c, (compile {} lettersTwice).result = .ok c) ∨
        ∃ e, (compile {} lettersTwice).result = .error e ∧ e.OnlyDifferences)) ∧
    ∃ e, (compile {} [⟨"", []⟩, ⟨"", []⟩]).result = .error e ∧ e.members.length = 2 ∧
      e.IsFlat := by
  constructor
  · have h := (compile_of_validate_eq_nil {} lettersTwice).1 (List.cons_ne_nil _ _)
      validate_lettersTwice
    exact ⟨List.cons_ne_nil _ _, validate_lettersTwice, h.1, h.2.2⟩
  · have h : (match (compile {} [⟨"", []⟩, ⟨"", []⟩]).result with
        | .error e => e.members.length
        | .ok _ => 0) = 2 := by decide +kernel
    split at h
    · next e he => exact ⟨e, he, h, (compile_of_validate_eq_nil {} [⟨"", []⟩, ⟨"", []⟩]).2 e he⟩
    · cases h

end Phrasebook
