import Phrasebook.Proofs.Code.Emission
import Phrasebook.Proofs.Contract.Conformance
import Phrasebook.Proofs.Text.Word

set_option autoImplicit false

/-! # From a language to its localizer and back

The interface has a table in which a language is looked up to get its localizer, and a series of
tests that tell the language of a localizer by its type. Languages are kept apart by the names of
their modules, so that the first search always finds the localizer of the language. The second one
goes by the names of the types, in which words are joined by capitals and not by underscores: it
leads back to every language if and only if no two of them are the same in capitals
(`Compiled.languageOf_localizerFor`). A word that starts with a letter shows its capital, and for
languages of such words nothing can go wrong; but a number is a word as well
(`languageOf_lettersAlike`). The plans themselves are told apart by where they stand
(`Compiled.positionOf?_eq_some_iff`). -/

namespace Phrasebook

/-! ## Searches -/

namespace Code.InterfaceCode

/-- The type of the localizer that the table has for a language. -/
def localizerFor? (i : InterfaceCode) (language : String) : Option String :=
  (i.languages.find? (·.language == language)).map (·.type)

/-- The language that the tests tell for a type of localizer: the first one that has the type. -/
def languageOf (i : InterfaceCode) (type : String) : String :=
  ((i.languages.find? (·.type == type)).map (·.language)).getD ""

variable {i : InterfaceCode}

theorem localizerFor?_eq_some (h : (i.languages.map (·.language)).Nodup) {r : Registration}
    (hr : r ∈ i.languages) : i.localizerFor? r.language = some r.type := by
  rw [localizerFor?, find?_eq_some_of_nodup h hr, Option.map_some]

/-- The tests lead back to every language if they are for different types. -/
theorem languageOf_eq_iff (h : (i.languages.map (·.language)).Nodup) :
    (∀ r ∈ i.languages, i.languageOf r.type = r.language) ↔
      (i.languages.map (·.type)).Nodup := by
  constructor
  · intro hback
    refine List.Nodup.map_on (fun r hr r' hr' htype => ?_) (List.Nodup.of_map _ h)
    -- There is one answer for a type, so that it cannot be right for two languages.
    have hlanguage : r.language = r'.language := by
      rw [← hback r hr, ← hback r' hr', htype]
    exact List.inj_on_of_nodup_map h hr hr' hlanguage
  · intro htypes r hr
    rw [languageOf, find?_eq_some_of_nodup htypes hr]
    rfl

end Code.InterfaceCode

/-! ## The interface can be written -/

namespace Code

theorem exists_signature {m : Message} {width : IntegerWidth} {method : Method}
    (w : IntegerWidth) (reference : String) (hm : m.WellFormed width)
    (hmethod : Contract.IsMethod (m.name, m.arguments) method) :
    ∃ code, signature w reference method = .ok code := by
  have hname := identifier_of_isIdentifier (isIdentifier_of_methodName hmethod.name)
  have hparam : ∀ a ∈ method.arguments, ∃ x : Parameter,
      (do
        let raw ← (parameterName a.name).mapError fun v =>
          CompileError.schema ⟨.inMessage reference method.message, v⟩
        return { name := ← identifier raw, type := ← parameterType w a.type : Parameter }) =
        .ok x := by
    intro a ha
    rw [hmethod.arguments] at ha
    obtain ⟨n, hn⟩ := hm.parameters.exists_name ha
    obtain ⟨type, htype⟩ := exists_parameterType hm ha w
    refine ⟨⟨n, type⟩, ?_⟩
    rw [mapError_eq_ok.2 hn, ok_bind,
      identifier_of_isIdentifier (isParameterName_of_parameterName hn).identifier, ok_bind, htype]
    rfl
  obtain ⟨params, hparams⟩ := exists_forall₂ hparam
  refine ⟨⟨method.message, method.name, params⟩, ?_⟩
  rw [signature, hname, ok_bind, mapM_eq_ok.2 hparams]
  rfl

/-- An interface has the languages under the names that they are registered with. -/
theorem interface_eq_ok {s : Settings} {c : Contract} {methods : List SignatureCode}
    (hmodules : ∀ r ∈ c.registry, Text.isIdentifier r.module)
    (htypes : ∀ r ∈ c.registry, Text.isIdentifier r.type)
    (hmethods : c.methods.mapM (signature s.integer c.reference) = .ok methods) :
    interface s c = .ok { module := s.module, languages := c.registry, methods } := by
  have hall : ∀ {name : Registration → String}, (∀ r ∈ c.registry, Text.isIdentifier (name r)) →
      c.registry.mapM (fun r => identifier (name r)) = .ok (c.registry.map name) := by
    intro name hname
    refine mapM_eq_ok.2 (List.forall₂_map_right_iff.2 (List.forall₂_same.2 fun r hr => ?_))
    exact identifier_of_isIdentifier (hname r hr)
  rw [interface, hall hmodules, ok_bind, hall htypes, ok_bind, hmethods, ok_bind, pure_eq_ok]
  congr 2
  -- What is left is that the names, taken apart and checked, are put together again.
  induction c.registry with
  | nil => rfl
  | cons r rs ih => exact congrArg (r :: ·) ih

end Code

theorem Compiled.exists_interface_with {s : Settings} {ls : List Localization} {c : Compiled}
    (hc : (compile s ls).result = .ok c) (t : Settings) :
    ∃ i, Code.interface t c.contract = .ok i ∧ i.languages = c.contract.registry := by
  obtain ⟨⟨-, hvalid⟩, -, hunify, -⟩ := compile_eq_ok.1 hc
  have hls := (validate_eq_nil_iff.1 hvalid).2
  have hregistry := Contract.unify_eq_ok hunify
  obtain ⟨reference, hreference, hmethods, -⟩ := Contract.forall₂_isMethod_of_unify hls hunify
  have hnames : ∀ r ∈ c.contract.registry,
      Text.isIdentifier r.module ∧ Text.isIdentifier r.type := by
    intro r hr
    obtain ⟨l, -, hlr⟩ := exists_of_forall₂_right hregistry hr
    obtain ⟨-, hmodule, htype⟩ := Contract.register_eq_ok.1 hlr
    exact ⟨isIdentifier_of_moduleName hmodule, isIdentifier_of_typeName htype⟩
  obtain ⟨signatures, hsignatures⟩ : ∃ signatures, List.Forall₂
      (fun m x => Code.signature t.integer c.contract.reference m = .ok x)
      c.contract.methods signatures := by
    refine exists_forall₂ fun method hmethod => ?_
    obtain ⟨signature, hmem, his⟩ := exists_of_forall₂_right hmethods hmethod
    obtain ⟨m, hm, rfl⟩ := List.mem_map.1 hmem
    exact Code.exists_signature _ _ ((hls reference hreference).messages m hm) his
  exact ⟨_, Code.interface_eq_ok (fun r hr => (hnames r hr).1) (fun r hr => (hnames r hr).2)
    (mapM_eq_ok.2 hsignatures), rfl⟩

theorem Compiled.exists_interface {s : Settings} {ls : List Localization} {c : Compiled}
    (hc : (compile s ls).result = .ok c) :
    ∃ i, Code.interface s c.contract = .ok i ∧ i.languages = c.contract.registry :=
  exists_interface_with hc s

/-! ## Names of languages -/

section

variable {s : Settings} {ls : List Localization} {c : Compiled}

theorem Compiled.nodup_modules (hc : (compile s ls).result = .ok c) :
    (c.contract.registry.map (·.module)).Nodup := by
  obtain ⟨⟨-, hvalid⟩, -, hunify, -⟩ := compile_eq_ok.1 hc
  refine (validate_eq_nil_iff.1 hvalid).1.nodup_of_forall₂ ?_
  exact (Contract.unify_eq_ok hunify).imp fun l r hr => (Contract.register_eq_ok.1 hr).2.1

/-- Types are different if the languages are, in capitals. -/
theorem Compiled.nodup_types_iff (hc : (compile s ls).result = .ok c) :
    (c.contract.registry.map (·.type)).Nodup ↔
      (ls.map fun l => Text.camelCase l.language).Nodup := by
  obtain ⟨-, -, hunify, -⟩ := compile_eq_ok.1 hc
  have htypes : (ls.map fun l => Text.camelCase l.language).map (· ++ traitName) =
      c.contract.registry.map (·.type) := by
    rw [List.map_map]
    exact map_eq_map_of_forall₂ (Contract.unify_eq_ok hunify)
      fun l r hr => (typeName_eq_ok (Contract.register_eq_ok.1 hr).2.2).1.symm
  have hinjective : Function.Injective (· ++ traitName) :=
    fun a b h => (String.append_left_inj traitName).1 h
  rw [← htypes, List.nodup_map_iff hinjective]

/-- Words that start with letters are the same in capitals only if they are the same with
underscores. -/
theorem nodup_camelCase_of_isLettered {width : IntegerWidth} (hvalid : validate width ls = [])
    (h : ∀ l ∈ ls, Text.isLettered l.language) :
    (ls.map fun l => Text.camelCase l.language).Nodup := by
  have hmodules := (validate_eq_nil_iff.1 hvalid).1
  have hnodup : (ls.map (·.language)).Nodup := hmodules.nodup_map fun l l' heq => by rw [heq]
  refine List.Nodup.map_on (fun l hl l' hl' hcamel => ?_) (List.Nodup.of_map _ hnodup)
  have hsnake := Text.snakeCase_eq_of_camelCase_eq (h l hl) (h l' hl') hcamel
  obtain ⟨n, hn⟩ := hmodules.exists_name hl
  obtain ⟨n', hn'⟩ := hmodules.exists_name hl'
  have hsame : n' = n := by
    rw [(checkedName_eq_ok hn).1, (checkedName_eq_ok hn').1, hsnake]
  exact hmodules.eq_of_name_eq hl hl' hn (hsame ▸ hn')

/-- The plan of a language stands in one place, from which its language is told. -/
theorem Compiled.positionOf?_eq_some_iff (hc : (compile s ls).result = .ok c) {language : String}
    {i : Nat} : c.positionOf? language = some i ↔
      i < c.plans.length ∧ c.languageOf (some i) = language := by
  have hnodup : (c.plans.map (·.language)).Nodup := map_language_plans hc ▸ nodup_languages hc
  have htold : ∀ hi : i < c.plans.length, c.languageOf (some i) = c.plans[i].language := by
    intro hi
    simp [languageOf, hi]
  rw [positionOf?, List.findIdx?_eq_some_iff_getElem]
  constructor
  · rintro ⟨hi, hlanguage, -⟩
    exact ⟨hi, (htold hi).trans (eq_of_beq hlanguage)⟩
  · rintro ⟨hi, rfl⟩
    rw [htold hi]
    refine ⟨hi, beq_self_eq_true _, fun j hj hsame => Nat.ne_of_lt hj ?_⟩
    -- Two places for one language would be two plans for it.
    have hlt : ∀ {k}, k < c.plans.length → k < (c.plans.map (·.language)).length := by simp
    have hplaces : (c.plans.map (·.language)).get ⟨j, hlt (hj.trans hi)⟩ =
        (c.plans.map (·.language)).get ⟨i, hlt hi⟩ := by
      simpa using hsame
    exact congrArg Fin.val (hnodup.get_inj_iff.1 hplaces)

/-- Languages and modules all have different names. Types need not: their names are different if the
languages are in capitals, and these are the lists for which every language that is looked up is the
one that its localizer is then said to be for. -/
theorem Compiled.languageOf_localizerFor (hc : (compile s ls).result = .ok c) :
    (c.contract.registry.map (·.language)).Nodup ∧
      (c.contract.registry.map (·.module)).Nodup ∧
      ((c.contract.registry.map (·.type)).Nodup ↔
        (ls.map fun l => Text.camelCase l.language).Nodup) ∧
      ((∀ l ∈ ls, Text.isLettered l.language) → (c.contract.registry.map (·.type)).Nodup) ∧
      ∃ i, Code.interface s c.contract = .ok i ∧ i.languages = c.contract.registry ∧
        (∀ r ∈ c.contract.registry, i.localizerFor? r.language = some r.type) ∧
        ((∀ r ∈ c.contract.registry, i.languageOf r.type = r.language) ↔
          (c.contract.registry.map (·.type)).Nodup) := by
  obtain ⟨⟨-, hvalid⟩, -⟩ := compile_eq_ok.1 hc
  obtain ⟨i, hi, hlanguages⟩ := exists_interface hc
  have hnodup : (i.languages.map (·.language)).Nodup := hlanguages ▸ nodup_languages hc
  refine ⟨nodup_languages hc, nodup_modules hc, nodup_types_iff hc, fun hlettered => ?_, i, hi,
    hlanguages, ?_⟩
  · exact (nodup_types_iff hc).2 (nodup_camelCase_of_isLettered hvalid hlettered)
  · rw [← hlanguages]
    exact ⟨fun r hr => Code.InterfaceCode.localizerFor?_eq_some hnodup hr,
      Code.InterfaceCode.languageOf_eq_iff hnodup⟩

end

theorem languageOf_localizerFor_letters : ∃ c, (compile {} lettersTwice).result = .ok c ∧
    (c.contract.registry.map (·.type)).Nodup ∧
    ∃ i, Code.interface {} c.contract = .ok i ∧
      ∀ r ∈ c.contract.registry, i.localizerFor? r.language = some r.type ∧
        i.languageOf r.type = r.language := by
  obtain ⟨c, hc, -⟩ := exists_compiled_lettersTwice
  obtain ⟨-, -, -, htypes, i, hi, -, hforth, hback⟩ := Compiled.languageOf_localizerFor hc
  have hlettered : lettersTwice.all fun l => Text.isLettered l.language := by decide +kernel
  have hnodup := htypes (List.all_eq_true.1 hlettered)
  exact ⟨c, hc, hnodup, i, hi, fun r hr => ⟨hforth r hr, hback.2 hnodup r hr⟩⟩

/-! ## A number is a word -/

/-- Two languages that differ in a hyphen before a number. -/
def lettersAlike : List Localization :=
  [letters "de1" "ein Brief" " Briefe", letters "de-1" "ein Brief" " Briefe"]

theorem validate_lettersAlike : validate .signed lettersAlike = [] := by
  refine validate_eq_nil_iff.2 ⟨⟨["de1", "de_1"], ?_, by decide⟩, fun l hl => ?_⟩
  · exact .cons (by decide +kernel) (.cons (by decide +kernel) .nil)
  · rcases List.mem_pair.1 hl with rfl | rfl
    · exact letters_wellFormed _ _ ⟨"de1", by decide +kernel⟩ ⟨"De1Localizer", by decide +kernel⟩
    · exact letters_wellFormed _ _ ⟨"de_1", by decide +kernel⟩ ⟨"De1Localizer", by decide +kernel⟩

/-- The hyphen is lost in capitals, and the localizer of the second language is said to be for the
first. -/
theorem languageOf_lettersAlike : ∃ c, (compile {} lettersAlike).result = .ok c ∧
    c.contract.registry =
      [⟨"de1", "de1", "De1Localizer"⟩, ⟨"de-1", "de_1", "De1Localizer"⟩] ∧
    ∃ i, Code.interface {} c.contract = .ok i ∧
      i.localizerFor? "de-1" = some "De1Localizer" ∧ i.languageOf "De1Localizer" = "de1" := by
  obtain ⟨c, hc⟩ : ∃ c, (compile {} lettersAlike).result = .ok c := by
    refine exists_compile_eq_ok_iff.2
      ⟨List.cons_ne_nil _ _, validate_lettersAlike, fun l hl l' hl' => ?_⟩
    rcases List.mem_pair.1 hl with rfl | rfl <;> rcases List.mem_pair.1 hl' with rfl | rfl <;> rfl
  obtain ⟨-, -, hunify, -⟩ := compile_eq_ok.1 hc
  have hregistry : c.contract.registry =
      [⟨"de1", "de1", "De1Localizer"⟩, ⟨"de-1", "de_1", "De1Localizer"⟩] := by
    refine List.right_unique_forall₂' (fun l r r' hr hr' => Except.ok.inj (hr.symm.trans hr'))
      (Contract.unify_eq_ok hunify) (.cons ?_ (.cons ?_ .nil))
    · exact Contract.register_eq_ok.2 ⟨rfl, by decide +kernel, by decide +kernel⟩
    · exact Contract.register_eq_ok.2 ⟨rfl, by decide +kernel, by decide +kernel⟩
  obtain ⟨i, hi, hlanguages⟩ := Compiled.exists_interface hc
  refine ⟨c, hc, hregistry, i, hi, ?_, ?_⟩
  · rw [Code.InterfaceCode.localizerFor?, hlanguages, hregistry]
    rfl
  · rw [Code.InterfaceCode.languageOf, hlanguages, hregistry]
    rfl

end Phrasebook
