import Phrasebook.Proofs.Code.Emission
import Phrasebook.Proofs.Contract.Conformance

set_option autoImplicit false

/-! # The order of the localizations

The first localization is the reference, but any other would have done: what can be compiled can be
compiled in every order, the methods are the same, and a language gets the same plan, the same code
and the same texts (`compile_perm`). The argument is that each localization decides its registration
and its plan by itself, so that another order only changes the order of the entries
(`Compiled.entries_perm`), among which languages have names of their own. -/

namespace Phrasebook

/-- The registration and the plan of a localization. -/
structure Localization.IsEntry (width : IntegerWidth) (l : Localization)
    (e : Registration × Plan) : Prop where
  registration : Contract.register l = .ok e.1
  plan : (l.lower width).result = .ok e.2

theorem Localization.IsEntry.unique {width : IntegerWidth} {l : Localization}
    {e e' : Registration × Plan} (h : l.IsEntry width e) (h' : l.IsEntry width e') : e = e' :=
  Prod.ext (Except.ok.inj (h.registration.symm.trans h'.registration))
    (Except.ok.inj (h.plan.symm.trans h'.plan))

theorem Localization.IsEntry.typeName {width : IntegerWidth} {l : Localization}
    {e : Registration × Plan} (h : l.IsEntry width e) : typeName l.language = .ok e.1.type :=
  (Contract.register_eq_ok.1 h.registration).2.2

namespace Compiled

/-- The languages, each with its plan. -/
def entries (c : Compiled) : List (Registration × Plan) := c.contract.registry.zip c.plans

/-- The tokens of the file of a language. -/
def tokensOf? (c : Compiled) (language : String) :
    Option (Except CompileError (List Code.Token)) :=
  (c.entries.find? (·.1.language == language)).map fun e =>
    (Code.localizer c.settings.integer e.1 e.2).map (·.code.tokens)

section

variable {s : Settings} {ls : List Localization} {c : Compiled}

theorem forall₂_isEntry (hc : (compile s ls).result = .ok c) :
    List.Forall₂ (Localization.IsEntry s.integer) ls c.entries := by
  obtain ⟨-, -, hunify, hplans⟩ := compile_eq_ok.1 hc
  exact (forall₂_zip (Contract.unify_eq_ok hunify) hplans).imp fun l e he => ⟨he.1, he.2⟩

/-- Every entry is that of a localization. -/
theorem exists_localization_of_mem (hc : (compile s ls).result = .ok c) {e : Registration × Plan}
    (he : e ∈ c.entries) :
    ∃ l ∈ ls, l.WellFormed s.integer ∧ l.IsEntry s.integer e := by
  obtain ⟨l, hl, hentry⟩ := exists_of_forall₂_right (forall₂_isEntry hc) he
  exact ⟨l, hl, wellFormed hc hl, hentry⟩

theorem map_language_entries (hc : (compile s ls).result = .ok c) :
    c.entries.map (·.1.language) = c.languages := by
  rw [languages_eq hc]
  exact (map_eq_map_of_forall₂ (forall₂_isEntry hc)
    fun l e he => (Contract.register_eq_ok.1 he.registration).1.symm).symm

/-- Every language that has been compiled has a file. -/
theorem exists_tokensOf? (hc : (compile s ls).result = .ok c) {l : Localization} (hl : l ∈ ls) :
    ∃ tokens, c.tokensOf? l.language = some (.ok tokens) := by
  obtain ⟨⟨-, hvalid⟩, hsettings, -, -⟩ := compile_eq_ok.1 hc
  obtain ⟨e, hmem, he⟩ := exists_of_forall₂_left (forall₂_isEntry hc) hl
  obtain ⟨hlanguage, -, htype⟩ := Contract.register_eq_ok.1 he.registration
  obtain ⟨code, hcode, -⟩ :=
    Code.exists_localizer ((validate_eq_nil_iff.1 hvalid).2 l hl) he.plan htype
  have hnodup : (c.entries.map (·.1.language)).Nodup :=
    map_language_entries hc ▸ nodup_languages hc
  have hfind := find?_eq_some_of_nodup hnodup hmem
  rw [hlanguage] at hfind
  refine ⟨code.code.tokens, ?_⟩
  rw [tokensOf?, hfind, hsettings, Option.map_some, hcode, Except.map]

end

section

variable {s : Settings} {ls ls' : List Localization} {c c' : Compiled}

theorem entries_perm (h : ls.Perm ls') (hc : (compile s ls).result = .ok c)
    (hc' : (compile s ls').result = .ok c') : c.entries.Perm c'.entries :=
  perm_of_forall₂ (fun _ _ _ he he' => he.unique he') h (forall₂_isEntry hc) (forall₂_isEntry hc')

theorem plans_perm (h : ls.Perm ls') (hc : (compile s ls).result = .ok c)
    (hc' : (compile s ls').result = .ok c') : c.plans.Perm c'.plans := by
  obtain ⟨-, -, -, hplans⟩ := compile_eq_ok.1 hc
  obtain ⟨-, -, -, hplans'⟩ := compile_eq_ok.1 hc'
  exact perm_of_forall₂ (fun l p p' hp hp' => Except.ok.inj (hp.symm.trans hp')) h hplans hplans'

/-- Whichever localization is the reference, the methods are the same. -/
theorem methods_perm (h : ls.Perm ls') (hc : (compile s ls).result = .ok c)
    (hc' : (compile s ls').result = .ok c') : c.contract.methods.Perm c'.contract.methods := by
  obtain ⟨⟨-, hvalid⟩, -, hunify, -⟩ := compile_eq_ok.1 hc
  obtain ⟨⟨-, hvalid'⟩, -, hunify', -⟩ := compile_eq_ok.1 hc'
  obtain ⟨reference, -, hmethods, hperm⟩ :=
    Contract.forall₂_isMethod_of_unify (validate_eq_nil_iff.1 hvalid).2 hunify
  obtain ⟨reference', hreference', hmethods', -⟩ :=
    Contract.forall₂_isMethod_of_unify (validate_eq_nil_iff.1 hvalid').2 hunify'
  -- Each reference is a localization among the others, and has the signatures they all have.
  have hsignatures := hperm reference' (h.mem_iff.2 hreference')
  exact perm_of_forall₂ (fun _ _ _ hm hm' => hm.unique hm') hsignatures.symm hmethods hmethods'

theorem planOf?_eq_of_perm (h : ls.Perm ls') (hc : (compile s ls).result = .ok c)
    (hc' : (compile s ls').result = .ok c') (language : String) :
    c.planOf? language = c'.planOf? language :=
  find?_eq_of_perm (plans_perm h hc hc') (map_language_plans hc ▸ nodup_languages hc) language

theorem tokensOf?_eq_of_perm (h : ls.Perm ls') (hc : (compile s ls).result = .ok c)
    (hc' : (compile s ls').result = .ok c') (language : String) :
    c.tokensOf? language = c'.tokensOf? language := by
  rw [tokensOf?, tokensOf?, settings_eq hc, settings_eq hc',
    find?_eq_of_perm (entries_perm h hc hc') (map_language_entries hc ▸ nodup_languages hc)]

end

end Compiled

theorem exists_compile_eq_ok_of_perm {s : Settings} {ls ls' : List Localization}
    (h : ls.Perm ls') (hok : ∃ c, (compile s ls).result = .ok c) :
    ∃ c, (compile s ls').result = .ok c := by
  obtain ⟨hne, hvalid, hsame⟩ := exists_compile_eq_ok_iff.1 hok
  refine exists_compile_eq_ok_iff.2 ⟨?_, validate_eq_nil_of_perm hvalid h, fun l hl l' hl' => ?_⟩
  · rintro rfl
    exact hne h.eq_nil
  · exact hsame l (h.mem_iff.2 hl) l' (h.mem_iff.2 hl')

/-- The order of the localizations decides neither whether they can be compiled nor what a language
is compiled to: it only is the order of the methods and of the languages. -/
theorem compile_perm {s : Settings} {ls ls' : List Localization} (h : ls.Perm ls') :
    ((∃ c, (compile s ls).result = .ok c) ↔ ∃ c', (compile s ls').result = .ok c') ∧
      ∀ c c', (compile s ls).result = .ok c → (compile s ls').result = .ok c' →
        c.contract.methods.Perm c'.contract.methods ∧
        (∀ language, c.planOf? language = c'.planOf? language ∧
          c.tokensOf? language = c'.tokensOf? language) ∧
        (∀ l ∈ ls, (∃ p, c.planOf? l.language = some p) ∧
          ∃ tokens, c.tokensOf? l.language = some (.ok tokens)) ∧
        ∀ language message args,
          c.evaluate language message args = c'.evaluate language message args := by
  refine ⟨⟨exists_compile_eq_ok_of_perm h, exists_compile_eq_ok_of_perm h.symm⟩, ?_⟩
  intro c c' hc hc'
  have hplan := Compiled.planOf?_eq_of_perm h hc hc'
  refine ⟨Compiled.methods_perm h hc hc', fun language => ⟨hplan language, ?_⟩, fun l hl => ?_,
    fun language message args => ?_⟩
  · exact Compiled.tokensOf?_eq_of_perm h hc hc' language
  · obtain ⟨p, hp, -⟩ := Compiled.exists_planOf? hc hl
    exact ⟨⟨p, hp⟩, Compiled.exists_tokensOf? hc hl⟩
  · rw [Compiled.evaluate, Compiled.evaluate, hplan, Compiled.settings_eq hc,
      Compiled.settings_eq hc']

theorem compile_perm_letters :
    ∃ c c', (compile {} lettersTwice).result = .ok c ∧
      (compile {} lettersTwice.reverse).result = .ok c' ∧
      c.contract.methods.Perm c'.contract.methods ∧
      c'.evaluate "de" "inbox" threeForAnn = .ok "Ann: 3 Briefe" := by
  have hperm : lettersTwice.Perm lettersTwice.reverse := (List.reverse_perm _).symm
  obtain ⟨c, hc, htext⟩ := exists_compiled_lettersTwice
  obtain ⟨hiff, hsame⟩ := compile_perm (s := {}) hperm
  obtain ⟨c', hc'⟩ := hiff.1 ⟨c, hc⟩
  obtain ⟨hmethods, -, -, hevaluate⟩ := hsame c c' hc hc'
  exact ⟨c, c', hc, hc', hmethods, by rw [← hevaluate, htext]⟩

end Phrasebook
