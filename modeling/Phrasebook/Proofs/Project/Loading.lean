import Phrasebook.Project.Loading
import Phrasebook.Proofs.Compilation
import Phrasebook.Proofs.Definition.Failures
import Phrasebook.Proofs.Project.Discovery

set_option autoImplicit false

/-! # What loading reports

Once the languages of a project are known, loading it goes on to the end, whatever is wrong. The
failures of a language are those of reading its files or, if all of them can be read, those of its
messages (`languageFailures`). They are put together for each language and then for the project, and
nothing is lost or repeated on the way: the failure that is reported has as its members the failures
of all languages, in their order. -/

namespace Phrasebook.Project

open Definition

/-! ## Files that cannot be read -/

theorem isSingle_of_read {path text : String} {format : Data.Format} {f : Failure}
    (h : Document.read path format text = .error f) : f.IsSingle := by
  intro fs heq
  subst heq
  unfold Document.read at h
  split at h
  · cases h
  · split at h
    · cases h
    · next d _ =>
        rcases bind_eq_error.1 h with htable | ⟨members, -, h⟩
        · unfold Document.table at htable
          split at htable <;> cases htable
        · rcases bind_eq_error.1 h with hentries | ⟨_, -, h⟩
          · obtain ⟨_, -, heq⟩ := mapError_eq_error.1 hentries
            cases heq
          · cases h

section Languages

variable {fs : Files} {input : String} {directory : Place} {specifiers : Specifiers}
  {l : LanguageFiles}

theorem isSingle_of_readDocument {file : DefinitionFile} {f : Failure}
    (h : readDocument fs input directory file = .error f) : f.IsSingle := by
  unfold readDocument at h
  split at h
  · exact isSingle_of_read h
  · cases h
    intro fs heq
    cases heq

/-- The failures of reading the files of a language, in the order of the files. -/
def readFailures (fs : Files) (input : String) (directory : Place) (l : LanguageFiles) :
    List Failure :=
  l.files.filterMap fun f => errorOf? (readDocument fs input directory f)

/-- The files of a language that can be read. -/
def documentsOf (fs : Files) (input : String) (directory : Place) (l : LanguageFiles) :
    List Document :=
  l.files.filterMap fun f => (readDocument fs input directory f).toOption

/-- The failures of a language: those of reading its files or, if all of them can be read, those of
its messages. -/
def languageFailures (fs : Files) (input : String) (directory : Place) (specifiers : Specifiers)
    (l : LanguageFiles) : List Failure :=
  if readFailures fs input directory l = [] then
    messageFailures specifiers l.language (documentsOf fs input directory l)
  else readFailures fs input directory l

theorem isSingle_of_mem_readFailures {f : Failure} (h : f ∈ readFailures fs input directory l) :
    f.IsSingle := by
  obtain ⟨file, -, hfile⟩ := List.mem_filterMap.1 h
  exact isSingle_of_readDocument (errorOf?_eq_some.1 hfile)

theorem isSingle_of_mem_languageFailures {f : Failure}
    (h : f ∈ languageFailures fs input directory specifiers l) : f.IsSingle := by
  unfold languageFailures at h
  split at h
  · exact isSingle_of_mem_messageFailures h
  · exact isSingle_of_mem_readFailures h

theorem isSingle_of_mem_flatMap {languages : List LanguageFiles} {f : Failure}
    (h : f ∈ languages.flatMap (languageFailures fs input directory specifiers)) : f.IsSingle := by
  obtain ⟨l, -, hf⟩ := List.mem_flatMap.1 h
  exact isSingle_of_mem_languageFailures hf

theorem readDocuments_eq :
    readDocuments fs input directory l =
      (Failure.check (readFailures fs input directory l)).map
        fun _ => documentsOf fs input directory l := by
  unfold readDocuments
  rw [partitionResults_eq, List.filterMap_map, List.filterMap_map]
  rfl

/-- A language cannot be loaded if there are failures of it, and fails with all of them. -/
theorem errorOf?_loadLanguage :
    errorOf? (loadLanguage fs input directory specifiers l).result =
      Failure.ofList? (languageFailures fs input directory specifiers l) := by
  have hread : ∀ f ∈ readFailures fs input directory l, f.IsSingle :=
    fun f hf => isSingle_of_mem_readFailures hf
  unfold loadLanguage languageFailures
  rw [Traced.result_bind, Traced.result_lift, readDocuments_eq]
  by_cases hnil : readFailures fs input directory l = []
  · rw [if_pos hnil, Failure.check_eq_ok.2 ((Failure.ofList?_eq_none_iff hread).2 hnil)]
    exact Option.ext fun f => errorOf?_eq_some.trans build_eq_error
  · rw [if_neg hnil]
    obtain ⟨f, hf⟩ := Option.ne_none_iff_exists'.1 (mt (Failure.ofList?_eq_none_iff hread).1 hnil)
    rw [Failure.check_eq_error.2 hf, hf]
    rfl

end Languages

/-! ## The project -/

section Project

variable {fs : Files} {source : Source} {config : Config} {directory : Place}
  {languages : List LanguageFiles}

/-- Loading a project has come so far that its languages are known. -/
structure Discovered (fs : Files) (source : Source) (config : Config) (directory : Place)
    (languages : List LanguageFiles) : Prop where
  configured : (loadConfig fs source).result = .ok config
  located : fs.directory? source.input = .ok (some directory)
  found : ∃ pattern, NamePattern.read config.pattern = .ok pattern ∧
    (discover source.input pattern.text pattern.split? (fs.listing directory)).result =
      .ok languages

namespace Discovered

variable (h : Discovered fs source config directory languages)

include h

theorem pairwise_languages : languages.Pairwise fun l l' => l.language < l'.language := by
  obtain ⟨pattern, -, hdiscover⟩ := h.found
  obtain ⟨-, gathered, hgather, rfl⟩ := discover_eq_ok.1 hdiscover
  exact List.pairwise_map.2 (grouped_of_gather hgather).languages

theorem pairwise_files {l : LanguageFiles} (hl : l ∈ languages) :
    l.files.Pairwise fun f f' => f.name ≤ f'.name := by
  obtain ⟨pattern, -, hdiscover⟩ := h.found
  obtain ⟨-, gathered, -, rfl⟩ := discover_eq_ok.1 hdiscover
  obtain ⟨l, -, rfl⟩ := List.mem_map.1 hl
  exact Text.pairwise_sortedBy l.files

theorem result_load :
    (load fs source).result =
      (Failure.check (languages.filterMap fun l => errorOf?
        (loadLanguage fs source.input directory config.specifiers l).result)).map
        fun _ => (config, languages.filterMap fun l =>
          (loadLanguage fs source.input directory config.specifiers l).result.toOption) := by
  obtain ⟨pattern, hpattern, hdiscover⟩ := h.found
  unfold load
  rw [Traced.result_bind, h.configured, ok_bind, Traced.result_bind, Traced.result_lift, hpattern,
    ok_bind, Traced.result_bind, Traced.result_lift, h.located, ok_bind, Traced.result_bind,
    hdiscover, ok_bind, Traced.result_bind, result_mapM_attempt, ok_bind, partitionResults_eq,
    List.filterMap_map, List.filterMap_map, Traced.result_bind, Traced.result_lift]
  rfl

/-- Loading fails with the failures of all languages. -/
theorem load_eq_error {f : Failure} :
    (load fs source).result = .error f ↔
      Failure.ofList? (languages.flatMap
        (languageFailures fs source.input directory config.specifiers)) = some f := by
  have hbuilt : ∀ gs ∈ languages.map (languageFailures fs source.input directory config.specifiers),
      ∀ g ∈ gs, g.Built := by
    intro gs hgs g hg
    obtain ⟨l, -, rfl⟩ := List.mem_map.1 hgs
    exact .single (isSingle_of_mem_languageFailures hg)
  have hflatten := Failure.Built.ofList?_filterMap hbuilt
  rw [List.filterMap_map, ← List.flatMap_def] at hflatten
  have hfailures : (languages.filterMap fun l => errorOf?
      (loadLanguage fs source.input directory config.specifiers l).result) =
      languages.filterMap (Failure.ofList? ∘
        languageFailures fs source.input directory config.specifiers) :=
    List.filterMap_congr fun l _ => errorOf?_loadLanguage
  rw [h.result_load, hfailures, ← hflatten, map_eq_error, Failure.check_eq_error]

theorem exists_load_iff :
    (∃ r, (load fs source).result = .ok r) ↔
      ∀ l ∈ languages, languageFailures fs source.input directory config.specifiers l = [] := by
  rw [← List.flatMap_eq_nil_iff, ← Failure.ofList?_eq_none_iff fun f => isSingle_of_mem_flatMap]
  cases hload : (load fs source).result with
  | error f => simp [h.load_eq_error.1 hload]
  | ok r =>
      refine ⟨fun _ => ?_, fun _ => ⟨r, rfl⟩⟩
      by_contra hne
      obtain ⟨f, hf⟩ := Option.ne_none_iff_exists'.1 hne
      rw [h.load_eq_error.2 hf] at hload
      cases hload

end Discovered

/-- Failures are put together without loss and without nesting, in whatever groups. So the failure
of loading a project, after its languages are known, lists the failures of all languages in
increasing order, each of them once. -/
theorem load_reports_all :
    (∀ lists : List (List Failure), (∀ fs ∈ lists, ∀ f ∈ fs, f.Built) →
      Failure.ofList? (lists.filterMap Failure.ofList?) = Failure.ofList? lists.flatten ∧
      Failure.Together lists.flatten (Failure.ofList? lists.flatten) ∧
      ∀ gs, Failure.ofList? lists.flatten = some (.aggregate gs) →
        2 ≤ gs.length ∧ ∀ g ∈ gs, g.IsSingle) ∧
    ∀ (fs : Files) (source : Source) (config : Config) (directory : Place)
      (languages : List LanguageFiles), Discovered fs source config directory languages →
      languages.Pairwise (fun l l' => l.language < l'.language) ∧
      (∀ l ∈ languages, l.files.Pairwise fun f f' => f.name ≤ f'.name) ∧
      ((∃ r, (load fs source).result = .ok r) ↔ ∀ l ∈ languages,
        languageFailures fs source.input directory config.specifiers l = []) ∧
      ∀ f, (load fs source).result = .error f →
        Failure.Together (languages.flatMap
          (languageFailures fs source.input directory config.specifiers)) (some f) ∧
        f.members = languages.flatMap
          (languageFailures fs source.input directory config.specifiers) := by
  constructor
  · intro lists hlists
    have hflatten : ∀ f ∈ lists.flatten, f.Built := by
      intro f hf
      obtain ⟨gs, hgs, hf⟩ := List.mem_flatten.1 hf
      exact hlists gs hgs f hf
    exact ⟨Failure.Built.ofList?_filterMap hlists, Failure.Built.together_ofList? hflatten,
      fun gs hgs => Failure.Built.of_ofList?_eq_aggregate hflatten hgs⟩
  · intro fs source config directory languages h
    refine ⟨h.pairwise_languages, fun l hl => h.pairwise_files hl, h.exists_load_iff,
      fun f hf => ?_⟩
    have hsingle : ∀ g ∈ languages.flatMap
        (languageFailures fs source.input directory config.specifiers), g.IsSingle :=
      fun g hg => isSingle_of_mem_flatMap hg
    have hof := h.load_eq_error.1 hf
    constructor
    · rw [← hof]
      exact Failure.Built.together_ofList? fun g hg => .single (hsingle g hg)
    · have hmembers := Failure.flatMap_members_of_isSingle hsingle
      rw [Failure.members_of_ofList? hof (by rwa [hmembers]), hmembers]

end Project

/-! ## An example -/

/-- A project in which there is something wrong with every file: one is not text, one has a template
that is not closed and a specifier that there is not, and one repeats a message. -/
def scrapheap : Files where
  entries := [(["l10n"], .directory), (["l10n", "a.de.json"], .file 0),
    (["l10n", "a.en.json"], .file 1), (["l10n", "b.en.json"], .file 2)]
  holdings := [(0, .binary ⟨#[255]⟩),
    (1, .text "\x7b\"x\": \"\x7b\", \"y\": \"\x7bn:?\x7d\"\x7d"),
    (2, .text "\x7b\"x\": \"again\"\x7d")]

def scrapheapSource : Source := { overrides := { pattern := some bookshelfPattern } }

def scrapheapLanguages : List LanguageFiles :=
  [⟨"de", [⟨"a.de.json", .json⟩]⟩, ⟨"en", [⟨"a.en.json", .json⟩, ⟨"b.en.json", .json⟩]⟩]

theorem discovered_scrapheap : Discovered scrapheap scrapheapSource
    { pattern := bookshelfPattern } ["l10n"] scrapheapLanguages where
  configured := toOption_eq_some.1 (by decide +kernel)
  located := toOption_eq_some.1 (by decide +kernel)
  found := by
    obtain ⟨pattern, hpattern⟩ :=
      exists_of_isOk (r := NamePattern.read bookshelfPattern) (by decide +kernel)
    have hsplit : (NamePattern.read bookshelfPattern).toOption.map (fun p =>
        ["a.de.json", "a.en.json", "b.en.json"].map p.split?) =
        some [some ("de", .json), some ("en", .json), some ("en", .json)] := by
      decide +kernel
    rw [hpattern] at hsplit
    have hlisting : scrapheap.listing ["l10n"] =
        [("a.de.json", true), ("a.en.json", true), ("b.en.json", true)] := by decide
    have hgather : (gather pattern.text pattern.split? [] (scrapheap.listing ["l10n"])).result =
        .ok scrapheapLanguages := by
      simp [Except.toOption] at hsplit
      rw [hlisting]
      simp only [gather, hsplit]
      exact congrArg Except.ok (by decide)
    refine ⟨pattern, hpattern, discover_eq_ok.2 ⟨List.cons_ne_nil _ _, _, hgather, ?_⟩⟩
    have hsorted : ∀ l ∈ scrapheapLanguages, l.sorted = l := by
      have hnames : ∀ l ∈ scrapheapLanguages, l.files.Pairwise fun f f' => f.name ≤ f'.name := by
        decide
      intro l hl
      rw [LanguageFiles.sorted, Text.sortedBy_of_pairwise (hnames l hl)]
    exact (List.map_congr_left hsorted).trans (List.map_id' _)

/-- Everything that is wrong with the project is reported, the languages one after the other. -/
theorem load_reports_all_scrapheap :
    Failure.ofList? ([[.noDefinitions "a"], [], [.noDefinitions "b", .noDefinitions "c"]].filterMap
        Failure.ofList?) =
      some (.aggregate [.noDefinitions "a", .noDefinitions "b", .noDefinitions "c"]) ∧
    ∃ f, (load scrapheap scrapheapSource).result = .error f ∧
      f.members.map Failure.message? =
        [some "I/O error at l10n/a.de.json: stream did not contain valid UTF-8",
          some "l10n/a.en.json: message 'x': unclosed '\x7b' at offset 0",
          some "l10n/a.en.json: message 'y': unknown specifier '?' for argument 'n'",
          some "language 'en', message 'x': message 'x' is declared more than once"] := by
  constructor
  · refine (load_reports_all.1 _ ?_).1.trans rfl
    have hbuilt : ∀ directory, (Failure.noDefinitions directory).Built := by
      intro directory
      refine .single fun fs heq => ?_
      cases heq
    simp [hbuilt]
  · obtain ⟨-, -, hload, hfailures⟩ := load_reports_all.2 _ _ _ _ _ discovered_scrapheap
    cases hresult : (load scrapheap scrapheapSource).result with
    | ok r =>
        have hnone : languageFailures scrapheap "l10n" ["l10n"] {} ⟨"de", [⟨"a.de.json", .json⟩]⟩ ≠
            [] := by decide +kernel
        exact absurd (hload.1 ⟨r, hresult⟩ _ (by simp [scrapheapLanguages])) hnone
    | error f =>
        refine ⟨f, rfl, ?_⟩
        rw [(hfailures f hresult).2]
        decide +kernel

end Phrasebook.Project
