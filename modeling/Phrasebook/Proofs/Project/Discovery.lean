import Phrasebook.Project.Discovery
import Phrasebook.Proofs.Results
import Phrasebook.Proofs.Text.Sorting

set_option autoImplicit false

/-! # What is found in a directory

A directory lists its files in no particular order. What is found in it is nevertheless fixed: the
languages increase, so do the names of the files of each, and which files are there depends on their
names alone. All of this is one description, `Catalogues`, which does not speak of the order of the
listing, and only one list answers to it (`Catalogues.unique`). That `discover` gives this list is
shown along the listing: one file more is added to the files of its language and to no others
(`perm_placed_insertFile`), which leaves the languages in order, and so all files are there when the
files of each language are sorted (`catalogues_of_gather`). -/

namespace Phrasebook.Project

open Text

variable {split? : String → Option (String × Data.Format)} {listing listing' : List (String × Bool)}

/-! ## The description -/

/-- All files that were found, each with its language. -/
def placed (found : List LanguageFiles) : List (String × DefinitionFile) :=
  found.flatMap fun l => l.files.map fun f => (l.language, f)

/-- The definition files of a listing by language. A file is there if its name can be split, once
and in the place that its name gives; nothing else is there. -/
structure Catalogues (split? : String → Option (String × Data.Format))
    (listing : List (String × Bool)) (found : List LanguageFiles) : Prop where
  languages : found.Pairwise fun l l' => l.language < l'.language
  names : ∀ l ∈ found, l.files.Pairwise fun f f' => f.name < f'.name
  nonempty : ∀ l ∈ found, l.files ≠ []
  once : ∀ language name format, (placed found).count (language, ⟨name, format⟩) =
    if (name, true) ∈ listing ∧ split? name = some (language, format) then 1 else 0

theorem mem_placed_iff {found : List LanguageFiles} {language : String} {f : DefinitionFile} :
    (language, f) ∈ placed found ↔ ∃ l ∈ found, l.language = language ∧ f ∈ l.files := by
  simp only [placed, List.mem_flatMap, List.mem_map, Prod.mk.injEq]
  constructor
  · rintro ⟨l, hl, f', hf', rfl, rfl⟩
    exact ⟨l, hl, rfl, hf'⟩
  · rintro ⟨l, hl, rfl, hf⟩
    exact ⟨l, hl, f, hf, rfl, rfl⟩

/-- Under increasing languages, a file of a language is one of its own. -/
theorem mem_files_iff {found : List LanguageFiles} {l : LanguageFiles} {f : DefinitionFile}
    (h : found.Pairwise fun l l' => l.language < l'.language) (hl : l ∈ found) :
    f ∈ l.files ↔ (l.language, f) ∈ placed found := by
  rw [mem_placed_iff]
  constructor
  · intro hf
    exact ⟨l, hl, rfl, hf⟩
  · rintro ⟨l', hl', hlanguage, hf⟩
    rwa [eq_of_key_eq h hl hl' hlanguage.symm]

theorem nodup_placed {found : List LanguageFiles}
    (hlanguages : found.Pairwise fun l l' => l.language < l'.language)
    (hnames : ∀ l ∈ found, l.files.Pairwise fun f f' => f.name < f'.name) :
    (placed found).Nodup := by
  refine List.nodup_flatMap.2 ⟨fun l hl => ?_, hlanguages.imp fun {l l'} hlt => ?_⟩
  · have hfiles : l.files.Nodup := nodup_of_pairwise_lt (hnames l hl)
    exact hfiles.map fun f f' heq => (Prod.mk.inj heq).2
  · -- Two languages have no entry in common, as each entry has its language in front.
    intro e he he'
    obtain ⟨f, -, rfl⟩ := List.mem_map.1 he
    obtain ⟨f', -, heq⟩ := List.mem_map.1 he'
    exact hlt.ne (Prod.mk.inj heq).1.symm

namespace Catalogues

variable {found found' : List LanguageFiles}

/-- In order, it is enough that the right files are there. -/
theorem of_mem_placed_iff (hlanguages : found.Pairwise fun l l' => l.language < l'.language)
    (hnames : ∀ l ∈ found, l.files.Pairwise fun f f' => f.name < f'.name)
    (hnonempty : ∀ l ∈ found, l.files ≠ [])
    (hplaced : ∀ language f, (language, f) ∈ placed found ↔
      (f.name, true) ∈ listing ∧ split? f.name = some (language, f.format)) :
    Catalogues split? listing found := by
  refine ⟨hlanguages, hnames, hnonempty, fun language name format => ?_⟩
  rw [(nodup_placed hlanguages hnames).count]
  simp only [hplaced]

theorem mem_placed (h : Catalogues split? listing found) {language : String} {f : DefinitionFile} :
    (language, f) ∈ placed found ↔
      (f.name, true) ∈ listing ∧ split? f.name = some (language, f.format) := by
  have honce : (placed found).count (language, f) =
      if (f.name, true) ∈ listing ∧ split? f.name = some (language, f.format) then 1 else 0 :=
    h.once language f.name f.format
  rw [← List.count_pos_iff, honce]
  split
  · next hf => exact iff_of_true Nat.one_pos hf
  · next hf => exact iff_of_false (Nat.lt_irrefl 0) hf

/-- What is in one catalogue is in any other of the same files. -/
theorem subset (h : Catalogues split? listing found) (h' : Catalogues split? listing' found')
    (hsame : ∀ name, (name, true) ∈ listing ↔ (name, true) ∈ listing') : found ⊆ found' := by
  intro l hl
  have hplaced : ∀ language f, (language, f) ∈ placed found ↔ (language, f) ∈ placed found' := by
    intro language f
    rw [h.mem_placed, h'.mem_placed, hsame]
  -- Some file of the language leads to the same language there, and its files are the same.
  obtain ⟨f, hf⟩ := List.exists_mem_of_ne_nil _ (h.nonempty l hl)
  have hthere := (hplaced l.language f).1 ((mem_files_iff h.languages hl).1 hf)
  obtain ⟨l', hl', hlanguage, -⟩ := mem_placed_iff.1 hthere
  have hfiles : l.files = l'.files := by
    refine eq_of_pairwise_lt (h.names l hl) (h'.names l' hl') fun g => ?_
    rw [mem_files_iff h.languages hl, mem_files_iff h'.languages hl', hplaced, hlanguage]
  have heq : l = l' := by
    cases l
    cases l'
    cases hlanguage
    cases hfiles
    rfl
  rwa [heq]

/-- There is one catalogue only, whatever the order of the listing. -/
theorem unique (h : Catalogues split? listing found) (h' : Catalogues split? listing' found')
    (hsame : ∀ name, (name, true) ∈ listing ↔ (name, true) ∈ listing') : found = found' := by
  refine eq_of_pairwise_lt h.languages h'.languages fun l => ⟨fun hl => ?_, fun hl => ?_⟩
  · exact h.subset h' hsame hl
  · exact h'.subset h (fun name => (hsame name).symm) hl

theorem eq_nil_iff (h : Catalogues split? listing found) :
    found = [] ↔ ∀ name, (name, true) ∈ listing → split? name = none := by
  constructor
  · rintro rfl name hname
    cases hsplit : split? name with
    | none => rfl
    | some place =>
        have hfile : (place.1, (⟨name, place.2⟩ : DefinitionFile)) ∈ placed [] :=
          h.mem_placed.2 ⟨hname, hsplit⟩
        cases hfile
  · intro hnone
    by_contra hfound
    obtain ⟨l, hl⟩ := List.exists_mem_of_ne_nil _ hfound
    obtain ⟨f, hf⟩ := List.exists_mem_of_ne_nil _ (h.nonempty l hl)
    obtain ⟨hname, hsplit⟩ := h.mem_placed.1 ((mem_files_iff h.languages hl).1 hf)
    rw [hnone _ hname] at hsplit
    cases hsplit

end Catalogues

/-! ## Gathering -/

/-- The definition files of a listing, in its order. -/
def entries (split? : String → Option (String × Data.Format)) (listing : List (String × Bool)) :
    List (String × DefinitionFile) :=
  listing.filterMap fun e =>
    if e.2 then (split? e.1).map fun place => (place.1, ⟨e.1, place.2⟩) else none

theorem mem_entries_iff {language : String} {f : DefinitionFile} :
    (language, f) ∈ entries split? listing ↔
      (f.name, true) ∈ listing ∧ split? f.name = some (language, f.format) := by
  simp only [entries, List.mem_filterMap]
  constructor
  · rintro ⟨⟨name, isFile⟩, hname, hentry⟩
    cases isFile with
    | false => cases hentry
    | true =>
        obtain ⟨place, hsplit, heq⟩ := Option.map_eq_some_iff.1 hentry
        cases heq
        exact ⟨hname, hsplit⟩
  · rintro ⟨hname, hsplit⟩
    exact ⟨_, hname, by simp [hsplit]⟩

theorem nodup_names_entries (h : (listing.map (·.1)).Nodup) :
    ((entries split? listing).map (·.2.name)).Nodup := by
  rw [List.nodup_iff_pairwise_ne, List.pairwise_map]
  refine List.Pairwise.filterMap _ (fun e e' hne x hx x' hx' => ?_) (List.pairwise_map.1 h)
  have hname : ∀ {e : String × Bool} {x : String × DefinitionFile},
      (if e.2 then (split? e.1).map fun place => (place.1, ⟨e.1, place.2⟩) else none) = some x →
      x.2.name = e.1 := by
    intro e x hx
    split at hx
    · obtain ⟨place, -, rfl⟩ := Option.map_eq_some_iff.1 hx
      rfl
    · cases hx
  rwa [hname hx, hname hx']

/-- Languages in increasing order, each with some file. -/
structure Grouped (found : List LanguageFiles) : Prop where
  languages : found.Pairwise fun l l' => l.language < l'.language
  nonempty : ∀ l ∈ found, l.files ≠ []

theorem grouped_nil : Grouped [] := ⟨List.Pairwise.nil, fun _ hl => nomatch hl⟩

section Insertion

variable {found : List LanguageFiles}

theorem perm_placed_insertFile {language : String} {f : DefinitionFile} :
    (placed (insertFile language f found)).Perm ((language, f) :: placed found) := by
  -- The language belongs before the first one, somewhere behind it, or it is that one.
  induction found with
  | nil => exact .refl _
  | cons l found ih =>
      rw [insertFile]
      split
      · exact .refl _
      · next hbefore =>
          split
          · have hthere : (placed (l :: insertFile language f found)).Perm
                (l.files.map (fun g => (l.language, g)) ++ (language, f) :: placed found) :=
              ih.append_left _
            exact hthere.trans List.perm_middle
          · next hafter =>
              obtain rfl : language = l.language :=
                le_antisymm (not_lt.1 hafter) (not_lt.1 hbefore)
              have hplaced : placed ({ l with files := l.files ++ [f] } :: found) =
                  l.files.map (fun g => (l.language, g)) ++ (l.language, f) :: placed found := by
                simp [placed]
              rw [hplaced]
              exact List.perm_middle

theorem language_of_mem_insertFile {language : String} {f : DefinitionFile} {l : LanguageFiles}
    (h : l ∈ insertFile language f found) :
    l.language = language ∨ ∃ l' ∈ found, l.language = l'.language := by
  induction found with
  | nil =>
      rw [List.mem_singleton.1 h]
      exact .inl rfl
  | cons l' found ih =>
      rw [insertFile] at h
      split at h
      · rcases List.mem_cons.1 h with rfl | h
        · exact .inl rfl
        · exact .inr ⟨l, h, rfl⟩
      · split at h
        · rcases List.mem_cons.1 h with rfl | h
          · exact .inr ⟨l, List.mem_cons_self, rfl⟩
          · refine (ih h).imp_right fun ⟨l'', hl'', heq⟩ => ?_
            exact ⟨l'', List.mem_cons_of_mem _ hl'', heq⟩
        · rcases List.mem_cons.1 h with rfl | h
          · exact .inr ⟨l', List.mem_cons_self, rfl⟩
          · exact .inr ⟨l, List.mem_cons_of_mem _ h, rfl⟩

theorem Grouped.insertFile (h : Grouped found) (language : String) (f : DefinitionFile) :
    Grouped (insertFile language f found) := by
  induction found with
  | nil => exact ⟨List.pairwise_singleton _ _, by simp [Project.insertFile]⟩
  | cons l found ih =>
      obtain ⟨hfirst, hrest⟩ := List.pairwise_cons.1 h.languages
      obtain ⟨hfiles, hothers⟩ := List.forall_mem_cons.1 h.nonempty
      rw [Project.insertFile]
      split
      · next hbefore =>
          refine ⟨List.pairwise_cons.2 ⟨fun l' hl' => ?_, h.languages⟩, ?_⟩
          · rcases List.mem_cons.1 hl' with rfl | hl'
            · exact hbefore
            · exact hbefore.trans (hfirst l' hl')
          · exact List.forall_mem_cons.2 ⟨List.cons_ne_nil _ _, h.nonempty⟩
      · split
        · next hafter =>
            obtain ⟨hlanguages, hnonempty⟩ := ih ⟨hrest, hothers⟩
            refine ⟨List.pairwise_cons.2 ⟨fun l' hl' => ?_, hlanguages⟩,
              List.forall_mem_cons.2 ⟨hfiles, hnonempty⟩⟩
            rcases language_of_mem_insertFile hl' with heq | ⟨l'', hl'', heq⟩
            · rwa [heq]
            · rw [heq]
              exact hfirst l'' hl''
        · exact ⟨List.pairwise_cons.2 ⟨hfirst, hrest⟩,
            List.forall_mem_cons.2 ⟨by simp, hothers⟩⟩

end Insertion

/-- Along a listing, its definition files are added to those that are there. -/
theorem exists_gather (pattern : String) (split? : String → Option (String × Data.Format))
    (listing : List (String × Bool)) {found : List LanguageFiles} (h : Grouped found) :
    ∃ more, (gather pattern split? found listing).result = .ok more ∧ Grouped more ∧
      (placed more).Perm (entries split? listing ++ placed found) := by
  -- Along the listing: what has been gathered so far is grouped whatever comes next.
  induction listing generalizing found with
  | nil => exact ⟨found, rfl, h, .refl _⟩
  | cons e listing ih =>
      obtain ⟨name, isFile⟩ := e
      cases isFile with
      | false => exact ih h
      | true =>
          rw [gather]
          cases hsplit : split? name with
          | none =>
              have hentries :
                  entries split? ((name, true) :: listing) = entries split? listing := by
                simp [entries, hsplit]
              rw [hentries]
              exact ih h
          | some place =>
              have hentries : entries split? ((name, true) :: listing) =
                  (place.1, ⟨name, place.2⟩) :: entries split? listing := by
                simp [entries, hsplit]
              obtain ⟨more, hmore, hgrouped, hperm⟩ :=
                ih (h.insertFile place.1 ⟨name, place.2⟩)
              refine ⟨more, hmore, hgrouped, ?_⟩
              rw [hentries, List.cons_append]
              exact (hperm.trans (perm_placed_insertFile.append_left _)).trans List.perm_middle

theorem grouped_of_gather {pattern : String} {gathered : List LanguageFiles}
    (h : (gather pattern split? [] listing).result = .ok gathered) : Grouped gathered := by
  obtain ⟨more, hmore, hgrouped, -⟩ := exists_gather pattern split? listing grouped_nil
  cases Except.ok.inj (h.symm.trans hmore)
  exact hgrouped

/-! ## Discovery -/

theorem mem_placed_sorted {found : List LanguageFiles} {language : String} {f : DefinitionFile} :
    (language, f) ∈ placed (found.map (·.sorted)) ↔ (language, f) ∈ placed found := by
  rw [mem_placed_iff, mem_placed_iff]
  constructor
  · rintro ⟨_, hsorted, rfl, hf⟩
    obtain ⟨l, hl, rfl⟩ := List.mem_map.1 hsorted
    exact ⟨l, hl, rfl, (sortedBy_perm l.files).mem_iff.1 hf⟩
  · rintro ⟨l, hl, rfl, hf⟩
    exact ⟨l.sorted, List.mem_map_of_mem hl, rfl, (sortedBy_perm l.files).mem_iff.2 hf⟩

/-- What is gathered from a listing without repetitions becomes its catalogue when the files of each
language are sorted. -/
theorem catalogues_of_gather {pattern : String} {found : List LanguageFiles}
    (hlisting : (listing.map (·.1)).Nodup)
    (h : (gather pattern split? [] listing).result = .ok found) :
    Catalogues split? listing (found.map (·.sorted)) := by
  obtain ⟨more, hmore, hgrouped, hperm⟩ :=
    exists_gather pattern split? listing grouped_nil
  cases Except.ok.inj (h.symm.trans hmore)
  have hnames : ∀ l ∈ found, (l.files.map (·.name)).Nodup := by
    have hall : ((placed found).map (·.2.name)).Nodup := by
      rw [(hperm.map _).nodup_iff, placed, List.flatMap_nil, List.append_nil]
      exact nodup_names_entries hlisting
    rw [placed, List.map_flatMap] at hall
    intro l hl
    have hfiles := (List.nodup_flatMap.1 hall).1 l hl
    rwa [List.map_map] at hfiles
  refine .of_mem_placed_iff (List.pairwise_map.2 hgrouped.languages) ?_ ?_ fun language f => ?_
  · rw [List.forall_mem_map]
    exact fun l hl => pairwise_lt_sortedBy (hnames l hl)
  · rw [List.forall_mem_map]
    intro l hl hnil
    have hperm := @sortedBy_perm _ DefinitionFile.name l.files
    rw [show sortedBy DefinitionFile.name l.files = [] from hnil] at hperm
    exact hgrouped.nonempty l hl hperm.nil_eq.symm
  · rw [mem_placed_sorted, hperm.mem_iff, placed, List.flatMap_nil, List.append_nil,
      mem_entries_iff]

theorem result_discover {directory pattern : String} {gathered : List LanguageFiles}
    (h : (gather pattern split? [] listing).result = .ok gathered) :
    (discover directory pattern split? listing).result =
      if gathered.map (·.sorted) = [] then .error (.noDefinitions directory)
      else .ok (gathered.map (·.sorted)) := by
  rw [discover, Traced.result_bind, h, ok_bind]
  cases gathered with
  | nil => rfl
  | cons l ls =>
      have hsorted : List.Forall₂ (fun l l' => (.ok l.sorted : Except Failure _) = .ok l')
          (l :: ls) ((l :: ls).map (·.sorted)) :=
        List.forall₂_map_right_iff.2 (List.forall₂_same.2 fun _ _ => rfl)
      have hne : (l :: ls).map (·.sorted) ≠ [] := List.cons_ne_nil _ _
      rw [if_neg hne]
      exact (Traced.result_mapM _ _).trans (mapM_eq_ok.2 hsorted)

theorem discover_eq_ok {directory pattern : String} {found : List LanguageFiles} :
    (discover directory pattern split? listing).result = .ok found ↔ found ≠ [] ∧
      ∃ gathered, (gather pattern split? [] listing).result = .ok gathered ∧
        gathered.map (·.sorted) = found := by
  obtain ⟨gathered, hgather, -⟩ := exists_gather pattern split? listing grouped_nil
  rw [result_discover hgather, hgather]
  constructor
  · intro hfound
    split at hfound
    · cases hfound
    · next hne =>
        cases hfound
        exact ⟨hne, gathered, rfl, rfl⟩
  · rintro ⟨hne, _, heq, rfl⟩
    cases heq
    rw [if_neg hne]

/-- Whatever the order of a listing, the same is found in it: all definition files, each once, the
languages and the names of their files in increasing order. Only if no name can be split there is
nothing to be found, and that is reported. -/
theorem discover_catalogues (directory pattern : String)
    (split? : String → Option (String × Data.Format)) (listing : List (String × Bool))
    (hlisting : (listing.map (·.1)).Nodup) :
    (∀ listing', listing'.Perm listing →
      (discover directory pattern split? listing').result =
        (discover directory pattern split? listing).result) ∧
    (∀ found, (discover directory pattern split? listing).result = .ok found ↔
      Catalogues split? listing found ∧ found ≠ []) ∧
    ∀ failure, (discover directory pattern split? listing).result = .error failure ↔
      failure = .noDefinitions directory ∧
        ∀ name, (name, true) ∈ listing → split? name = none := by
  obtain ⟨gathered, hgather, -⟩ := exists_gather pattern split? listing grouped_nil
  have hcatalogues := catalogues_of_gather hlisting hgather
  refine ⟨fun listing' hperm => ?_, fun found => ?_, fun failure => ?_⟩
  · obtain ⟨gathered', hgather', -⟩ := exists_gather pattern split? listing' grouped_nil
    have hlisting' : (listing'.map (·.1)).Nodup := (hperm.map _).nodup_iff.2 hlisting
    have hsame := (catalogues_of_gather hlisting' hgather').unique hcatalogues
      fun name => hperm.mem_iff
    rw [result_discover hgather', result_discover hgather, hsame]
  · rw [discover_eq_ok, and_comm]
    refine and_congr_left' ⟨?_, fun hfound => ⟨gathered, hgather, ?_⟩⟩
    · rintro ⟨_, hgather', rfl⟩
      cases Except.ok.inj (hgather.symm.trans hgather')
      exact hcatalogues
    · exact hcatalogues.unique hfound fun name => Iff.rfl
  · rw [result_discover hgather, ← hcatalogues.eq_nil_iff]
    split
    · next hfound => simp [hfound, eq_comm]
    · next hfound => simp [hfound]

/-! ## An example -/

/-- A directory with definitions of two languages, another file, and a directory whose name would be
that of a definition file. -/
def bookshelf : List (String × Bool) :=
  [("z.ru.toml", true), ("b.en.json", true), ("a.de.json", false), ("README.md", true),
    ("a.en.toml", true)]

/-- The pattern of the names of definition files on the bookshelf. -/
def bookshelfPattern : String := "([a-z]+)\\.([a-z]+)\\.(json|toml)"

/-- What the names on the bookshelf stand for. -/
theorem split?_bookshelf {pattern : NamePattern}
    (h : NamePattern.read bookshelfPattern = .ok pattern) :
    pattern.split? "z.ru.toml" = some ("ru", .toml) ∧
      pattern.split? "b.en.json" = some ("en", .json) ∧ pattern.split? "README.md" = none ∧
      pattern.split? "a.en.toml" = some ("en", .toml) := by
  have hsplit : (NamePattern.read bookshelfPattern).toOption.map (fun p =>
      ["z.ru.toml", "b.en.json", "README.md", "a.en.toml"].map p.split?) =
      some [some ("ru", .toml), some ("en", .json), none, some ("en", .toml)] := by
    decide +kernel
  rw [h] at hsplit
  simpa [Except.toOption] using hsplit

/-- Two languages are found on the bookshelf, and two files of the first one. -/
theorem discover_catalogues_bookshelf : ∃ pattern,
    NamePattern.read bookshelfPattern = .ok pattern ∧
      ∀ listing, listing.Perm bookshelf →
        (discover "l10n" pattern.text pattern.split? listing).result = .ok
        [⟨"en", [⟨"a.en.toml", .toml⟩, ⟨"b.en.json", .json⟩]⟩, ⟨"ru", [⟨"z.ru.toml", .toml⟩]⟩] := by
  obtain ⟨pattern, hpattern⟩ :=
    exists_of_isOk (r := NamePattern.read bookshelfPattern) (by decide +kernel)
  obtain ⟨hz, hb, hreadme, ha⟩ := split?_bookshelf hpattern
  obtain ⟨horder, hfound, -⟩ :=
    discover_catalogues "l10n" pattern.text pattern.split? bookshelf (by decide)
  refine ⟨pattern, hpattern, fun listing hperm => ?_⟩
  rw [horder listing hperm, hfound]
  refine ⟨.of_mem_placed_iff (by decide) (by decide) (by decide) fun language f => ?_, by simp⟩
  constructor
  · intro hf
    have hcases : language = "en" ∧ f = ⟨"a.en.toml", .toml⟩ ∨
        language = "en" ∧ f = ⟨"b.en.json", .json⟩ ∨
        language = "ru" ∧ f = ⟨"z.ru.toml", .toml⟩ := by
      simpa [placed] using hf
    rcases hcases with ⟨rfl, rfl⟩ | ⟨rfl, rfl⟩ | ⟨rfl, rfl⟩
    · exact ⟨by decide, ha⟩
    · exact ⟨by decide, hb⟩
    · exact ⟨by decide, hz⟩
  · obtain ⟨name, format⟩ := f
    rintro ⟨hname, hsplit⟩
    have hcases : name = "z.ru.toml" ∨ name = "b.en.json" ∨ name = "README.md" ∨
        name = "a.en.toml" := by
      simpa [bookshelf] using hname
    rcases hcases with rfl | rfl | rfl | rfl
    · cases hz.symm.trans hsplit
      decide
    · cases hb.symm.trans hsplit
      decide
    · cases hreadme.symm.trans hsplit
    · cases ha.symm.trans hsplit
      decide

end Phrasebook.Project
