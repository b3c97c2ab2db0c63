import Phrasebook.Project.Running
import Phrasebook.Proofs.Code.Files
import Phrasebook.Proofs.Contract.Differences
import Phrasebook.Proofs.Files.Tree
import Phrasebook.Proofs.Project.Discovery

set_option autoImplicit false

/-! # Generating

The files of a project are written after all of them have been rendered. Until then nothing is
changed. They are then written one after the other, each under its own name in the output directory.
But names need not stand for files of their own: two of them may stand for one file, or a link may
lead to a file of another name. A file holds in the end what was written to it last, under whatever
name, and a file to which none of the names leads is as it was. Nothing is taken away, and what is
new are the files written and the directories that were missing on the way to the output
(`Written`). -/

namespace Phrasebook.Project

open Files

variable {fs fs' : Files} {source : Source}

/-! ## What is generated -/

/-- The files that are rendered for the localizations of a project. -/
def Renders (fs : Files) (source : Source) (ls : List Localization)
    (files : List GeneratedFile) : Prop :=
  ∃ config c, (load fs source).result = .ok (config, ls) ∧
    (compile config.settings ls).result = .ok c ∧ c.files.result = .ok files

/-- The name of the file of a language. -/
def IsFileOf (l : Localization) (name : String) : Prop :=
  ∃ module, moduleName l.language = .ok module ∧ name = module ++ ".rs"

theorem IsFileOf.isName {l : Localization} {name : String} (h : IsFileOf l name) :
    IsName name := by
  obtain ⟨module, hmodule, rfl⟩ := h
  obtain ⟨c, cs, hlist, hstart, hcontinue⟩ :=
    Text.isWordShaped_eq_true
      (Text.isWordShaped_of_isIdentifier (isIdentifier_of_moduleName hmodule))
  have htext : (module ++ ".rs").toList = c :: cs ++ ['.', 'r', 's'] := by
    rw [String.toList_append, hlist]
    rfl
  have hlong : 3 < (module ++ ".rs").toList.length := by simp [htext]
  refine ⟨?_, ?_, ?_, ?_⟩
  · -- No slash can stand in an identifier.
    have hword : ∀ d ∈ c :: cs, Text.isIdentifierContinue d :=
      List.forall_mem_cons.2 ⟨Text.isIdentifierContinue_of_isIdentifierStart hstart, hcontinue⟩
    have hslash : Text.isIdentifierContinue '/' = false := by decide
    rw [htext, List.mem_append]
    rintro (hmem | hmem)
    · have := hword '/' hmem
      rw [hslash] at this
      cases this
    · revert hmem
      decide
  all_goals
    intro heq
    rw [heq] at hlong
    revert hlong
    decide

theorem isName_interfaceFile : IsName interfaceFile := by
  constructor <;> decide

/-- The first file is that of the interface, and then there is one for each language. -/
theorem Renders.names {ls : List Localization} {files : List GeneratedFile}
    (h : Renders fs source ls files) :
    ∃ names, files.map (·.name) = interfaceFile :: names ∧ List.Forall₂ IsFileOf ls names := by
  obtain ⟨config, c, -, hc, hfiles⟩ := h
  obtain ⟨general, rest, rfl, hgeneral, hrest⟩ := Compiled.files_eq_ok.1 hfiles
  obtain ⟨i, -, -, rfl⟩ := renderInterface_eq_ok.1 hgeneral
  refine ⟨rest.map (·.name), rfl, List.forall₂_map_right_iff.2 ?_⟩
  refine forall₂_of_common (Compiled.forall₂_isEntry hc).flip hrest fun e _ l f hl hf => ?_
  obtain ⟨code, -, -, rfl⟩ := renderLocalizer_eq_ok.1 hf
  exact ⟨e.1.module, (Contract.register_eq_ok.1 hl.registration).2.1, rfl⟩

theorem Renders.nodup_names {ls : List Localization} {files : List GeneratedFile}
    (h : Renders fs source ls files) : (files.map (·.name)).Nodup := by
  obtain ⟨config, c, -, hc, hfiles⟩ := h
  exact Compiled.nodup_names hc hfiles

theorem Renders.isName {ls : List Localization} {files : List GeneratedFile}
    (h : Renders fs source ls files) {f : GeneratedFile} (hf : f ∈ files) : IsName f.name := by
  obtain ⟨names, hnames, hlanguages⟩ := h.names
  have hmem : f.name ∈ interfaceFile :: names := hnames ▸ List.mem_map_of_mem hf
  rcases List.mem_cons.1 hmem with heq | hmem
  · rw [heq]
    exact isName_interfaceFile
  · obtain ⟨l, -, hl⟩ := exists_of_forall₂_right hlanguages hmem
    exact hl.isName

section Writing

variable {output : String} {directory : Place} {f : GeneratedFile} {files : List GeneratedFile}

/-- What was written last to a file, if anything: to which of the names in the directory it leads
is told from the tree afterwards. -/
def lastWritten? (fs : Files) (directory : Place) (files : List GeneratedFile) (id : Nat) :
    Option GeneratedFile :=
  files.reverse.find? fun f => (fs.fileIn directory f.name).toOption == some id

theorem lastWritten?_cons {id : Nat} (h : fs.fileIn directory f.name = .ok id) (i : Nat) :
    lastWritten? fs directory (f :: files) i =
      (lastWritten? fs directory files i).or (if i = id then some f else none) := by
  rw [lastWritten?, lastWritten?, List.reverse_cons, List.find?_append]
  congr 1
  by_cases hi : i = id
  · simp [h, hi, Except.toOption]
  · simp [h, hi, Ne.symm hi, Except.toOption]

/-- Files have been written to a directory, and nothing else has been done. -/
structure Stored (directory : Place) (files : List GeneratedFile) (fs fs' : Files) : Prop where
  toExtends : fs.Extends fs'
  led : ∀ f ∈ files, ∃ id, fs'.fileIn directory f.name = .ok id
  held : ∀ id, fs'.held id =
    ((lastWritten? fs' directory files id).map fun f => .text f.contents).getD (fs.held id)
  made : ∀ p e, fs'.at? p = some e → fs.at? p = some e ∨ fs.at? p = none ∧
    ∃ f ∈ files, ∃ id, e = .file id ∧ fs'.fileIn directory f.name = .ok id ∧
      ∀ q, fs.at? q ≠ some (.file id)

theorem Stored.nil (directory : Place) (fs : Files) : Stored directory [] fs fs :=
  ⟨.refl fs, by simp, fun _ => rfl, fun _ _ hp => .inl hp⟩

/-- A file that is written before others. -/
theorem Stored.cons {fs₁ : Files} {id : Nat}
    (hwrote : Wrote { inside := some directory } directory [f.name] (.text f.contents) id fs fs₁)
    (hrest : Stored directory files fs₁ fs') : Stored directory (f :: files) fs fs' := by
  have hid : fs'.fileIn directory f.name = .ok id :=
    hrest.toExtends.fileIn (fileIn_eq_ok.2 hwrote.leads)
  refine ⟨hwrote.toExtends.trans hrest.toExtends,
    List.forall_mem_cons.2 ⟨⟨id, hid⟩, hrest.led⟩, fun i => ?_, fun p e hp => ?_⟩
  · -- What comes later counts, and if nothing does, then what has just been written.
    rw [hrest.held, hwrote.held, lastWritten?_cons hid]
    cases lastWritten? fs' directory files i with
    | some g => rfl
    | none =>
        by_cases hi : i = id
        · simp [hi]
        · simp [hi]
  · rcases hrest.made p e hp with hbefore | ⟨hmissing, g, hg, i, rfl, hi, hnew⟩
    · rcases hwrote.made p e hbefore with hfirst | ⟨hmissing, rfl, hnew⟩
      · exact .inl hfirst
      · exact .inr ⟨hmissing, f, List.mem_cons_self, id, rfl, hid, hnew⟩
    · refine .inr ⟨?_, g, List.mem_cons_of_mem _ hg, i, rfl, hi, fun q hq => ?_⟩
      · exact hwrote.toExtends.at?_eq_none hmissing
      · exact hnew q (hwrote.toExtends.entry q _ hq)

/-- Files have been written to the directory to which a path leads. Each of their names there leads
to a file, and their paths do unless it is a link. A file holds what was written to it last, and
what it held before if nothing was. Nothing that was there has been taken away or turned into
something else. What is new are directories that were missing on the way and files that were
written. -/
structure Written (fs fs' : Files) (output : String) (directory : Place)
    (files : List GeneratedFile) : Prop where
  directoryAt : fs'.directoryAt output = .ok directory
  paths : ∀ f ∈ files, ∀ id, fs'.at? (directory ++ [f.name]) = some (.file id) →
    fs'.Leads (join output f.name) (directory ++ [f.name])
  led : ∀ f ∈ files, ∃ id, fs'.fileIn directory f.name = .ok id
  held : ∀ id, fs'.held id =
    ((lastWritten? fs' directory files id).map fun f => .text f.contents).getD (fs.held id)
  toExtends : fs.Extends fs'
  made : ∀ p e, fs'.at? p = some e → fs.at? p = some e ∨ fs.at? p = none ∧
    (e = .directory ∧ (∃ k, fs'.Leads (parent^[k] output) p) ∨
      ∃ f ∈ files, ∃ id, e = .file id ∧ fs'.fileIn directory f.name = .ok id ∧
        ∀ q, fs.at? q ≠ some (.file id))

/-- First the directory is made, then the files are written. -/
theorem Stored.written {fs₁ : Files} (hgrown : Grown output fs fs₁)
    (hdirectory : fs₁.directoryAt output = .ok directory)
    (hstored : Stored directory files fs₁ fs') (hnames : ∀ f ∈ files, IsName f.name) :
    Written fs fs' output directory files := by
  have hextends := hstored.toExtends
  have hall := hgrown.toExtends.trans hextends
  have hthere := hextends.directoryAt hdirectory
  obtain ⟨hlocate, hisDirectory⟩ := directoryAt_eq_ok.1 hthere
  obtain ⟨hempty, -, -, hleads⟩ := locate_eq_ok.1 hlocate
  refine ⟨hthere, fun f hf id hid => ?_, hstored.led, fun id => ?_, hall, fun p e hp => ?_⟩
  · obtain ⟨_, hled⟩ := hstored.led f hf
    obtain ⟨_, hfollows, -⟩ := fileIn_eq_ok.1 hled
    exact leads_join hempty (hnames f hf) hleads hisDirectory hfollows.passes.short hid nofun
  · rw [hstored.held, hgrown.held]
  · rcases hstored.made p e hp with hbefore | ⟨hmissing, f, hf, id, rfl, hid, hnew⟩
    · rcases hgrown.made p e hbefore with hfirst | ⟨hmissing, rfl, k, hk⟩
      · exact .inl hfirst
      · exact .inr ⟨hmissing, .inl ⟨rfl, k, hextends.leads hk⟩⟩
    · refine .inr ⟨hgrown.toExtends.at?_eq_none hmissing, .inr ⟨f, hf, id, rfl, hid, ?_⟩⟩
      exact fun q hq => hnew q (hgrown.toExtends.entry q _ hq)

end Writing

/-! ## The command -/

end Phrasebook.Project
