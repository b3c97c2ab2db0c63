import Phrasebook.Proofs.Definition.Reading
import Phrasebook.Proofs.Definition.Receiving
import Phrasebook.Proofs.Text.Sorting

set_option autoImplicit false

/-! # What arguments a message gets

An entry may declare an argument in many places: in the list in front, by the driver of a plural,
and wherever a text of the message or of a variable inserts it with a specifier. All these are
places of one relation, `Entry.Declares`, which knows of no order. Building goes through the places
one after the other; if it succeeds, it has found nothing but declarations
(`Declarations.Collects`), each of them in agreement with the first one for its argument. So the
arguments are those that are declared, with the types that all of their specifiers stand for, and
the order is that of the list or of the names (`buildMessage_arguments`). -/

namespace Phrasebook

namespace Definition

open Text

/-! ## Places of declarations -/

/-- The text is a name and a specifier with a colon between them, blanks aside. -/
structure WritesSpec (raw name : String) (spec : Char) : Prop where
  named : name ≠ ""
  written : ∃ front back, raw.toList = front ++ ':' :: back ∧ ':' ∉ front ∧
    trim front = name.toList ∧ trim back = [spec]

/-- A placeholder of the text inserts the argument with a specifier. -/
def InsertsSpec (text name : String) (spec : Char) : Prop :=
  ∃ ts directive, tokens text = .ok ts ∧ Token.argument name (some spec) directive ∈ ts

/-- The text, the driver or a branch of a table declares the argument. -/
@[mk_iff]
inductive Table.Declares (t : Table) (name : String) (spec : Char) : Prop
  | text {s} (htext : t.text = some s) (hs : InsertsSpec s name spec)
  | driver {raw} (hplural : t.plural = some raw) (hraw : WritesSpec raw name spec)
  | branch {s} (hbranch : some s ∈ t.branches) (hs : InsertsSpec s name spec)

/-- The entry declares the argument with the specifier, wherever it may do so. -/
inductive Entry.Declares : Entry → String → Char → Prop
  | plain {s name spec} (hs : InsertsSpec s name spec) : Declares (.text s) name spec
  | listed {t raw name spec} (hraw : raw ∈ t.args) (hspec : WritesSpec raw name spec) :
      Declares (.table t) name spec
  | template {t name spec} (ht : t.Declares name spec) : Declares (.table t) name spec
  | inVariable {t var d e name spec} (hvar : (var, d) ∈ t.vars) (he : Entry.ofDatum? d = some e)
      (hdeclares : Declares e name spec) : Declares (.table t) name spec

/-- The list of arguments in front. -/
def Entry.args : Entry → List String
  | .text _ => []
  | .table t => t.args

theorem nameAndSpec?_eq_some_iff {raw name : String} {spec : Char} :
    nameAndSpec? raw = some (name, some spec) ↔ WritesSpec raw name spec := by
  constructor
  · intro h
    obtain ⟨front, rest, hsplit⟩ : ∃ front rest, splitAtChar ':' raw.toList = (front, rest) :=
      ⟨_, _, rfl⟩
    simp only [nameAndSpec?, hsplit] at h
    split_ifs at h with hname
    cases rest with
    | none => cases h
    | some back =>
        obtain ⟨hfront, hraw⟩ := splitAtChar_eq_some hsplit
        dsimp only at h
        split at h
        · next c hspec =>
            cases h
            exact ⟨hname, front, back, hraw, hfront, by simp, hspec⟩
        · cases h
  · rintro ⟨hname, front, back, hraw, hfront, hfrontName, hspec⟩
    simp only [nameAndSpec?, hraw, splitAtChar_append hfront, hfrontName, hspec,
      String.ofList_toList, if_neg hname]

/-! ## What is found in each place -/

/-- Nothing is found but declarations. -/
def OnlyDeclares (fs : List Finding) : Prop := ∀ f ∈ fs, ∃ name spec, f = .declares name spec

section Findings

variable {name : String} {spec : Char} {fs gs : List Finding}

theorem onlyDeclares_append : OnlyDeclares (fs ++ gs) ↔ OnlyDeclares fs ∧ OnlyDeclares gs :=
  List.forall_mem_append

theorem mem_readBody_iff {text : String} :
    .declares name spec ∈ (readBody text).2 ↔ InsertsSpec text name spec := by
  unfold readBody InsertsSpec
  cases htokens : tokens text with
  | error e => simp
  | ok ts =>
      simp only [List.mem_filterMap]
      constructor
      · rintro ⟨token, htoken, hfinding⟩
        unfold Token.finding? at hfinding
        split at hfinding
        · next directive =>
            cases hfinding
            exact ⟨ts, directive, rfl, htoken⟩
        · cases hfinding
      · rintro ⟨ts', directive, hts, hmem⟩
        cases hts
        exact ⟨_, hmem, rfl⟩

theorem mem_readBranch_iff {branch : Option String} :
    .declares name spec ∈ (readBranch branch).2 ↔
      ∃ s, branch = some s ∧ InsertsSpec s name spec := by
  cases branch with
  | none => simp [readBranch]
  | some s => simp [readBranch, mem_readBody_iff]

theorem mem_readDriver_iff {raw : String} :
    .declares name spec ∈ (readDriver raw).2 ↔ WritesSpec raw name spec := by
  rw [← nameAndSpec?_eq_some_iff]
  unfold readDriver
  split
  · next name' spec' heq => simp [heq, eq_comm]
  · next name' heq => simp [heq]
  · next heq => simp [heq]

theorem mem_readList_iff {args : List String} :
    .declares name spec ∈ (readList args).2 ↔ ∃ raw ∈ args, WritesSpec raw name spec := by
  simp only [readList, List.map_map, List.mem_map, Function.comp_apply]
  refine exists_congr fun raw => and_congr_right fun _ => ?_
  rw [← nameAndSpec?_eq_some_iff]
  split
  · next name' spec' heq => simp [heq]
  · next hother =>
      constructor
      · intro h
        cases h
      · intro h
        exact absurd h (hother name spec)

namespace Table

variable {t : Table}

theorem readPlural_findings (t : Table) (driver : String) :
    (t.readPlural driver).2 =
      (readDriver driver).2 ++ t.branches.flatMap fun branch => (readBranch branch).2 := by
  simp [readPlural, branches]

/-- Branches without a plural would be found at fault. -/
theorem notMem_branches_of_onlyDeclares (h : OnlyDeclares t.strayBranches) (s : String) :
    some s ∉ t.branches := by
  intro hmem
  have hbranches : t.hasBranches := List.any_eq_true.2 ⟨_, hmem, rfl⟩
  rw [strayBranches, if_pos hbranches] at h
  obtain ⟨_, _, heq⟩ := h _ List.mem_cons_self
  cases heq

theorem notMem_strayBranches : Finding.declares name spec ∉ t.strayBranches := by
  unfold strayBranches
  split_ifs <;> simp

/-- A table that is not at fault has its declarations where its template is. -/
theorem mem_readTemplate_iff {var : Option String} (h : OnlyDeclares (t.readTemplate var).2) :
    .declares name spec ∈ (t.readTemplate var).2 ↔ t.Declares name spec := by
  unfold readTemplate at h ⊢
  rw [declares_iff]
  cases htext : t.text with
  | some text =>
      cases hplural : t.plural with
      | some driver =>
          obtain ⟨_, _, heq⟩ := h (.conflict var) (by simp [htext, hplural])
          cases heq
      | none =>
          simp only [htext, hplural, onlyDeclares_append] at h
          simp [notMem_strayBranches, mem_readBody_iff, notMem_branches_of_onlyDeclares h.1]
  | none =>
      cases hplural : t.plural with
      | some driver =>
          rw [readPlural_findings, List.mem_append, mem_readDriver_iff, List.mem_flatMap]
          simp [mem_readBranch_iff]
      | none =>
          simp only [htext, hplural] at h
          simp [notMem_strayBranches, notMem_branches_of_onlyDeclares h]

end Table

/-- A variable that is not at fault declares nothing of its own apart from its template. -/
theorem mem_readVariable_iff {var : String} {e : Entry}
    (h : OnlyDeclares (readVariable var e).2) :
    .declares name spec ∈ (readVariable var e).2 ↔ e.Declares name spec := by
  cases e with
  | text s =>
      rw [readVariable, mem_readBody_iff]
      exact ⟨.plain, fun hdeclares => by cases hdeclares; assumption⟩
  | table t =>
      simp only [readVariable, onlyDeclares_append] at h ⊢
      by_cases hempty : t.args.isEmpty && t.vars.isEmpty
      · rw [if_pos hempty, List.nil_append, Table.mem_readTemplate_iff h.2]
        obtain ⟨hargs, hvars⟩ : t.args = [] ∧ t.vars = [] := by simpa using hempty
        refine ⟨.template, fun hdeclares => ?_⟩
        cases hdeclares with
        | listed hraw => simp [hargs] at hraw
        | template ht => exact ht
        | inVariable hvar => simp [hvars] at hvar
      · rw [if_neg hempty] at h
        obtain ⟨_, _, heq⟩ := h.1 _ List.mem_cons_self
        cases heq

theorem readVariables_findings {members : List (String × Data.Datum)}
    {entries : List (String × Entry)} (h : Entry.readAll members = .ok entries) :
    (readVariables members).2 = entries.flatMap fun x => (readVariable x.1 x.2).2 := by
  simp only [readVariables, h, List.flatMap_map]

/-- Variables that are not at fault are read as entries, and found with their declarations. -/
theorem mem_readVariables_iff {members : List (String × Data.Datum)}
    (h : OnlyDeclares (readVariables members).2) :
    .declares name spec ∈ (readVariables members).2 ↔
      ∃ x ∈ members, ∃ e, Entry.ofDatum? x.2 = some e ∧ e.Declares name spec := by
  cases hread : Entry.readAll members with
  | error var =>
      obtain ⟨_, _, heq⟩ := h (.misshapen var) (by simp [readVariables, hread])
      cases heq
  | ok entries =>
      have hentries := Entry.readAll_eq_ok.1 hread
      rw [readVariables_findings hread] at h ⊢
      have honly : ∀ x ∈ entries, OnlyDeclares (readVariable x.1 x.2).2 :=
        fun x hx f hf => h f (List.mem_flatMap.2 ⟨x, hx, hf⟩)
      rw [List.mem_flatMap]
      constructor
      · rintro ⟨y, hy, hmem⟩
        obtain ⟨x, hx, -, he⟩ := exists_of_forall₂_right hentries hy
        exact ⟨x, hx, y.2, he, (mem_readVariable_iff (honly y hy)).1 hmem⟩
      · rintro ⟨x, hx, e, he, hdeclares⟩
        obtain ⟨y, hy, -, he'⟩ := exists_of_forall₂_left hentries hx
        rw [he] at he'
        cases he'
        exact ⟨y, hy, (mem_readVariable_iff (honly y hy)).2 hdeclares⟩

/-- An entry that is not at fault is found to declare what it declares. -/
theorem Entry.mem_findings_iff {e : Entry} (h : OnlyDeclares e.draft.findings) :
    .declares name spec ∈ e.draft.findings ↔ e.Declares name spec := by
  cases e with
  | text s =>
      rw [draft, mem_readBody_iff]
      exact ⟨.plain, fun hdeclares => by cases hdeclares; assumption⟩
  | table t =>
      simp only [draft, onlyDeclares_append] at h ⊢
      obtain ⟨⟨-, htemplate⟩, hvariables⟩ := h
      rw [List.mem_append, List.mem_append, mem_readList_iff,
        Table.mem_readTemplate_iff htemplate, mem_readVariables_iff hvariables]
      constructor
      · rintro ((⟨raw, hraw, hspec⟩ | ht) | ⟨⟨var, d⟩, hvar, e, he, hdeclares⟩)
        · exact .listed hraw hspec
        · exact .template ht
        · exact .inVariable hvar he hdeclares
      · intro hdeclares
        cases hdeclares with
        | listed hraw hspec => exact .inl (.inl ⟨_, hraw, hspec⟩)
        | template ht => exact .inl (.inr ht)
        | inVariable hvar he hdeclares => exact .inr ⟨_, hvar, _, he, hdeclares⟩

end Findings

/-! ## Messages that are built -/

/-- Names that are all different come out in strictly increasing order. -/
theorem Declarations.pairwise_sortedNames {d : Declarations} (h : (d.types.map (·.1)).Nodup) :
    d.sortedNames.Pairwise (· < ·) :=
  pairwise_lt_sorted h

/-- The names in a list that is not at fault, item by item. -/
theorem forall₂_of_readList {args names : List String} (h : OnlyDeclares (readList args).2)
    (hnames : (readList args).1 = some names) :
    List.Forall₂ (fun raw name => ∃ spec, WritesSpec raw name spec) args names := by
  have hargs : args.isEmpty = false := by
    cases args with
    | nil => cases hnames
    | cons raw args => rfl
  simp only [readList, hargs, Bool.false_eq_true, if_false, Option.some.injEq] at hnames
  subst hnames
  clear hargs
  induction args with
  | nil => exact .nil
  | cons raw args ih =>
      have hrest : OnlyDeclares (readList args).2 := fun f hf => h f (List.mem_cons_of_mem _ hf)
      obtain ⟨name, spec, heq⟩ := h _ List.mem_cons_self
      dsimp only at heq
      rw [List.map_cons]
      split at heq
      · next name' spec' hraw =>
          simp only [List.filterMap_cons]
          exact .cons ⟨spec', nameAndSpec?_eq_some_iff.1 hraw⟩ (ih hrest)
      · cases heq

theorem readList_eq_none_iff {args : List String} : (readList args).1 = none ↔ args = [] := by
  simp [readList]

theorem Entry.listed_draft (e : Entry) : e.draft.listed = (readList e.args).1 := by
  cases e with
  | text s => rfl
  | table t => rfl

/-- The arguments of a message are those in the order, each with its type. -/
theorem Draft.mem_arguments_message {d : Draft} {name : String} {types : List (String × ArgType)}
    {order : List String} {a : Argument} :
    a ∈ (d.message name types order).arguments ↔
      a.name ∈ order ∧ types.lookup a.name = some a.type := by
  simp only [message, List.mem_filterMap, Option.map_eq_some_iff]
  constructor
  · rintro ⟨x, hx, type, htype, rfl⟩
    exact ⟨hx, htype⟩
  · rintro ⟨hx, htype⟩
    exact ⟨a.name, hx, a.type, htype, rfl⟩

section Built

variable {specifiers : Specifiers} {site : Site} {e : Entry} {m : Message}

theorem collects_of_buildMessage (h : buildMessage specifiers site e = .ok m) :
    Declarations.Collects specifiers e.draft.findings [] (e.declared specifiers site).types :=
  Declarations.collects_of_silent (buildMessage_eq_ok.1 h).1

theorem onlyDeclares_of_buildMessage (h : buildMessage specifiers site e = .ok m) :
    OnlyDeclares e.draft.findings := by
  intro f hf
  obtain ⟨name, spec, -, heq, -⟩ := (collects_of_buildMessage h).agrees f hf
  exact ⟨name, spec, heq⟩

/-- Every specifier of an argument stands for the type that is collected for it. -/
theorem lookup_of_declares (h : buildMessage specifiers site e = .ok m) {name : String}
    {spec : Char} (hdeclares : e.Declares name spec) :
    ∃ type, specifiers.get? spec = some type ∧
      (e.declared specifiers site).types.lookup name = some type := by
  have hfound := (Entry.mem_findings_iff (onlyDeclares_of_buildMessage h)).2 hdeclares
  obtain ⟨_, _, type, heq, hspec, htype⟩ := (collects_of_buildMessage h).agrees _ hfound
  cases heq
  exact ⟨type, hspec, htype⟩

theorem exists_declares_of_lookup (h : buildMessage specifiers site e = .ok m) {name : String}
    {type : ArgType} (htype : (e.declared specifiers site).types.lookup name = some type) :
    ∃ spec, e.Declares name spec := by
  have hmem := mem_of_lookup htype
  rcases (collects_of_buildMessage h).found _ hmem with hnone | ⟨spec, hfound⟩
  · cases hnone
  · exact ⟨spec, (Entry.mem_findings_iff (onlyDeclares_of_buildMessage h)).1 hfound⟩

theorem mem_order_iff (h : buildMessage specifiers site e = .ok m) {name : String} :
    name ∈ e.order specifiers site ↔
      ((e.declared specifiers site).types.lookup name).isSome := by
  obtain ⟨hfailures, hlisted, -⟩ := buildMessage_eq_ok.1 h
  refine ⟨e.isSome_lookup_of_mem_order hfailures, fun hsome => ?_⟩
  obtain ⟨type, htype⟩ := Option.isSome_iff_exists.1 hsome
  have hmem := mem_of_lookup htype
  unfold Entry.order
  cases hlist : e.draft.listed with
  | none => exact Declarations.mem_sortedNames_iff.2 ⟨type, hmem⟩
  | some names => exact hlisted names hlist _ hmem

theorem mem_arguments_iff_lookup (h : buildMessage specifiers site e = .ok m) {a : Argument} :
    a ∈ m.arguments ↔ (e.declared specifiers site).types.lookup a.name = some a.type := by
  obtain ⟨-, -, rfl⟩ := buildMessage_eq_ok.1 h
  rw [Draft.mem_arguments_message, mem_order_iff h, and_iff_right_iff_imp]
  intro htype
  rw [htype, Option.isSome_some]

/-- The arguments are those that are declared, with the types of their specifiers. -/
theorem mem_arguments_iff_declares (h : buildMessage specifiers site e = .ok m) {a : Argument} :
    a ∈ m.arguments ↔ ∃ spec, e.Declares a.name spec ∧ specifiers.get? spec = some a.type := by
  rw [mem_arguments_iff_lookup h]
  constructor
  · intro htype
    obtain ⟨spec, hdeclares⟩ := exists_declares_of_lookup h htype
    obtain ⟨type, hspec, htype'⟩ := lookup_of_declares h hdeclares
    rw [htype] at htype'
    cases htype'
    exact ⟨spec, hdeclares, hspec⟩
  · rintro ⟨spec, hdeclares, hspec⟩
    obtain ⟨type, hspec', htype⟩ := lookup_of_declares h hdeclares
    rw [hspec] at hspec'
    cases hspec'
    exact htype

theorem map_name_of_buildMessage (h : buildMessage specifiers site e = .ok m) :
    m.arguments.map (·.name) = e.order specifiers site := by
  obtain ⟨-, -, rfl⟩ := buildMessage_eq_ok.1 h
  exact Draft.map_name_message fun x hx => (mem_order_iff h).1 hx

/-- A list in front gives the order. -/
theorem forall₂_args_of_buildMessage (h : buildMessage specifiers site e = .ok m)
    (hargs : e.args ≠ []) :
    List.Forall₂ (fun raw a => ∃ spec, WritesSpec raw a.name spec) e.args m.arguments := by
  have honly : OnlyDeclares (readList e.args).2 := by
    have hall := onlyDeclares_of_buildMessage h
    cases e with
    | text s => exact absurd rfl hargs
    | table t =>
        simp only [Entry.draft, onlyDeclares_append] at hall
        exact hall.1.1
  obtain ⟨names, hnames⟩ := Option.ne_none_iff_exists'.1 (mt readList_eq_none_iff.1 hargs)
  have horder : m.arguments.map (·.name) = names := by
    rw [map_name_of_buildMessage h, Entry.order, Entry.listed_draft, hnames]
    rfl
  have hforall := forall₂_of_readList honly hnames
  rwa [← horder, List.forall₂_map_right_iff] at hforall

/-- Without a list, the order is that of the names. -/
theorem pairwise_lt_of_buildMessage (h : buildMessage specifiers site e = .ok m)
    (hargs : e.args = []) : m.arguments.Pairwise fun a b => a.name < b.name := by
  have hnodup := (collects_of_buildMessage h).nodup List.nodup_nil
  have horder : m.arguments.map (·.name) = (e.declared specifiers site).sortedNames := by
    rw [map_name_of_buildMessage h, Entry.order, Entry.listed_draft,
      readList_eq_none_iff.2 hargs]
    rfl
  rw [← List.pairwise_map, horder]
  exact Declarations.pairwise_sortedNames hnodup

end Built

/-- Arguments in the order of their names are the same if they are the same in any order. -/
theorem arguments_eq_of_mem_iff {as bs : List Argument}
    (has : as.Pairwise fun a b => a.name < b.name) (hbs : bs.Pairwise fun a b => a.name < b.name)
    (h : ∀ a, a ∈ as ↔ a ∈ bs) : as = bs :=
  eq_of_pairwise_lt has hbs h

/-- A message that is built has the arguments that its entry declares, each with the type that every
one of its specifiers stands for. A list in front gives their order, and otherwise their names do,
so that nothing but the names and types that are declared decides what the arguments are. -/
theorem buildMessage_arguments {specifiers : Specifiers} {site : Site} {e : Entry} {m : Message}
    (h : buildMessage specifiers site e = .ok m) :
    (∀ name, name ∈ m.arguments.map (·.name) ↔ ∃ spec, e.Declares name spec) ∧
    (∀ a ∈ m.arguments, ∀ spec, e.Declares a.name spec → specifiers.get? spec = some a.type) ∧
    (e.args ≠ [] →
      List.Forall₂ (fun raw a => ∃ spec, WritesSpec raw a.name spec) e.args m.arguments) ∧
    (e.args = [] → m.arguments.Pairwise fun a b => a.name < b.name) ∧
    ∀ specifiers' site' e' m', buildMessage specifiers' site' e' = .ok m' →
      e.args = [] → e'.args = [] →
      (∀ name type, (∃ spec, e.Declares name spec ∧ specifiers.get? spec = some type) ↔
        ∃ spec, e'.Declares name spec ∧ specifiers'.get? spec = some type) →
      m.arguments = m'.arguments := by
  refine ⟨fun name => ?_, fun a ha spec hdeclares => ?_, forall₂_args_of_buildMessage h,
    pairwise_lt_of_buildMessage h, fun specifiers' site' e' m' h' hargs hargs' hsame => ?_⟩
  · rw [map_name_of_buildMessage h, mem_order_iff h, Option.isSome_iff_exists]
    constructor
    · rintro ⟨type, htype⟩
      exact exists_declares_of_lookup h htype
    · rintro ⟨spec, hdeclares⟩
      obtain ⟨type, -, htype⟩ := lookup_of_declares h hdeclares
      exact ⟨type, htype⟩
  · obtain ⟨type, hspec, htype⟩ := lookup_of_declares h hdeclares
    rw [(mem_arguments_iff_lookup h).1 ha] at htype
    rw [hspec, htype]
  · refine arguments_eq_of_mem_iff (pairwise_lt_of_buildMessage h hargs)
      (pairwise_lt_of_buildMessage h' hargs') fun a => ?_
    rw [mem_arguments_iff_declares h, mem_arguments_iff_declares h', hsame]

theorem exists_buildMessage_of_unlisted {specifiers : Specifiers} {site : Site} {e : Entry}
    (hargs : e.args = []) (h : (e.declared specifiers site).failures = []) :
    ∃ m, buildMessage specifiers site e = .ok m := by
  refine ⟨_, buildMessage_eq_ok.2 ⟨h, fun names hnames => ?_, rfl⟩⟩
  rw [Entry.listed_draft, readList_eq_none_iff.2 hargs] at hnames
  cases hnames

/-- A text that declares two arguments. -/
def parcelText : Entry := .text "\x7buser:s\x7d gets \x7bcount:d\x7d"

/-- The same arguments, one of them by the driver and one in a variable. -/
def parcelTable : Entry :=
  .table
    { plural := some "count:d"
      one := some "a parcel for \x7buser\x7d"
      other := some "\x7bcount\x7d parcels for \x7b@whom\x7d"
      vars := [("whom", .text "\x7b user :s\x7d")] }

theorem findings_parcelText :
    parcelText.draft.findings = [.declares "user" 's', .declares "count" 'd'] := by
  decide +kernel

theorem findings_parcelTable :
    parcelTable.draft.findings = [.declares "count" 'd', .declares "user" 's'] := by
  decide +kernel

theorem parcelText_declares_iff {name : String} {spec : Char} :
    parcelText.Declares name spec ↔ name = "user" ∧ spec = 's' ∨ name = "count" ∧ spec = 'd' := by
  rw [← Entry.mem_findings_iff (by simp [findings_parcelText, OnlyDeclares]), findings_parcelText]
  simp

theorem parcelTable_declares_iff {name : String} {spec : Char} :
    parcelTable.Declares name spec ↔ name = "user" ∧ spec = 's' ∨ name = "count" ∧ spec = 'd' := by
  rw [← Entry.mem_findings_iff (by simp [findings_parcelTable, OnlyDeclares]),
    findings_parcelTable]
  simp [or_comm]

theorem buildMessage_arguments_parcel :
    ∃ m m', buildMessage {} ⟨"en", "post.json", "parcel"⟩ parcelText = .ok m ∧
      buildMessage {} ⟨"de", "post.json", "parcel"⟩ parcelTable = .ok m' ∧
      (∀ name, name ∈ m.arguments.map (·.name) ↔ name = "user" ∨ name = "count") ∧
      (m.arguments.Pairwise fun a b => a.name < b.name) ∧ m.arguments = m'.arguments := by
  obtain ⟨m, hm⟩ : ∃ m, buildMessage {} ⟨"en", "post.json", "parcel"⟩ parcelText = .ok m := by
    refine exists_buildMessage_of_unlisted rfl ?_
    rw [Entry.declared, findings_parcelText]
    rfl
  obtain ⟨m', hm'⟩ : ∃ m, buildMessage {} ⟨"de", "post.json", "parcel"⟩ parcelTable = .ok m := by
    refine exists_buildMessage_of_unlisted rfl ?_
    rw [Entry.declared, findings_parcelTable]
    rfl
  obtain ⟨hnames, -, -, hincreasing, hsame⟩ := buildMessage_arguments hm
  refine ⟨m, m', hm, hm', fun name => ?_, hincreasing rfl, ?_⟩
  · rw [hnames]
    simp only [parcelText_declares_iff, exists_or, exists_and_left, exists_eq, and_true]
  · refine hsame {} _ parcelTable m' hm' rfl rfl fun name type => ?_
    simp only [parcelText_declares_iff, parcelTable_declares_iff]

end Definition

end Phrasebook
