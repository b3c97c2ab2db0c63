import Phrasebook.Definition.Building
import Phrasebook.Proofs.Schema.WellFormed

set_option autoImplicit false

/-! # What variables receive

Definitions do not say which arguments a variable receives: it is given those that it uses, itself
or through other variables, however far away (`Message.Uses`). Validation looks at each reference by
itself: whatever the template of a variable names has to be among the arguments of the variable, and
so has whatever the variables that it inserts receive. The first implies the second, because use is
handed on along every reference (`Message.Uses.of_refers`). So building and validation agree
(`build_receives`). That needs no template to make sense: the references may go round in circles, or
lead to variables that there are not. -/

namespace Phrasebook

open Relation (ReflTransGen)

namespace Message

/-- The variable `var`, or one that it leads to, names the argument `x` in its template. -/
def Uses (m : Message) (var x : String) : Prop :=
  ∃ y, ReflTransGen m.Refers var y ∧
    ∃ w, m.variableNamed? y = some w ∧ x ∈ w.template.argumentRefs

section Uses

variable {m : Message} {var x y : String}

theorem Uses.of_named {v : Variable} (hv : m.variableNamed? var = some v)
    (hx : x ∈ v.template.argumentRefs) : m.Uses var x :=
  ⟨var, .refl, v, hv, hx⟩

/-- What is used by a variable is used by all that refer to it. -/
theorem Uses.of_refers (hvar : m.Refers var y) (hy : m.Uses y x) : m.Uses var x := by
  obtain ⟨z, hyz, hz⟩ := hy
  exact ⟨z, .head hvar hyz, hz⟩

/-- The search through the references finds all uses. -/
theorem mem_usedBy_iff : x ∈ Definition.usedBy m var ↔ m.Uses var x := by
  unfold Definition.usedBy Uses
  rw [List.mem_flatMap]
  refine exists_congr fun y => and_congr ?_ ?_
  · rw [mem_reach_iff]
    simp
  · cases m.variableNamed? y with
    | none => simp
    | some w => simp

instance : DecidablePred (m.Uses var) := fun _ => decidable_of_iff _ mem_usedBy_iff

end Uses

/-- Every variable receives those arguments of the message that it uses, in their order. -/
def ReceivesUsed (m : Message) : Prop :=
  ∀ v ∈ m.vars, v.arguments = (m.arguments.map (·.name)).filter (m.Uses v.name)

theorem ReceivesUsed.mem_arguments_iff {m : Message} {v : Variable} {x : String}
    (h : m.ReceivesUsed) (hv : v ∈ m.vars) :
    x ∈ v.arguments ↔ (m.argumentNamed? x).isSome ∧ m.Uses v.name x := by
  rw [h v hv, List.mem_filter, decide_eq_true_iff, isSome_argumentNamed?_iff, List.mem_map]

/-! ## Change of arguments

Which arguments are used does not depend on which ones the variables are given. -/

section Change

variable {m : Message} {f : Variable → Variable} (hname : ∀ v, (f v).name = v.name)

include hname

theorem variableNamed?_map (name : String) :
    Message.variableNamed? { m with vars := m.vars.map f } name =
      (m.variableNamed? name).map f := by
  have hsame : (fun v : Variable => v.name == name) ∘ f = fun v => v.name == name :=
    funext fun v => by simp [hname]
  rw [variableNamed?, variableNamed?, List.find?_map, hsame]

variable (htemplate : ∀ v, (f v).template = v.template)

include htemplate

theorem refers_map : Refers { m with vars := m.vars.map f } = m.Refers := by
  funext x y
  rw [Refers, Refers, refsOf, refsOf, variableNamed?_map hname]
  cases m.variableNamed? x with
  | none => rfl
  | some v => simp [htemplate]

theorem uses_map_iff {var x : String} :
    Uses { m with vars := m.vars.map f } var x ↔ m.Uses var x := by
  unfold Uses
  rw [refers_map hname htemplate]
  refine exists_congr fun y => and_congr_right' ?_
  rw [variableNamed?_map hname]
  cases m.variableNamed? y with
  | none => simp
  | some w => simp [htemplate]

end Change

end Message

/-! ## Building -/

namespace Definition

namespace Declarations

variable {specifiers : Specifiers} {site : Site} {d : Declarations} {name : String}

/-- A finding that does not fail is a declaration whose specifier has a type: the type of a new
argument, or that which the argument has already. -/
theorem add_cases {f : Finding} (h : (d.add specifiers site f).failures = []) :
    ∃ name spec type, f = .declares name spec ∧ specifiers.get? spec = some type ∧
      (d.types.lookup name = none ∧
          d.add specifiers site f = { d with types := d.types ++ [(name, type)] } ∨
        d.types.lookup name = some type ∧ d.add specifiers site f = d) := by
  cases f with
  | declares name spec =>
      simp only [add] at h ⊢
      cases hspec : specifiers.get? spec with
      | none => simp [hspec, fail] at h
      | some type =>
          refine ⟨name, spec, type, rfl, hspec, ?_⟩
          cases hfirst : d.types.lookup name with
          | none => exact .inl ⟨rfl, rfl⟩
          | some first =>
              by_cases hsame : first = type
              · subst hsame
                exact .inr ⟨rfl, by simp⟩
              · simp [hspec, hfirst, hsame, fail] at h
  | fault _ | malformed _ | conflict _ | misshapen _ => simp [add, fail] at h

/-- A failure stays. -/
theorem failures_eq_nil_of_foldl {fs : List Finding}
    (h : (fs.foldl (add specifiers site) d).failures = []) : d.failures = [] := by
  induction fs generalizing d with
  | nil => exact h
  | cons f fs ih =>
      have hadded := ih h
      obtain ⟨_, _, _, -, -, ⟨-, hadd⟩ | ⟨-, hadd⟩⟩ := add_cases hadded
      · rw [hadd] at hadded
        exact hadded
      · rw [hadd] at hadded
        exact hadded

/-- What findings make of the types that are declared before them: each finding is a declaration
that agrees with the types in the end, and each type in the end was there or has been found. -/
structure Collects (specifiers : Specifiers) (fs : List Finding)
    (before after : List (String × ArgType)) : Prop where
  keeps : ∀ {name type}, before.lookup name = some type → after.lookup name = some type
  agrees : ∀ f ∈ fs, ∃ name spec type, f = .declares name spec ∧
    specifiers.get? spec = some type ∧ after.lookup name = some type
  found : ∀ x ∈ after, x ∈ before ∨ ∃ spec, .declares x.1 spec ∈ fs
  nodup : (before.map (·.1)).Nodup → (after.map (·.1)).Nodup

theorem Collects.cons {f : Finding} {fs : List Finding} {t u v : List (String × ArgType)}
    (hf : Collects specifiers [f] t u) (hfs : Collects specifiers fs u v) :
    Collects specifiers (f :: fs) t v where
  keeps h := hfs.keeps (hf.keeps h)
  agrees g hg := by
    rcases List.mem_cons.1 hg with rfl | hg
    · obtain ⟨name, spec, type, hg, hspec, htype⟩ := hf.agrees g List.mem_cons_self
      exact ⟨name, spec, type, hg, hspec, hfs.keeps htype⟩
    · exact hfs.agrees g hg
  found x hx := by
    rcases hfs.found x hx with hx | ⟨spec, hspec⟩
    · rcases hf.found x hx with hx | ⟨spec, hspec⟩
      · exact .inl hx
      · have hfound : .declares x.1 spec ∈ f :: fs :=
          List.mem_singleton.1 hspec ▸ List.mem_cons_self
        exact .inr ⟨spec, hfound⟩
    · exact .inr ⟨spec, List.mem_cons_of_mem _ hspec⟩
  nodup h := hfs.nodup (hf.nodup h)

theorem notMem_names_of_lookup {types : List (String × ArgType)}
    (h : types.lookup name = none) : name ∉ types.map (·.1) := by
  rw [List.lookup_eq_none_iff] at h
  intro hmem
  obtain ⟨x, hx, rfl⟩ := List.mem_map.1 hmem
  simpa using h x hx

theorem collects_add {f : Finding} (h : (d.add specifiers site f).failures = []) :
    Collects specifiers [f] d.types (d.add specifiers site f).types := by
  obtain ⟨name, spec, type, rfl, hspec, ⟨hnew, hadd⟩ | ⟨hold, hadd⟩⟩ := add_cases h
  · rw [hadd]
    constructor
    · intro name' type' hbefore
      rw [List.lookup_append, hbefore, Option.some_or]
    · intro f hf
      refine ⟨name, spec, type, List.mem_singleton.1 hf, hspec, ?_⟩
      simp [List.lookup_append, hnew]
    · intro x hx
      rcases List.mem_append.1 hx with hx | hx
      · exact .inl hx
      · rw [List.mem_singleton.1 hx]
        exact .inr ⟨spec, List.mem_singleton_self _⟩
    · intro hnodup
      rw [List.map_append]
      refine List.Nodup.append hnodup (List.nodup_singleton _) ?_
      exact List.disjoint_singleton.2 (notMem_names_of_lookup hnew)
  · rw [hadd]
    refine ⟨fun h => h, fun f hf => ?_, fun x hx => .inl hx, fun h => h⟩
    exact ⟨name, spec, type, List.mem_singleton.1 hf, hspec, hold⟩

/-- If nothing fails, all findings are collected. -/
theorem collects_of_silent {fs : List Finding}
    (h : (fs.foldl (add specifiers site) d).failures = []) :
    Collects specifiers fs d.types (fs.foldl (add specifiers site) d).types := by
  induction fs generalizing d with
  | nil =>
      exact ⟨fun h => h, fun f hf => (List.not_mem_nil hf).elim, fun x hx => .inl hx, fun h => h⟩
  | cons f fs ih => exact (collects_add (failures_eq_nil_of_foldl h)).cons (ih h)

/-- If nothing fails, every declaration declares its argument. -/
theorem isSome_lookup_of_mem {fs : List Finding} {spec : Char}
    (h : (fs.foldl (add specifiers site) d).failures = []) (hmem : .declares name spec ∈ fs) :
    ((fs.foldl (add specifiers site) d).types.lookup name).isSome := by
  obtain ⟨name', spec', type, heq, -, htype⟩ := (collects_of_silent h).agrees _ hmem
  cases heq
  rw [htype]
  rfl

theorem mem_sortedNames_iff : name ∈ d.sortedNames ↔ ∃ type, (name, type) ∈ d.types := by
  have hsorted : name ∈ d.sortedNames ↔ name ∈ d.types.map (·.1) :=
    (List.mergeSort_perm _ _).mem_iff
  rw [hsorted, List.mem_map]
  simp

end Declarations

/-- Every argument that is listed is also declared. -/
theorem declares_of_mem_readList {args names : List String} {name : String}
    (h : (readList args).1 = some names) (hname : name ∈ names) :
    ∃ spec, Finding.declares name spec ∈ (readList args).2 := by
  unfold readList at h ⊢
  by_cases hargs : args.isEmpty
  · simp [hargs] at h
  · simp only [if_neg hargs, Option.some.injEq] at h
    subst h
    obtain ⟨⟨_, finding⟩, hread, rfl⟩ := List.mem_filterMap.1 hname
    obtain ⟨raw, hraw, heq⟩ := List.mem_map.1 hread
    refine Exists.imp (fun spec hspec => List.mem_map.2 ⟨_, hread, hspec⟩) ?_
    -- only an item with a specifier gives a name
    split at heq
    · next spec _ =>
        cases heq
        exact ⟨spec, rfl⟩
    · cases heq

theorem Entry.declares_of_listed {e : Entry} {names : List String} {name : String}
    (h : e.draft.listed = some names) (hname : name ∈ names) :
    ∃ spec, Finding.declares name spec ∈ e.draft.findings := by
  cases e with
  | text s => cases h
  | table t =>
      obtain ⟨spec, hspec⟩ := declares_of_mem_readList h hname
      exact ⟨spec, List.mem_append_left _ (List.mem_append_left _ hspec)⟩

/-- The arguments of a message are those in the order, if each has a type. -/
theorem Draft.map_name_message {d : Draft} {name : String} {types : List (String × ArgType)}
    {order : List String} (h : ∀ x ∈ order, (types.lookup x).isSome) :
    (d.message name types order).arguments.map (·.name) = order := by
  have hargs : (d.message name types order).arguments =
      order.filterMap fun x => (types.lookup x).map fun type => { name := x, type } := rfl
  rw [hargs, List.map_filterMap]
  calc
    order.filterMap (fun x => ((types.lookup x).map fun type =>
        ({ name := x, type } : Argument)).map (·.name))
      = order.filterMap some := by
        refine List.filterMap_congr fun x hx => ?_
        obtain ⟨type, htype⟩ := Option.isSome_iff_exists.1 (h x hx)
        simp [htype]
    _ = order := List.filterMap_some

theorem Draft.map_name_vars {d : Draft} {name : String} {types : List (String × ArgType)}
    {order : List String} :
    (d.message name types order).vars.map (·.name) = d.vars.map (·.name) := by
  simp [Draft.message, Function.comp_def]

theorem Draft.receivesUsed_message {d : Draft} {name : String}
    {types : List (String × ArgType)} {order : List String}
    (h : ∀ x ∈ order, (types.lookup x).isSome) :
    (d.message name types order).ReceivesUsed := by
  intro v hv
  rw [map_name_message h]
  obtain ⟨w, hw, rfl⟩ := List.mem_map.1 hv
  refine List.filter_congr fun x _ => decide_eq_decide.2 ?_
  rw [Message.mem_usedBy_iff, Draft.message]
  refine (Message.uses_map_iff ?_ ?_).symm
  · intro w
    rfl
  · intro w
    rfl

variable {specifiers : Specifiers} {language : String}

/-- What an entry declares. -/
def Entry.declared (specifiers : Specifiers) (site : Site) (e : Entry) : Declarations :=
  Declarations.ofFindings specifiers site e.draft.findings

/-- The arguments of an entry in their order. -/
def Entry.order (specifiers : Specifiers) (site : Site) (e : Entry) : List String :=
  e.draft.listed.getD (e.declared specifiers site).sortedNames

/-- A message is built from the draft of its entry if nothing is wrong with the declarations, and a
list in front leaves none of them out. -/
theorem buildMessage_eq_ok {site : Site} {e : Entry} {m : Message} :
    buildMessage specifiers site e = .ok m ↔
      (e.declared specifiers site).failures = [] ∧
      (∀ names, e.draft.listed = some names →
        ∀ x ∈ (e.declared specifiers site).types, x.1 ∈ names) ∧
      e.draft.message site.message (e.declared specifiers site).types
        (e.order specifiers site) = m := by
  simp only [buildMessage, Entry.order, Entry.declared]
  generalize Declarations.ofFindings specifiers site e.draft.findings = declared
  cases hlisted : e.draft.listed with
  | none =>
      by_cases hf : declared.failures = []
      · simp [hf]
      · simp [hf]
  | some names =>
      have hall : declared.sortedNames.filter (· ∉ names) = [] ↔
          ∀ x ∈ declared.types, x.1 ∈ names := by
        rw [List.filter_eq_nil_iff]
        constructor
        · intro h x hx
          simpa using h x.1 (Declarations.mem_sortedNames_iff.2 ⟨x.2, hx⟩)
        · intro h x hx
          obtain ⟨type, htype⟩ := Declarations.mem_sortedNames_iff.1 hx
          simpa using h _ htype
      split_ifs with hok
      · rw [List.isEmpty_iff, List.append_eq_nil_iff, List.map_eq_nil_iff, hall] at hok
        simpa [hok.1] using fun _ => hok.2
      · rw [List.isEmpty_iff, List.append_eq_nil_iff, List.map_eq_nil_iff, hall] at hok
        constructor
        · intro h
          cases h
        · intro h
          exact absurd ⟨h.1, h.2.1 names rfl⟩ hok

/-- If nothing is wrong with the declarations, every argument in the order has a type. -/
theorem Entry.isSome_lookup_of_mem_order {site : Site} {e : Entry} {x : String}
    (h : (e.declared specifiers site).failures = []) (hx : x ∈ e.order specifiers site) :
    ((e.declared specifiers site).types.lookup x).isSome := by
  unfold order at hx
  cases hlisted : e.draft.listed with
  | none =>
      rw [hlisted] at hx
      obtain ⟨type, htype⟩ := Declarations.mem_sortedNames_iff.1 hx
      rw [List.lookup_isSome_iff]
      exact ⟨_, htype, by simp⟩
  | some names =>
      rw [hlisted] at hx
      obtain ⟨spec, hspec⟩ := e.declares_of_listed hlisted hx
      exact Declarations.isSome_lookup_of_mem h hspec

theorem receivesUsed_of_buildMessage {site : Site} {e : Entry} {m : Message}
    (h : buildMessage specifiers site e = .ok m) : m.ReceivesUsed := by
  obtain ⟨hfailures, -, rfl⟩ := buildMessage_eq_ok.1 h
  exact Draft.receivesUsed_message fun x hx => e.isSome_lookup_of_mem_order hfailures hx

/-- Every message that is built is built from one of the entries. -/
theorem exists_entry_of_mem {seen : List String} {entries : List (String × String × Entry)}
    {m : Message} (h : m ∈ (buildMessages specifiers language seen entries).2) :
    ∃ path name e, (path, name, e) ∈ entries ∧
      buildMessage specifiers { language, path, message := name } e = .ok m := by
  induction entries generalizing seen with
  | nil => cases h
  | cons entry rest ih =>
      obtain ⟨path, name, e⟩ := entry
      have hrest : m ∈ (buildMessages specifiers language (name :: seen) rest).2 →
          ∃ path' name' e', (path', name', e') ∈ (path, name, e) :: rest ∧
            buildMessage specifiers { language, path := path', message := name' } e' = .ok m := by
        intro hm
        obtain ⟨path', name', e', hmem, hbuilt⟩ := ih hm
        exact ⟨path', name', e', List.mem_cons_of_mem _ hmem, hbuilt⟩
      simp only [buildMessages] at h
      split at h
      · exact hrest h
      · cases hm : buildMessage specifiers { language, path, message := name } e with
        | error fs =>
            rw [hm] at h
            exact hrest h
        | ok m' =>
            rw [hm] at h
            rcases List.mem_cons.1 h with rfl | h
            · exact ⟨path, name, e, List.mem_cons_self, hm⟩
            · exact hrest h

/-- Every message of a localization that is built is built from an entry of a document. -/
theorem build_eq_ok {documents : List Document} {l : Localization} {m : Message}
    (h : (build specifiers language documents).result = .ok l) (hm : m ∈ l.messages) :
    ∃ d ∈ documents, ∃ name e, (name, e) ∈ d.messages ∧
      buildMessage specifiers { language, path := d.path, message := name } e = .ok m := by
  simp only [build, Traced.result_bind, Traced.result_liftM, Traced.result_step,
    Traced.result_pure] at h
  obtain ⟨-, -, hl⟩ := bind_eq_ok.1 h
  cases hl
  obtain ⟨path, name, e, hmem, hbuilt⟩ := exists_entry_of_mem hm
  obtain ⟨d, hd, hentry⟩ := List.mem_flatMap.1 hmem
  obtain ⟨⟨name', e'⟩, hmem', heq⟩ := List.mem_map.1 hentry
  cases heq
  exact ⟨d, hd, _, _, hmem', hbuilt⟩

/-- No two variables of an entry have the same name. -/
def Entry.VariablesApart : Entry → Prop
  | .text _ => True
  | .table t => (t.vars.map (·.1)).Nodup

theorem Entry.readAll_eq_ok {members : List (String × Data.Datum)}
    {entries : List (String × Entry)} :
    Entry.readAll members = .ok entries ↔
      List.Forall₂ (fun x y => y.1 = x.1 ∧ Entry.ofDatum? x.2 = some y.2) members entries := by
  rw [Entry.readAll, mapM_eq_ok]
  constructor
  · refine fun h => h.imp ?_
    rintro ⟨var, d⟩ ⟨var', e⟩ heq
    dsimp only at heq ⊢
    split at heq
    · next e' he =>
        cases heq
        exact ⟨rfl, he⟩
    · cases heq
  · refine fun h => h.imp ?_
    rintro ⟨var, d⟩ ⟨var', e⟩ ⟨rfl, he⟩
    dsimp only at he ⊢
    rw [he]

theorem nodup_readVariables {members : List (String × Data.Datum)}
    (h : (members.map (·.1)).Nodup) : ((readVariables members).1.map (·.name)).Nodup := by
  unfold readVariables
  cases hread : Entry.readAll members with
  | error name => simp
  | ok entries =>
      have hnames : members.map (·.1) = entries.map (·.1) :=
        map_eq_map_of_forall₂ (Entry.readAll_eq_ok.1 hread) fun x y h => h.1.symm
      rw [hnames] at h
      simpa [Function.comp_def] using h

theorem Entry.VariablesApart.nodup_draft {e : Entry} (h : e.VariablesApart) :
    (e.draft.vars.map (·.name)).Nodup := by
  cases e with
  | text s => simp [Entry.draft]
  | table t => exact nodup_readVariables h

/-- The variables of a message that is built are found by their names. -/
theorem variableNamed?_of_buildMessage {site : Site} {e : Entry} {m : Message} {v : Variable}
    (h : buildMessage specifiers site e = .ok m) (hapart : e.VariablesApart) (hv : v ∈ m.vars) :
    m.variableNamed? v.name = some v := by
  obtain ⟨-, -, rfl⟩ := buildMessage_eq_ok.1 h
  refine find?_eq_some_of_nodup ?_ hv
  rw [Draft.map_name_vars]
  exact hapart.nodup_draft

end Definition

/-! ## Validation -/

/-- The violation is about the arguments that variables receive. -/
def Violation.concernsReceiving : Violation → Bool
  | .argumentNotInVariable _ => true
  | .variableArgumentNotInMessage _ => true
  | _ => false

/-- None of the violations is about the arguments that variables receive. -/
def Violation.NoneReceiving (vs : List Violation) : Prop :=
  ∀ v ∈ vs, v.concernsReceiving = false

open Violation

section Names

variable {raw name : String} {v : Violation}

theorem concernsReceiving_checkedName (h : checkedName raw name = .error v) :
    v.concernsReceiving = false := by
  unfold checkedName at h
  split_ifs at h
  cases h
  rfl

theorem concernsReceiving_parameterName (h : parameterName raw = .error v) :
    v.concernsReceiving = false := by
  rcases bind_eq_error.1 h with h | ⟨name, -, h⟩
  · exact concernsReceiving_checkedName h
  · split_ifs at h
    cases h
    rfl

theorem concernsReceiving_auxiliaryName (h : auxiliaryName raw name = .error v) :
    v.concernsReceiving = false := by
  rcases bind_eq_error.1 h with h | ⟨_, -, h⟩
  · exact concernsReceiving_checkedName h
  · exact concernsReceiving_checkedName h

theorem concernsReceiving_languageNames (h : languageNames raw = .error v) :
    v.concernsReceiving = false := by
  rcases bind_eq_error.1 h with h | ⟨module, -, h⟩
  · exact concernsReceiving_checkedName h
  · rcases bind_eq_error.1 h with h | ⟨type, -, h⟩
    · simp only [typeName] at h
      split_ifs at h
      · cases h
        rfl
      · exact concernsReceiving_checkedName h
    · cases h

end Names

theorem noneReceiving_append {vs ws : List Violation} :
    NoneReceiving (vs ++ ws) ↔ NoneReceiving vs ∧ NoneReceiving ws :=
  List.forall_mem_append

theorem noneReceiving_cons {v : Violation} {vs : List Violation} :
    NoneReceiving (v :: vs) ↔ v.concernsReceiving = false ∧ NoneReceiving vs :=
  List.forall_mem_cons

theorem noneReceiving_refused {α : Type} {r : Except Violation α}
    (h : ∀ v, r = .error v → v.concernsReceiving = false) : NoneReceiving (refused r) := by
  cases r with
  | ok a => simp [refused, NoneReceiving]
  | error v => simpa [refused, NoneReceiving] using h v rfl

theorem noneReceiving_of_located {l : Location} {vs : List Violation} (h : NoneReceiving vs) :
    ∀ e ∈ located l vs, e.violation.concernsReceiving = false := by
  intro e he
  obtain ⟨v, hv, rfl⟩ := List.mem_map.1 he
  exact h v hv

namespace Message

variable {m : Message} {width : IntegerWidth} {visible : Option (List String)}

/-- Whatever a template uses that is declared at all, it sees: the arguments that it names, and
those that the variables it inserts receive. -/
structure Sees (m : Message) (visible : Option (List String)) (args vars : List String) :
    Prop where
  args : ∀ x ∈ args, (m.argumentNamed? x).isSome → Visible visible x
  vars : ∀ y ∈ vars, ∀ v, m.variableNamed? y = some v → ∀ x ∈ v.arguments, Visible visible x

theorem Sees.mono {args args' vars vars' : List String} (h : m.Sees visible args vars)
    (hargs : args' ⊆ args) (hvars : vars' ⊆ vars) : m.Sees visible args' vars' :=
  ⟨fun x hx => h.args x (hargs hx), fun y hy => h.vars y (hvars hy)⟩

/-- The template of a message sees everything. -/
theorem sees_all {args vars : List String} : m.Sees none args vars := by
  constructor
  · intro x _ _ names hnames
    cases hnames
  · intro y _ v _ x _ names hnames
    cases hnames

theorem concernsReceiving_visibleType {name : String} {v : Violation}
    (hsees : (m.argumentNamed? name).isSome → Visible visible name)
    (h : m.visibleType visible name = .error v) : v.concernsReceiving = false := by
  unfold visibleType at h
  split at h
  · cases h
    rfl
  · next a ha =>
      have hvisible := hsees (by simp [ha])
      split at h
      · cases h
      · next names =>
          rw [if_pos (hvisible names rfl)] at h
          cases h

theorem noneReceiving_part {p : Part}
    (h : m.Sees visible p.argument?.toList p.var?.toList) :
    NoneReceiving (m.partViolations visible p) := by
  cases p with
  | literal text => simp [partViolations, NoneReceiving]
  | argument name directive =>
      have hsees := h.args name (by simp [Part.argument?])
      simp only [partViolations]
      split
      · next v hv =>
          simpa [NoneReceiving] using concernsReceiving_visibleType hsees hv
      · split
        · simp [NoneReceiving]
        · simp [NoneReceiving, concernsReceiving]
  | var name =>
      simp only [partViolations]
      split
      · simp [NoneReceiving, concernsReceiving]
      · simp [NoneReceiving]
      · next v names hv =>
          have hall : v.arguments.filter (· ∉ names) = [] := by
            refine List.filter_eq_nil_iff.2 fun x hx => ?_
            have hvisible := h.vars name (by simp [Part.var?]) v hv x hx
            simpa using hvisible names rfl
          rw [hall]
          simp [NoneReceiving]

theorem noneReceiving_body {b : Body} (h : m.Sees visible b.argumentRefs b.varRefs) :
    NoneReceiving (m.bodyViolations visible b) := by
  intro v hv
  obtain ⟨p, hp, hv⟩ := List.mem_flatMap.1 hv
  refine noneReceiving_part (h.mono ?_ ?_) v hv
  · intro x hx
    exact List.mem_filterMap.2 ⟨p, hp, Option.mem_toList.1 hx⟩
  · intro y hy
    exact List.mem_filterMap.2 ⟨p, hp, Option.mem_toList.1 hy⟩

theorem noneReceiving_plural {p : Plural}
    (h : m.Sees visible (Template.plural p).argumentRefs (Template.plural p).varRefs) :
    NoneReceiving (m.pluralViolations width visible p) := by
  unfold pluralViolations
  split_ifs with hempty
  · simp [NoneReceiving, concernsReceiving]
  all_goals
    rw [noneReceiving_append, noneReceiving_append]
    refine ⟨⟨?_, by simp [NoneReceiving, concernsReceiving]⟩, ?_⟩
    · -- the driver is an argument that the template names
      have hsees := h.args p.argument (by simp [Template.argumentRefs, Template.driver?])
      unfold driverViolations
      split
      · next v hv =>
          simpa [NoneReceiving] using concernsReceiving_visibleType hsees hv
      · simp [NoneReceiving]
      · simp [NoneReceiving, concernsReceiving]
    · intro v hv
      obtain ⟨b, hb, hv⟩ := List.mem_flatMap.1 hv
      have hbody : b.2 ∈ (Template.plural p).bodies := List.mem_map_of_mem hb
      refine noneReceiving_body (h.mono ?_ ?_) v hv
      · intro x hx
        exact List.mem_append_right _ (List.mem_flatMap.2 ⟨b.2, hbody, hx⟩)
      · intro y hy
        exact List.mem_flatMap.2 ⟨b.2, hbody, hy⟩

theorem noneReceiving_template {t : Template} (h : m.Sees visible t.argumentRefs t.varRefs) :
    NoneReceiving (m.templateViolations width visible t) := by
  cases t with
  | unset => simp [templateViolations, NoneReceiving, concernsReceiving]
  | plain b =>
      refine noneReceiving_body (h.mono ?_ ?_)
      · simp [Template.argumentRefs, Template.bodies, Template.driver?]
      · simp [Template.varRefs, Template.bodies]
  | plural p => exact noneReceiving_plural h

/-- A variable that receives what it uses sees all it needs to. -/
theorem ReceivesUsed.sees {v : Variable} (h : m.ReceivesUsed)
    (hv : m.variableNamed? v.name = some v) :
    m.Sees (some v.arguments) v.template.argumentRefs v.template.varRefs := by
  have hmem : v ∈ m.vars := (mem_of_variableNamed? hv).1
  constructor
  · intro x hx hdeclared names hnames
    cases hnames
    exact (h.mem_arguments_iff hmem).2 ⟨hdeclared, .of_named hv hx⟩
  · intro y hy w hw x hx names hnames
    cases hnames
    obtain ⟨hmem', rfl⟩ := mem_of_variableNamed? hw
    obtain ⟨hdeclared, huses⟩ := (h.mem_arguments_iff hmem').1 hx
    have hrefers : m.Refers v.name w.name := by
      rw [Refers, refsOf_of_named hv]
      exact hy
    exact (h.mem_arguments_iff hmem).2 ⟨hdeclared, .of_refers hrefers huses⟩

theorem noneReceiving_received {taken names : List String}
    (h : ∀ x ∈ names, (m.argumentNamed? x).isSome) :
    NoneReceiving (m.receivedViolations taken names) := by
  induction names generalizing taken with
  | nil => simp [receivedViolations, NoneReceiving]
  | cons name names ih =>
      rw [List.forall_mem_cons] at h
      rw [receivedViolations, noneReceiving_append, noneReceiving_append]
      refine ⟨⟨?_, by simp [NoneReceiving, concernsReceiving]⟩, ih h.2⟩
      have hdeclared : ¬ (m.argumentNamed? name).isNone := by
        simpa [Option.isSome_iff_ne_none] using h.1
      rw [if_neg hdeclared]
      simp [NoneReceiving]

/-- `taken` are the names of the variables before `vs`, so that the first variable of any other name
is among `vs`. -/
theorem noneReceiving_variables (h : m.ReceivesUsed) {language : String} {taken : List String}
    {vs : List Variable}
    (hfirst : ∀ name ∉ taken, m.variableNamed? name = vs.find? (·.name == name)) :
    ∀ e ∈ m.variableErrors language width taken vs, e.violation.concernsReceiving = false := by
  induction vs generalizing taken with
  | nil => simp [variableErrors]
  | cons v vs ih =>
      simp only [variableErrors]
      rw [List.forall_mem_append]
      constructor
      · refine noneReceiving_of_located (noneReceiving_append.2 ⟨?_, ?_⟩)
        · exact noneReceiving_refused fun w hw => concernsReceiving_auxiliaryName hw
        · split_ifs with htaken
          · simp [NoneReceiving, concernsReceiving]
          · -- only the first variable of a name is looked at, and that is the one it stands for
            have hv : m.variableNamed? v.name = some v := by
              rw [hfirst v.name htaken]
              simp
            have hmem : v ∈ m.vars := (mem_of_variableNamed? hv).1
            refine noneReceiving_append.2 ⟨?_, noneReceiving_template (h.sees hv)⟩
            exact noneReceiving_received fun x hx => ((h.mem_arguments_iff hmem).1 hx).1
      · refine ih fun name hname => ?_
        obtain ⟨hne, htaken⟩ := not_or.1 (mt List.mem_cons.2 hname)
        rw [hfirst name htaken, List.find?_cons_of_neg (by simpa using Ne.symm hne)]

theorem noneReceiving_type (type : ArgType) : NoneReceiving (typeViolations type) := by
  unfold typeViolations
  split
  · split_ifs
    · simp [NoneReceiving]
    · simp [NoneReceiving, concernsReceiving]
  · simp [NoneReceiving]

theorem noneReceiving_arguments {taken : List String} {as : List Argument} :
    NoneReceiving (argumentViolations taken as) := by
  induction as generalizing taken with
  | nil => simp [argumentViolations, NoneReceiving]
  | cons a as ih =>
      simp only [argumentViolations]
      split
      · next v hv =>
          rw [List.cons_append, noneReceiving_cons, noneReceiving_append]
          exact ⟨concernsReceiving_parameterName hv, noneReceiving_type a.type, ih⟩
      · rw [noneReceiving_append, noneReceiving_append]
        exact ⟨⟨by simp [NoneReceiving, concernsReceiving], noneReceiving_type a.type⟩, ih⟩

theorem noneReceiving_errors (h : m.ReceivesUsed) {language : String} :
    ∀ e ∈ m.errors language width, e.violation.concernsReceiving = false := by
  simp only [errors]
  rw [List.forall_mem_append, List.forall_mem_append, List.forall_mem_append]
  refine ⟨⟨⟨?_, ?_⟩, ?_⟩, ?_⟩
  · exact noneReceiving_of_located noneReceiving_arguments
  · exact noneReceiving_of_located (noneReceiving_template sees_all)
  · exact noneReceiving_variables h fun name _ => rfl
  · exact noneReceiving_of_located (by simp [NoneReceiving, concernsReceiving])

theorem noneReceiving_collisions {language : String} {taken : List String} {vs : List Variable} :
    ∀ e ∈ (m.collisions language taken vs).1, e.violation.concernsReceiving = false := by
  induction vs generalizing taken with
  | nil => simp [collisions]
  | cons v vs ih =>
      simp only [collisions]
      split
      · exact ih
      · split_ifs
        · exact List.forall_mem_cons.2 ⟨rfl, ih⟩
        · exact ih

end Message

theorem noneReceiving_messages {language : String} {width : IntegerWidth}
    {methods functions : List String} {ms : List Message} (h : ∀ m ∈ ms, m.ReceivesUsed) :
    ∀ e ∈ messageErrors language width methods functions ms,
      e.violation.concernsReceiving = false := by
  induction ms generalizing methods functions with
  | nil => simp [messageErrors]
  | cons m ms ih =>
      rw [List.forall_mem_cons] at h
      -- what is reported in the message and after it, whichever names are taken
      have hinner : ∀ methods' functions' : List String,
          ∀ e ∈ (m.collisions language functions m.vars).1 ++ m.errors language width ++
              messageErrors language width methods' functions' ms,
            e.violation.concernsReceiving = false := by
        intro methods' functions'
        rw [List.forall_mem_append, List.forall_mem_append]
        exact ⟨⟨Message.noneReceiving_collisions, Message.noneReceiving_errors h.1⟩, ih h.2⟩
      simp only [messageErrors]
      split
      · next v hv =>
          exact List.forall_mem_cons.2 ⟨concernsReceiving_checkedName hv, hinner _ _⟩
      · split_ifs
        · exact List.forall_mem_cons.2 ⟨rfl, ih h.2⟩
        · exact hinner _ _

theorem Localization.noneReceiving_errors {l : Localization} {width : IntegerWidth}
    (h : ∀ m ∈ l.messages, m.ReceivesUsed) :
    ∀ e ∈ l.errors width, e.violation.concernsReceiving = false := by
  unfold errors
  rw [List.forall_mem_append]
  refine ⟨noneReceiving_of_located ?_, noneReceiving_messages h⟩
  exact noneReceiving_refused fun v hv => concernsReceiving_languageNames hv

/-- Building gives every variable the arguments of its message that it uses, itself or through other
variables, in the order of the message, and validation has nothing to say about them. A variable
counts as the first one of its name; if no entry gives a name twice, that is each of them. -/
theorem build_receives {specifiers : Definition.Specifiers} {language : String}
    {documents : List Definition.Document} {l : Localization}
    (h : (Definition.build specifiers language documents).result = .ok l) :
    (∀ m ∈ l.messages, ∀ v ∈ m.vars,
      v.arguments = (m.arguments.map (·.name)).filter (m.Uses v.name)) ∧
    ((∀ d ∈ documents, ∀ entry ∈ d.messages, entry.2.VariablesApart) →
      ∀ m ∈ l.messages, ∀ v ∈ m.vars, m.variableNamed? v.name = some v) ∧
    ∀ width, ∀ e ∈ l.errors width, e.violation.concernsReceiving = false := by
  have hreceives : ∀ m ∈ l.messages, m.ReceivesUsed := by
    intro m hm
    obtain ⟨d, -, name, e, -, hbuilt⟩ := Definition.build_eq_ok h hm
    exact Definition.receivesUsed_of_buildMessage hbuilt
  refine ⟨hreceives, fun hapart m hm v hv => ?_, fun width => ?_⟩
  · obtain ⟨d, hd, name, e, hentry, hbuilt⟩ := Definition.build_eq_ok h hm
    exact Definition.variableNamed?_of_buildMessage hbuilt (hapart d hd _ hentry) hv
  · exact Localization.noneReceiving_errors hreceives

/-- A line that uses the number of letters through another variable, which leads back to the line
and to a variable that there is not. -/
def circularEntry : Definition.Entry :=
  .table
    { args := ["user:s", "count:d", "host:s"]
      text := some "\x7b@line\x7d"
      vars := [
        ("line", .text "\x7buser\x7d: \x7b@items\x7d"),
        ("items", .table [
          ("plural", .text "count"),
          ("one", .text "\x7b@line\x7d"),
          ("other", .text "\x7bcount\x7d \x7b@kinds\x7d")])] }

def circularLetters : Definition.Document :=
  { path := "letters.json", messages := [("inbox", circularEntry)] }

theorem exists_build_circularLetters :
    ∃ l, (Definition.build {} "en" [circularLetters]).result = .ok l ∧ l.messages.length = 1 := by
  have hfailures : (circularEntry.declared {} ⟨"en", "letters.json", "inbox"⟩).failures = [] :=
    List.isEmpty_iff.1 (by decide +kernel)
  have hlisted : circularEntry.draft.listed = some ["user", "count", "host"] := by decide +kernel
  have htypes : (circularEntry.declared {} ⟨"en", "letters.json", "inbox"⟩).types =
      [("user", .text), ("count", .integer), ("host", .text)] := by decide +kernel
  obtain ⟨m, hm⟩ : ∃ m, Definition.buildMessage {} ⟨"en", "letters.json", "inbox"⟩ circularEntry =
      .ok m :=
    ⟨_, Definition.buildMessage_eq_ok.2 ⟨hfailures, by simp [hlisted, htypes], rfl⟩⟩
  refine ⟨⟨"en", [m]⟩, ?_, rfl⟩
  simp only [Definition.build, circularLetters, Definition.buildMessages, List.flatMap_cons,
    List.flatMap_nil, List.map_cons, List.map_nil, List.append_nil, hm, List.not_mem_nil, if_false]
  rfl

theorem build_receives_circularLetters :
    ∃ l, (Definition.build {} "en" [circularLetters]).result = .ok l ∧ l.messages.length = 1 ∧
      (∀ m ∈ l.messages, ∀ v ∈ m.vars,
        v.arguments = (m.arguments.map (·.name)).filter (m.Uses v.name) ∧
          m.variableNamed? v.name = some v) ∧
      ∀ width, ∀ e ∈ l.errors width, e.violation.concernsReceiving = false := by
  obtain ⟨l, hl, hlength⟩ := exists_build_circularLetters
  obtain ⟨hreceived, hnamed, hvalid⟩ := build_receives hl
  refine ⟨l, hl, hlength, fun m hm v hv => ⟨hreceived m hm v hv, hnamed ?_ m hm v hv⟩, hvalid⟩
  intro d hd entry hentry
  rw [List.mem_singleton.1 hd] at hentry
  rw [List.mem_singleton.1 hentry]
  show ["line", "items"].Nodup
  decide

end Phrasebook
