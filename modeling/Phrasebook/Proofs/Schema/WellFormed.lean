import Phrasebook.Proofs.Message.References
import Phrasebook.Proofs.Results

set_option autoImplicit false

/-! # Well-formed localizations

What a localization has to be like, said rule by rule and without the order in which the rules are
checked (`Localization.WellFormed`). Validation finds nothing wrong with exactly these
localizations (`Localization.errors_eq_nil_iff_wellFormed`).

Validation passes over what cannot be judged any more: a message whose method name is taken, a
variable whose name is, a plural without branches. Each time it has reported something before, so
that nothing is passed over in a localization in which all is well. -/

namespace Phrasebook

/-! ## Names that are all different -/

/-- Every member of a list has a name that is not among `taken`, and no two have the same. -/
def NamedApart {α : Type} (name : α → Except Violation String) (taken : List String)
    (as : List α) : Prop :=
  ∃ names, List.Forall₂ (fun a n => name a = .ok n) as names ∧ names.Nodup ∧
    ∀ n ∈ names, n ∉ taken

/-- Every member of a list has a name, and no two have the same. -/
def DistinctlyNamed {α : Type} (name : α → Except Violation String) (as : List α) : Prop :=
  ∃ names, List.Forall₂ (fun a n => name a = .ok n) as names ∧ names.Nodup

section Naming

variable {α : Type} {name : α → Except Violation String} {taken : List String}

theorem namedApart_nil : NamedApart name taken [] :=
  ⟨[], .nil, List.nodup_nil, by simp⟩

theorem namedApart_cons {a : α} {as : List α} :
    NamedApart name taken (a :: as) ↔
      ∃ n, name a = .ok n ∧ n ∉ taken ∧ NamedApart name (n :: taken) as := by
  constructor
  · rintro ⟨_, _ | ⟨hn, hns⟩, hnodup, htaken⟩
    rw [List.nodup_cons] at hnodup
    refine ⟨_, hn, htaken _ List.mem_cons_self, _, hns, hnodup.2, fun x hx => ?_⟩
    intro hmem
    rcases List.mem_cons.1 hmem with rfl | hmem
    · exact hnodup.1 hx
    · exact htaken x (List.mem_cons_of_mem _ hx) hmem
  · rintro ⟨n, hn, hfree, names, hns, hnodup, htaken⟩
    refine ⟨n :: names, .cons hn hns, List.nodup_cons.2 ⟨fun h => ?_, hnodup⟩, fun x hx => ?_⟩
    · exact htaken n h List.mem_cons_self
    · rcases List.mem_cons.1 hx with rfl | hx
      · exact hfree
      · exact fun hmem => htaken x hx (List.mem_cons_of_mem _ hmem)

theorem namedApart_append {as bs : List α} {names : List String}
    (h : List.Forall₂ (fun a n => name a = .ok n) as names) :
    NamedApart name taken (as ++ bs) ↔
      (names.Nodup ∧ ∀ n ∈ names, n ∉ taken) ∧ NamedApart name (names.reverse ++ taken) bs := by
  induction h generalizing taken with
  | nil => simp
  | @cons a n as names hn hns ih =>
      rw [List.cons_append, namedApart_cons]
      constructor
      · rintro ⟨n', hn', hfree, hrest⟩
        rw [hn] at hn'
        cases hn'
        obtain ⟨⟨hnodup, hapart⟩, hbs⟩ := ih.1 hrest
        refine ⟨⟨List.nodup_cons.2 ⟨fun h => hapart n h List.mem_cons_self, hnodup⟩, ?_⟩, ?_⟩
        · intro x hx
          rcases List.mem_cons.1 hx with rfl | hx
          · exact hfree
          · exact fun hmem => hapart x hx (List.mem_cons_of_mem _ hmem)
        · simpa using hbs
      · rintro ⟨⟨hnodup, hapart⟩, hbs⟩
        rw [List.nodup_cons] at hnodup
        refine ⟨n, hn, hapart n List.mem_cons_self, ih.2 ⟨⟨hnodup.2, fun x hx hmem => ?_⟩, ?_⟩⟩
        · rcases List.mem_cons.1 hmem with rfl | hmem
          · exact hnodup.1 hx
          · exact hapart x (List.mem_cons_of_mem _ hx) hmem
        · simpa using hbs

theorem NamedApart.exists_name {as : List α} (h : NamedApart name taken as) {a : α}
    (ha : a ∈ as) : ∃ n, name a = .ok n := by
  obtain ⟨names, hnames, -⟩ := h
  obtain ⟨n, -, hn⟩ := exists_of_forall₂_left hnames ha
  exact ⟨n, hn⟩

theorem namedApart_empty {as : List α} : NamedApart name [] as ↔ DistinctlyNamed name as := by
  simp [NamedApart, DistinctlyNamed]

theorem DistinctlyNamed.exists_name {as : List α} (h : DistinctlyNamed name as) {a : α}
    (ha : a ∈ as) : ∃ n, name a = .ok n :=
  (namedApart_empty.2 h).exists_name ha

/-- Members with names of their own are different, and so is whatever decides the name. -/
theorem DistinctlyNamed.nodup_map {as : List α} {key : α → String}
    (h : DistinctlyNamed name as) (hkey : ∀ a b, key a = key b → name a = name b) :
    (as.map key).Nodup := by
  obtain ⟨names, hnames, hnodup⟩ := h
  induction hnames with
  | nil => simp
  | @cons a n as names hn hns ih =>
      rw [List.nodup_cons] at hnodup
      rw [List.map_cons, List.nodup_cons]
      refine ⟨fun hmem => hnodup.1 ?_, ih hnodup.2⟩
      obtain ⟨b, hb, hab⟩ := List.mem_map.1 hmem
      obtain ⟨n', hn', hbn⟩ := exists_of_forall₂_left hns hb
      rw [hkey b a hab, hn] at hbn
      cases hbn
      exact hn'

theorem DistinctlyNamed.eq_of_name_eq {as : List α} (h : DistinctlyNamed name as) {a b : α}
    {n : String} (ha : a ∈ as) (hb : b ∈ as) (han : name a = .ok n) (hbn : name b = .ok n) :
    a = b := by
  obtain ⟨names, hnames, hnodup⟩ := h
  induction hnames with
  | nil => cases ha
  | @cons c n' as names hc hrest ih =>
      rw [List.nodup_cons] at hnodup
      -- The name of the first member is not the name of one of the others.
      have hfirst : ∀ d ∈ as, name c = .ok n → name d ≠ .ok n := by
        intro d hd hcn hdn
        obtain ⟨k, hk, hdk⟩ := exists_of_forall₂_left hrest hd
        rw [hc] at hcn
        rw [hdn] at hdk
        cases hcn
        cases hdk
        exact hnodup.1 hk
      rcases List.mem_cons.1 ha with rfl | ha' <;> rcases List.mem_cons.1 hb with rfl | hb'
      · rfl
      · exact absurd hbn (hfirst b hb' han)
      · exact absurd han (hfirst a ha' hbn)
      · exact ih ha' hb' hnodup.2

theorem DistinctlyNamed.perm {as as' : List α} (h : DistinctlyNamed name as)
    (hperm : as.Perm as') : DistinctlyNamed name as' := by
  obtain ⟨names', hnames'⟩ := exists_forall₂ fun a ha => h.exists_name (hperm.mem_iff.2 ha)
  obtain ⟨names, hnames, hnodup⟩ := h
  have hsame := perm_of_forall₂ (fun a n n' hn hn' => Except.ok.inj (hn.symm.trans hn')) hperm
    hnames hnames'
  exact ⟨names', hnames', hsame.nodup_iff.1 hnodup⟩

theorem DistinctlyNamed.sublist {as as' : List α} (h : DistinctlyNamed name as)
    (hpart : as'.Sublist as) : DistinctlyNamed name as' := by
  obtain ⟨names, hnames, hnodup⟩ := h
  obtain ⟨names', hsub, hnames'⟩ := exists_sublist_of_forall₂ hnames hpart
  exact ⟨names', hnames', hnodup.sublist hsub⟩

/-- Things made of members with names of their own, and called by them, have different names. -/
theorem DistinctlyNamed.nodup_of_forall₂ {β : Type} {key : β → String} {as : List α} {bs : List β}
    (h : DistinctlyNamed name as)
    (hbs : List.Forall₂ (fun a b => name a = .ok (key b)) as bs) : (bs.map key).Nodup := by
  obtain ⟨names, hnames, hnodup⟩ := h
  have hsame : names = bs.map key := by
    refine List.right_unique_forall₂' ?_ hnames (List.forall₂_map_right_iff.2 hbs)
    intro a n n' hn hn'
    rw [hn] at hn'
    cases hn'
    rfl
  rwa [← hsame]

end Naming

/-! ## The rules -/

/-- An argument that a template sees: any, or one of those passed to the variable. -/
def Visible (visible : Option (List String)) (name : String) : Prop :=
  ∀ names, visible = some names → name ∈ names

namespace Message

/-- A part refers to an argument that is declared, seen, and has a type that suits the directive,
or to a variable that is declared and receives arguments that are seen. -/
def PartOk (m : Message) (visible : Option (List String)) : Part → Prop
  | .literal _ => True
  | .argument name directive =>
      ∃ a, m.argumentNamed? name = some a ∧ Visible visible name ∧
        ∃ r, Format.Rendering.resolve a.type directive = .ok r
  | .var name =>
      ∃ v, m.variableNamed? name = some v ∧ ∀ x ∈ v.arguments, Visible visible x

def BodyOk (m : Message) (visible : Option (List String)) (b : Body) : Prop :=
  ∀ p ∈ b, m.PartOk visible p

/-- A plural has a branch, an integer that it sees to choose by, and a branch for every integer:
one for the others, or, without negative numbers, one each for 0, 1 and more. -/
structure PluralOk (m : Message) (width : IntegerWidth) (visible : Option (List String))
    (p : Plural) : Prop where
  nonempty : p.branches ≠ []
  driver : ∃ a, m.argumentNamed? p.argument = some a ∧ Visible visible p.argument ∧
    a.type = .integer
  covered : p.other.isSome ∨
    width = .unsigned ∧ p.zero.isSome ∧ p.one.isSome ∧ p.many.isSome
  bodies : ∀ b ∈ p.branches, m.BodyOk visible b.2

/-- A template is set and keeps the rules. -/
def TemplateOk (m : Message) (width : IntegerWidth) (visible : Option (List String)) :
    Template → Prop
  | .unset => False
  | .plain b => m.BodyOk visible b
  | .plural p => m.PluralOk width visible p

/-- The rules inside a message. -/
structure WellFormed (m : Message) (width : IntegerWidth) : Prop where
  parameters : DistinctlyNamed (fun a => parameterName a.name) m.arguments
  types : ∀ a ∈ m.arguments, ∀ path, a.type = .custom path → (Code.TypePath.read? path).isSome
  received : ∀ v ∈ m.vars, v.arguments.Nodup ∧
    ∀ x ∈ v.arguments, ∃ a ∈ m.arguments, a.name = x
  template : m.TemplateOk width none m.template
  templates : ∀ v ∈ m.vars, m.TemplateOk width (some v.arguments) v.template
  acyclic : m.Acyclic

end Message

/-- The variables of messages, each with the name of its message. -/
def placedVariables (ms : List Message) : List (String × String) :=
  ms.flatMap fun m => m.vars.map fun v => (m.name, v.name)

namespace Localization

/-- The rules of a localization. -/
structure WellFormed (l : Localization) (width : IntegerWidth) : Prop where
  module : ∃ n, moduleName l.language = .ok n
  type : ∃ n, typeName l.language = .ok n
  methods : DistinctlyNamed (fun m => methodName m.name) l.messages
  functions : DistinctlyNamed (fun v => auxiliaryName v.1 v.2) (placedVariables l.messages)
  messages : ∀ m ∈ l.messages, m.WellFormed width

end Localization

/-! ## Checks of templates -/

theorem refused_eq_nil_iff {α : Type} {r : Except Violation α} :
    refused r = [] ↔ ∃ a, r = .ok a := by
  cases r <;> simp [refused]

theorem located_eq_nil_iff {l : Location} {vs : List Violation} :
    Violation.located l vs = [] ↔ vs = [] := by
  simp [Violation.located]

namespace Message

variable {m : Message} {width : IntegerWidth} {visible : Option (List String)}

theorem visibleType_eq_ok {name : String} {type : ArgType} :
    m.visibleType visible name = .ok type ↔
      ∃ a, m.argumentNamed? name = some a ∧ Visible visible name ∧ a.type = type := by
  unfold visibleType
  cases ha : m.argumentNamed? name with
  | none => simp
  | some a =>
      cases visible with
      | none => simp [Visible]
      | some names =>
          by_cases hmem : name ∈ names
          · simp [Visible, hmem]
          · simp [Visible, hmem]

theorem partViolations_eq_nil_iff {p : Part} :
    m.partViolations visible p = [] ↔ m.PartOk visible p := by
  cases p with
  | literal text => simp [partViolations, PartOk]
  | argument name directive =>
      simp only [partViolations, PartOk]
      cases hv : m.visibleType visible name with
      | error v =>
          constructor
          · intro h
            cases h
          · rintro ⟨a, ha, hvis, -⟩
            rw [visibleType_eq_ok.2 ⟨a, ha, hvis, rfl⟩] at hv
            cases hv
      | ok type =>
          obtain ⟨a, ha, hvis, rfl⟩ := visibleType_eq_ok.1 hv
          cases hr : Format.Rendering.resolve a.type directive with
          | error fault => simp [ha, hr]
          | ok r => simp [ha, hr, hvis]
  | var name =>
      simp only [partViolations, PartOk]
      cases hv : m.variableNamed? name with
      | none => simp
      | some v =>
          cases visible with
          | none => simp [Visible]
          | some names => simp [Visible]

theorem bodyViolations_eq_nil_iff {b : Body} :
    m.bodyViolations visible b = [] ↔ m.BodyOk visible b := by
  simp [bodyViolations, BodyOk, partViolations_eq_nil_iff]

theorem driverViolations_eq_nil_iff {name : String} :
    m.driverViolations visible name = [] ↔
      ∃ a, m.argumentNamed? name = some a ∧ Visible visible name ∧ a.type = .integer := by
  rw [← visibleType_eq_ok]
  unfold driverViolations
  split <;> simp_all

theorem covered_iff {p : Plural} :
    (if p.other.isNone && !p.coversWidth width then [Violation.missingOtherBranch p.argument]
      else []) = [] ↔
      (p.other.isSome ∨ width = .unsigned ∧ p.zero.isSome ∧ p.one.isSome ∧ p.many.isSome) := by
  cases width <;> cases p.other <;>
    simp [Plural.coversWidth, Plural.coversNaturals, IntegerWidth.isUnsigned, and_assoc,
      Option.isSome_iff_ne_none]

theorem pluralViolations_eq_nil_iff {p : Plural} :
    m.pluralViolations width visible p = [] ↔ m.PluralOk width visible p := by
  unfold pluralViolations
  by_cases hempty : p.isEmpty
  · rw [if_pos hempty]
    have hnone : p.branches = [] := by simpa [Plural.isEmpty] using hempty
    constructor
    · intro h
      cases h
    · intro h
      exact absurd hnone h.nonempty
  · rw [if_neg hempty, List.append_eq_nil_iff, List.append_eq_nil_iff,
      driverViolations_eq_nil_iff, covered_iff]
    have hbodies : (p.branches.flatMap fun b => m.bodyViolations visible b.2) = [] ↔
        ∀ b ∈ p.branches, m.BodyOk visible b.2 := by
      simp only [List.flatMap_eq_nil_iff, bodyViolations_eq_nil_iff]
    refine (and_congr_right' hbodies).trans ?_
    constructor
    · rintro ⟨⟨hdriver, hcovered⟩, hb⟩
      exact ⟨by simpa [Plural.isEmpty] using hempty, hdriver, hcovered, hb⟩
    · intro h
      exact ⟨⟨h.driver, h.covered⟩, h.bodies⟩

theorem templateViolations_eq_nil_iff {t : Template} :
    m.templateViolations width visible t = [] ↔ m.TemplateOk width visible t := by
  cases t with
  | unset => simp [templateViolations, TemplateOk]
  | plain b => exact bodyViolations_eq_nil_iff
  | plural p => exact pluralViolations_eq_nil_iff

/-! ## Checks of declarations -/

theorem typeViolations_eq_nil_iff {type : ArgType} :
    typeViolations type = [] ↔
      ∀ path, type = .custom path → (Code.TypePath.read? path).isSome := by
  cases type <;> simp [typeViolations, Option.isSome_iff_ne_none]

theorem argumentViolations_eq_nil_iff {taken : List String} {as : List Argument} :
    argumentViolations taken as = [] ↔
      NamedApart (fun a => parameterName a.name) taken as ∧
        ∀ a ∈ as, ∀ path, a.type = .custom path → (Code.TypePath.read? path).isSome := by
  induction as generalizing taken with
  | nil => simp [argumentViolations, namedApart_nil]
  | cons a as ih =>
      rw [namedApart_cons, argumentViolations, List.forall_mem_cons]
      cases hn : parameterName a.name with
      | error v => simp
      | ok name =>
          rw [List.append_eq_nil_iff, List.append_eq_nil_iff, ih, typeViolations_eq_nil_iff]
          by_cases hmem : name ∈ taken
          · simp [hmem]
          · simp [hmem, and_left_comm]

theorem isSome_argumentNamed?_iff {name : String} :
    (m.argumentNamed? name).isSome ↔ ∃ a ∈ m.arguments, a.name = name := by
  simp [argumentNamed?, List.find?_isSome]

theorem receivedViolations_eq_nil_iff {taken names : List String} :
    m.receivedViolations taken names = [] ↔
      (names.Nodup ∧ ∀ x ∈ names, x ∉ taken) ∧ ∀ x ∈ names, ∃ a ∈ m.arguments, a.name = x := by
  induction names generalizing taken with
  | nil => simp [receivedViolations]
  | cons name names ih =>
      rw [receivedViolations, List.append_eq_nil_iff, List.append_eq_nil_iff, ih,
        List.nodup_cons, List.forall_mem_cons, List.forall_mem_cons,
        ← isSome_argumentNamed?_iff]
      by_cases hmem : name ∈ taken
      · simp [hmem]
      · have hapart : (∀ x ∈ names, x ∉ name :: taken) ↔
            name ∉ names ∧ ∀ x ∈ names, x ∉ taken := by
          constructor
          · intro h
            exact ⟨fun hname => h name hname List.mem_cons_self,
              fun x hx hx' => h x hx (List.mem_cons_of_mem _ hx')⟩
          · rintro ⟨hname, h⟩ x hx hx'
            rcases List.mem_cons.1 hx' with rfl | hx'
            · exact hname hx
            · exact h x hx hx'
        rw [hapart]
        cases m.argumentNamed? name with
        | none => simp
        | some a => simp [hmem]; tauto

/-- The rules for one variable, its name apart. -/
def VariableOk (m : Message) (width : IntegerWidth) (v : Variable) : Prop :=
  (v.arguments.Nodup ∧ ∀ x ∈ v.arguments, ∃ a ∈ m.arguments, a.name = x) ∧
    m.TemplateOk width (some v.arguments) v.template

theorem variableErrors_eq_nil_iff {language : String} {taken : List String}
    {vs : List Variable} :
    m.variableErrors language width taken vs = [] ↔
      ((vs.map (·.name)).Nodup ∧ ∀ v ∈ vs, v.name ∉ taken) ∧
        ∀ v ∈ vs, (∃ n, auxiliaryName m.name v.name = .ok n) ∧ m.VariableOk width v := by
  induction vs generalizing taken with
  | nil => simp [variableErrors]
  | cons v vs ih =>
      simp only [variableErrors]
      rw [List.append_eq_nil_iff, located_eq_nil_iff, List.append_eq_nil_iff, refused_eq_nil_iff,
        ih, List.map_cons, List.nodup_cons, List.forall_mem_cons, List.forall_mem_cons]
      have hapart : (∀ w ∈ vs, w.name ∉ v.name :: taken) ↔
          v.name ∉ vs.map (·.name) ∧ ∀ w ∈ vs, w.name ∉ taken := by
        constructor
        · intro h
          refine ⟨fun hname => ?_, fun w hw hw' => h w hw (List.mem_cons_of_mem _ hw')⟩
          obtain ⟨w, hw, hwv⟩ := List.mem_map.1 hname
          exact h w hw (hwv ▸ List.mem_cons_self)
        · rintro ⟨hname, h⟩ w hw hw'
          rcases List.mem_cons.1 hw' with hwv | hw'
          · exact hname (hwv ▸ List.mem_map_of_mem hw)
          · exact h w hw hw'
      by_cases hmem : v.name ∈ taken
      · simp [hmem]
      · rw [if_neg hmem, List.append_eq_nil_iff, receivedViolations_eq_nil_iff,
          templateViolations_eq_nil_iff, hapart]
        constructor
        · rintro ⟨⟨hname, ⟨⟨hargs, -⟩, hdeclared⟩, htemplate⟩, ⟨hnodup, hnew, htaken⟩, hrest⟩
          exact ⟨⟨⟨hnew, hnodup⟩, hmem, htaken⟩, ⟨hname, ⟨hargs, hdeclared⟩, htemplate⟩, hrest⟩
        · rintro ⟨⟨⟨hnew, hnodup⟩, -, htaken⟩, ⟨hname, ⟨hargs, hdeclared⟩, htemplate⟩, hrest⟩
          exact ⟨⟨hname, ⟨⟨hargs, by simp⟩, hdeclared⟩, htemplate⟩, ⟨hnodup, hnew, htaken⟩, hrest⟩

theorem errors_eq_nil_iff {language : String} :
    m.errors language width = [] ↔
      m.WellFormed width ∧ (m.vars.map (·.name)).Nodup ∧
        ∀ v ∈ m.vars, ∃ n, auxiliaryName m.name v.name = .ok n := by
  simp only [errors]
  rw [List.append_eq_nil_iff, List.append_eq_nil_iff, List.append_eq_nil_iff, located_eq_nil_iff,
    located_eq_nil_iff, located_eq_nil_iff, argumentViolations_eq_nil_iff,
    templateViolations_eq_nil_iff, variableErrors_eq_nil_iff, List.map_eq_nil_iff,
    cycles_eq_nil_iff, namedApart_empty]
  constructor
  · rintro ⟨⟨⟨⟨hparams, htypes⟩, htemplate⟩, ⟨hnodup, -⟩, hvars⟩, hacyclic⟩
    exact ⟨⟨hparams, htypes, fun v hv => (hvars v hv).2.1, htemplate,
      fun v hv => (hvars v hv).2.2, hacyclic⟩, hnodup, fun v hv => (hvars v hv).1⟩
  · rintro ⟨h, hnodup, hnames⟩
    exact ⟨⟨⟨⟨h.parameters, h.types⟩, h.template⟩, ⟨hnodup, by simp⟩,
      fun v hv => ⟨hnames v hv, h.received v hv, h.templates v hv⟩⟩, h.acyclic⟩

/-- If every variable has a function name, those that collide are reported, and all are taken
afterwards. -/
theorem collisions_of_named (m : Message) (language : String) (taken : List String)
    {names : List String} {vs : List Variable}
    (h : List.Forall₂ (fun v n => auxiliaryName m.name v.name = .ok n) vs names) :
    ((m.collisions language taken vs).1 = [] ↔ names.Nodup ∧ ∀ n ∈ names, n ∉ taken) ∧
      (m.collisions language taken vs).2 = names.reverse ++ taken := by
  induction h generalizing taken with
  | nil => simp [collisions]
  | @cons v n vs names hn hns ih =>
      obtain ⟨ihnil, ihall⟩ := ih (n :: taken)
      simp only [collisions, hn]
      by_cases hmem : n ∈ taken
      · simp [hmem, ihall]
      · rw [if_neg hmem]
        refine ⟨?_, by simp [ihall]⟩
        rw [ihnil, List.nodup_cons, List.forall_mem_cons]
        constructor
        · rintro ⟨hnodup, hapart⟩
          exact ⟨⟨fun hn' => hapart n hn' List.mem_cons_self, hnodup⟩, hmem,
            fun x hx hx' => hapart x hx (List.mem_cons_of_mem _ hx')⟩
        · rintro ⟨⟨hnew, hnodup⟩, -, htaken⟩
          refine ⟨hnodup, fun x hx hx' => ?_⟩
          rcases List.mem_cons.1 hx' with rfl | hx'
          · exact hnew hx
          · exact htaken x hx hx'

end Message

/-! ## Checks of localizations -/

/-- Names of the variables of a message are different if the names of their functions are. -/
theorem nodup_variableNames {m : Message} {names : List String}
    (h : List.Forall₂ (fun v n => auxiliaryName m.name v.name = .ok n) m.vars names)
    (hnodup : names.Nodup) : (m.vars.map (·.name)).Nodup := by
  have hnamed : DistinctlyNamed (fun v : Variable => auxiliaryName m.name v.name) m.vars :=
    ⟨names, h, hnodup⟩
  exact hnamed.nodup_map fun v w hvw => by rw [hvw]

theorem forall₂_placedVariables {m : Message} {names : List String}
    (h : List.Forall₂ (fun v n => auxiliaryName m.name v.name = .ok n) m.vars names) :
    List.Forall₂ (fun (v : String × String) n => auxiliaryName v.1 v.2 = .ok n)
      (m.vars.map fun v => (m.name, v.name)) names :=
  List.forall₂_map_left_iff.2 h

theorem exists_auxiliaryName {taken : List String} {ms : List Message}
    (h : NamedApart (fun v => auxiliaryName v.1 v.2) taken (placedVariables ms)) {m : Message}
    (hm : m ∈ ms) {v : Variable} (hv : v ∈ m.vars) :
    ∃ n, auxiliaryName m.name v.name = .ok n := by
  have hmem : (m.name, v.name) ∈ placedVariables ms :=
    List.mem_flatMap.2 ⟨m, hm, List.mem_map.2 ⟨v, hv, rfl⟩⟩
  obtain ⟨n, hn⟩ := h.exists_name hmem
  exact ⟨n, hn⟩

theorem messageErrors_eq_nil_iff {language : String} {width : IntegerWidth}
    {methods functions : List String} {ms : List Message} :
    messageErrors language width methods functions ms = [] ↔
      NamedApart (fun m => methodName m.name) methods ms ∧
        NamedApart (fun v => auxiliaryName v.1 v.2) functions (placedVariables ms) ∧
          ∀ m ∈ ms, m.WellFormed width := by
  induction ms generalizing methods functions with
  | nil => simp [messageErrors, placedVariables, namedApart_nil]
  | cons m ms ih =>
      rw [namedApart_cons, List.forall_mem_cons]
      have hplaced : placedVariables (m :: ms) =
          m.vars.map (fun v => (m.name, v.name)) ++ placedVariables ms := List.flatMap_cons
      simp only [messageErrors]
      cases hmethod : methodName m.name with
      | error v => simp
      | ok method =>
          by_cases hmem : method ∈ methods
          · simp [hmem]
          · simp only [hmem, if_false, List.append_eq_nil_iff, ih, Message.errors_eq_nil_iff,
              hplaced]
            constructor
            · rintro ⟨⟨hcollide, hm, -, hnames⟩, hmethods, hfunctions, hms⟩
              obtain ⟨names, hall⟩ := exists_forall₂ hnames
              obtain ⟨hnil, htaken⟩ := m.collisions_of_named language functions hall
              refine ⟨⟨method, rfl, hmem, hmethods⟩, ?_, hm, hms⟩
              rw [namedApart_append (forall₂_placedVariables hall), ← htaken]
              exact ⟨hnil.1 hcollide, hfunctions⟩
            · rintro ⟨⟨n, hn, -, hmethods⟩, hfunctions, hm, hms⟩
              cases hn
              have hnames : ∀ v ∈ m.vars, ∃ n, auxiliaryName m.name v.name = .ok n :=
                fun v hv => exists_auxiliaryName (hplaced ▸ hfunctions) List.mem_cons_self hv
              obtain ⟨names, hall⟩ := exists_forall₂ hnames
              obtain ⟨hnil, htaken⟩ := m.collisions_of_named language functions hall
              rw [namedApart_append (forall₂_placedVariables hall), ← htaken] at hfunctions
              exact ⟨⟨hnil.2 hfunctions.1, hm, nodup_variableNames hall hfunctions.1.1, hnames⟩,
                hmethods, hfunctions.2, hms⟩

theorem languageNames_eq_ok {language module type : String} :
    languageNames language = .ok (module, type) ↔
      moduleName language = .ok module ∧ typeName language = .ok type := by
  unfold languageNames
  cases moduleName language with
  | error v => simp
  | ok m =>
      cases typeName language with
      | error v => simp
      | ok t => simp

namespace Localization

variable {l : Localization} {width : IntegerWidth}

theorem wellFormed_of_errors_eq_nil (h : l.errors width = []) : l.WellFormed width := by
  rw [errors, List.append_eq_nil_iff, located_eq_nil_iff, refused_eq_nil_iff,
    messageErrors_eq_nil_iff, namedApart_empty, namedApart_empty] at h
  obtain ⟨⟨⟨module, type⟩, hnames⟩, hmethods, hfunctions, hmessages⟩ := h
  obtain ⟨hmodule, htype⟩ := languageNames_eq_ok.1 hnames
  exact ⟨⟨module, hmodule⟩, ⟨type, htype⟩, hmethods, hfunctions, hmessages⟩

theorem errors_eq_nil_of_wellFormed (h : l.WellFormed width) : l.errors width = [] := by
  obtain ⟨⟨module, hmodule⟩, ⟨type, htype⟩, hmethods, hfunctions, hmessages⟩ := h
  rw [errors, List.append_eq_nil_iff, located_eq_nil_iff, refused_eq_nil_iff,
    messageErrors_eq_nil_iff, namedApart_empty, namedApart_empty]
  exact ⟨⟨(module, type), languageNames_eq_ok.2 ⟨hmodule, htype⟩⟩, hmethods, hfunctions,
    hmessages⟩

/-- In a well-formed localization every variable of a message is found by its name. -/
theorem WellFormed.variableNamed? (h : l.WellFormed width) {m : Message} (hm : m ∈ l.messages)
    {v : Variable} (hv : v ∈ m.vars) : m.variableNamed? v.name = some v := by
  have hpart : (m.vars.map fun v => (m.name, v.name)).Sublist (placedVariables l.messages) := by
    rw [placedVariables, List.flatMap_def]
    exact List.sublist_flatten_of_mem (List.mem_map.2 ⟨m, hm, rfl⟩)
  obtain ⟨names, hnames, hnodup⟩ := h.functions.sublist hpart
  have hvars := nodup_variableNames (List.forall₂_map_left_iff.1 hnames) hnodup
  exact find?_eq_some_of_nodup hvars hv

/-- Validation finds nothing wrong with a localization if and only if it is well formed. -/
theorem errors_eq_nil_iff_wellFormed (l : Localization) (width : IntegerWidth) :
    l.errors width = [] ↔ l.WellFormed width :=
  ⟨wellFormed_of_errors_eq_nil, errors_eq_nil_of_wellFormed⟩

end Localization

theorem validateFrom_eq_nil_iff {width : IntegerWidth} {modules : List String}
    {ls : List Localization} :
    validateFrom width modules ls = [] ↔
      NamedApart (fun l => moduleName l.language) modules ls ∧ ∀ l ∈ ls, l.WellFormed width := by
  induction ls generalizing modules with
  | nil => simp [validateFrom, namedApart_nil]
  | cons l ls ih =>
      rw [namedApart_cons, List.forall_mem_cons, validateFrom]
      cases hmodule : moduleName l.language with
      | error v =>
          constructor
          · intro h
            obtain ⟨n, hn⟩ := (Localization.wellFormed_of_errors_eq_nil
              (List.append_eq_nil_iff.1 h).1).module
            rw [hmodule] at hn
            cases hn
          · rintro ⟨⟨n, hn, -⟩, -⟩
            cases hn
      | ok module =>
          by_cases hmem : module ∈ modules
          · simp [hmem]
          · simp only [hmem, if_false, List.append_eq_nil_iff, ih]
            constructor
            · rintro ⟨hl, hmodules, hls⟩
              exact ⟨⟨module, rfl, hmem, hmodules⟩, Localization.wellFormed_of_errors_eq_nil hl,
                hls⟩
            · rintro ⟨⟨n, hn, -, hmodules⟩, hl, hls⟩
              cases hn
              exact ⟨Localization.errors_eq_nil_of_wellFormed hl, hmodules, hls⟩

/-- Validation of several localizations also asks for module names that are all different. -/
theorem validate_eq_nil_iff {width : IntegerWidth} {ls : List Localization} :
    validate width ls = [] ↔
      DistinctlyNamed (fun l => moduleName l.language) ls ∧ ∀ l ∈ ls, l.WellFormed width := by
  rw [validate, validateFrom_eq_nil_iff, namedApart_empty]

/-- Validation passes localizations in any order or in none. -/
theorem validate_eq_nil_of_perm {width : IntegerWidth} {ls ls' : List Localization}
    (h : validate width ls = []) (hperm : ls.Perm ls') : validate width ls' = [] := by
  obtain ⟨hmodules, hls⟩ := validate_eq_nil_iff.1 h
  exact validate_eq_nil_iff.2 ⟨hmodules.perm hperm, fun l hl => hls l (hperm.mem_iff.2 hl)⟩

end Phrasebook
