import Phrasebook.Proofs.Contract.Conformance

set_option autoImplicit false

/-! # What languages are told about their differences

Two loops look for differences, one along the messages of the reference and one along those of the
other language. Together they report each message on which the two disagree, and each of them once:
the report has an error for a message exactly if the message is missing, has other arguments or is
not expected (`Contract.Differs`). So the report is empty if and only if both assign the same
arguments to the same names, in which the order of the messages has no part
(`Contract.unify_differences`). -/

namespace Phrasebook

/-! ## Errors in errors -/

namespace CompileError

/-- The broken rules in an error, those in its parts included. -/
def schemaErrors : CompileError → List SchemaError
  | .schema e => [e]
  | .aggregate es => inAll es
  | .noLocalizations => []
  | .render _ => []
where
  inAll : List CompileError → List SchemaError
    | [] => []
    | e :: es => schemaErrors e ++ inAll es

theorem inAll_map_schema (es : List SchemaError) :
    schemaErrors.inAll (es.map .schema) = es := by
  induction es with
  | nil => rfl
  | cons e es ih => rw [List.map_cons, schemaErrors.inAll, ih, schemaErrors, List.singleton_append]

theorem schemaErrors_of_checkSchema_eq_error {es : List SchemaError} {e : CompileError}
    (h : checkSchema es = .error e) : e.schemaErrors = es := by
  rw [checkSchema, check_eq_error] at h
  rcases es with _ | ⟨d, _ | ⟨d', ds⟩⟩
  · cases h
  · cases h
    rfl
  · cases h
    exact inAll_map_schema (d :: d' :: ds)

end CompileError

/-! ## Messages by their names -/

namespace Localization

/-- The arguments that a language has for the message of a name. -/
def argumentsOf? (l : Localization) (name : String) : Option (List Argument) :=
  (l.messageNamed? name).map (·.arguments)

variable {l l' : Localization} {width : IntegerWidth} {name : String}

theorem messageNamed?_eq_none_iff :
    l.messageNamed? name = none ↔ ∀ m ∈ l.messages, m.name ≠ name := by
  simp [messageNamed?]

theorem messageNamed?_eq_some_iff (hl : l.WellFormed width) {m : Message} :
    l.messageNamed? name = some m ↔ m ∈ l.messages ∧ m.name = name := by
  constructor
  · intro h
    exact ⟨List.mem_of_find?_eq_some h, by simpa using List.find?_some h⟩
  · rintro ⟨hm, rfl⟩
    exact find?_eq_some_of_nodup (nodup_messageNames hl) hm

theorem argumentsOf?_eq_some_iff (hl : l.WellFormed width) {arguments : List Argument} :
    l.argumentsOf? name = some arguments ↔ (name, arguments) ∈ l.signatures := by
  rw [argumentsOf?, Option.map_eq_some_iff, signatures, List.mem_map]
  constructor
  · rintro ⟨m, hm, rfl⟩
    obtain ⟨hmem, rfl⟩ := (messageNamed?_eq_some_iff hl).1 hm
    exact ⟨m, hmem, rfl⟩
  · rintro ⟨m, hmem, heq⟩
    cases heq
    exact ⟨m, (messageNamed?_eq_some_iff hl).2 ⟨hmem, rfl⟩, rfl⟩

/-- The same signatures in some order are the same arguments for the same names. -/
theorem signatures_perm_iff (hl : l.WellFormed width) (hl' : l'.WellFormed width) :
    l.signatures.Perm l'.signatures ↔ ∀ name, l.argumentsOf? name = l'.argumentsOf? name := by
  rw [List.perm_ext_iff_of_nodup hl.nodup_signatures hl'.nodup_signatures]
  constructor
  · intro h name
    refine Option.ext fun arguments => ?_
    rw [argumentsOf?_eq_some_iff hl, argumentsOf?_eq_some_iff hl', h]
  · rintro h ⟨name, arguments⟩
    rw [← argumentsOf?_eq_some_iff hl, ← argumentsOf?_eq_some_iff hl', h]

end Localization

namespace Contract

/-! ## One language -/

/-- What is to be said of a language `l`: a message of the reference is missing, a message that both
have has other arguments, or a message is not expected. -/
inductive Differs (reference l : Localization) : SchemaError → Prop
  | missing {m} (hm : m ∈ reference.messages) (hmissing : ∀ m' ∈ l.messages, m'.name ≠ m.name) :
      Differs reference l
        ⟨.inMessage l.language m.name, .missingMessage reference.language⟩
  | mismatch {m m'} (hm : m ∈ reference.messages) (hm' : m' ∈ l.messages)
      (hname : m'.name = m.name) (harguments : m'.arguments ≠ m.arguments) :
      Differs reference l
        ⟨.inMessage l.language m.name, .signatureMismatch m.arguments m'.arguments⟩
  | unexpected {m'} (hm' : m' ∈ l.messages)
      (hunexpected : ∀ m ∈ reference.messages, m.name ≠ m'.name) :
      Differs reference l
        ⟨.inMessage l.language m'.name, .unexpectedMessage reference.language⟩

section

variable {reference l : Localization} {methods : List Method}

/-- The methods stand beside the messages of the reference. -/
theorem forall₂_methods (h : methodsOf reference = .ok methods) :
    List.Forall₂ (fun m method => method.message = m.name ∧ method.arguments = m.arguments)
      reference.messages methods :=
  (List.forall₂_map_left_iff.1 (methodsOf_eq_ok.1 h)).imp
    fun _ _ his => ⟨his.message, his.arguments⟩

theorem map_message_methods (h : methodsOf reference = .ok methods) :
    methods.map (·.message) = reference.messages.map (·.name) :=
  (map_eq_map_of_forall₂ (forall₂_methods h) fun _ _ hmethod => hmethod.1.symm).symm

/-- The errors about a method are those about the message that it is for. -/
theorem mem_methodViolations_iff {width : IntegerWidth} (hl : l.WellFormed width) {name : String}
    {method : Method} {v : Violation} :
    v ∈ methodViolations name l method ↔
      (v = .missingMessage name ∧ ∀ m ∈ l.messages, m.name ≠ method.message) ∨
      ∃ m ∈ l.messages, m.name = method.message ∧ m.arguments ≠ method.arguments ∧
        v = .signatureMismatch method.arguments m.arguments := by
  cases hm : l.messageNamed? method.message with
  | none =>
      have hnone := Localization.messageNamed?_eq_none_iff.1 hm
      simp only [methodViolations, hm, List.mem_singleton]
      constructor
      · rintro rfl
        exact .inl ⟨rfl, hnone⟩
      · rintro (⟨rfl, -⟩ | ⟨m, hmem, hname, -⟩)
        · rfl
        · exact absurd hname (hnone m hmem)
  | some m =>
      obtain ⟨hmem, hname⟩ := (Localization.messageNamed?_eq_some_iff hl).1 hm
      simp only [methodViolations, hm]
      constructor
      · intro hv
        split_ifs at hv with harguments
        · cases hv
        · exact .inr ⟨m, hmem, hname, harguments, List.mem_singleton.1 hv⟩
      · rintro (⟨-, hnone⟩ | ⟨m', hmem', hname', harguments, rfl⟩)
        · exact absurd hname (hnone m hmem)
        · -- there is one message of the name, and the search has found it
          rw [(Localization.messageNamed?_eq_some_iff hl).2 ⟨hmem', hname'⟩] at hm
          cases hm
          rw [if_neg harguments]
          exact List.mem_singleton_self _

/-- The two loops find the differences and nothing else. -/
theorem mem_differences_iff {width : IntegerWidth} (hl : l.WellFormed width)
    (hmethods : methodsOf reference = .ok methods) {e : SchemaError} :
    e ∈ differences reference.language methods l ↔ Differs reference l e := by
  have hpairs := forall₂_methods hmethods
  rw [differences, List.mem_append, List.mem_flatMap, List.mem_map]
  constructor
  · rintro (⟨method, hmethod, he⟩ | ⟨m', hm', rfl⟩)
    · obtain ⟨v, hv, rfl⟩ := List.mem_map.1 he
      obtain ⟨m, hm, hname, harguments⟩ := exists_of_forall₂_right hpairs hmethod
      rw [mem_methodViolations_iff hl, hname, harguments] at hv
      rw [hname]
      rcases hv with ⟨rfl, hnone⟩ | ⟨m', hm', hname', hne, rfl⟩
      · exact .missing hm hnone
      · exact .mismatch hm hm' hname' hne
    · obtain ⟨hmem, hnone⟩ := List.mem_filter.1 hm'
      refine .unexpected hmem fun m hm hname => ?_
      obtain ⟨method, hmethod, hmessage, -⟩ := exists_of_forall₂_left hpairs hm
      simp only [methodFor?, Option.isNone_iff_eq_none, List.find?_eq_none] at hnone
      exact hnone method hmethod (by simp [hmessage, hname])
  · rintro (⟨hm, hmissing⟩ | ⟨hm, hm', hname', hne⟩ | ⟨hm', hunexpected⟩)
    · obtain ⟨method, hmethod, hname, -⟩ := exists_of_forall₂_left hpairs hm
      refine .inl ⟨method, hmethod, List.mem_map.2 ⟨_, ?_, by rw [hname]⟩⟩
      rw [mem_methodViolations_iff hl, hname]
      exact .inl ⟨rfl, hmissing⟩
    · obtain ⟨method, hmethod, hname, harguments⟩ := exists_of_forall₂_left hpairs hm
      refine .inl ⟨method, hmethod, List.mem_map.2 ⟨_, ?_, by rw [hname]⟩⟩
      rw [mem_methodViolations_iff hl, hname, harguments]
      exact .inr ⟨_, hm', hname', hne, rfl⟩
    · refine .inr ⟨_, List.mem_filter.2 ⟨hm', ?_⟩, rfl⟩
      simp only [methodFor?, Option.isNone_iff_eq_none, List.find?_eq_none]
      intro method hmethod hfound
      obtain ⟨m, hm, hname, -⟩ := exists_of_forall₂_right hpairs hmethod
      exact hunexpected m hm (hname.symm.trans (by simpa using hfound))

/-- A method is reported at most once. -/
theorem sublist_located (name : String) (location : Location) (method : Method) :
    ((Violation.located location (methodViolations name l method)).map (·.location)).Sublist
      [location] := by
  unfold methodViolations
  split
  · exact .refl _
  · split
    · exact List.nil_sublist _
    · exact .refl _

/-- What the first loop reports follows the methods. -/
theorem sublist_location_methods (name : String) (methods : List Method) :
    ((methods.flatMap fun method =>
        Violation.located (.inMessage l.language method.message)
          (methodViolations name l method)).map (·.location)).Sublist
      (methods.map fun method => .inMessage l.language method.message) := by
  induction methods with
  | nil => exact List.nil_sublist _
  | cons method methods ih =>
      rw [List.flatMap_cons, List.map_append, List.map_cons, ← List.singleton_append]
      exact (sublist_located name _ method).append ih

theorem inMessage_injective (language : String) :
    Function.Injective (Location.inMessage language) := by
  intro name name' h
  simpa [Location.inMessage] using h

/-- No message is reported twice: what the second loop reports has no method. -/
theorem nodup_location_differences {width : IntegerWidth} (hreference : reference.WellFormed width)
    (hl : l.WellFormed width) (hmethods : methodsOf reference = .ok methods) (name : String) :
    ((differences name methods l).map (·.location)).Nodup := by
  have hinjective := inMessage_injective l.language
  have hexpected : (methods.map fun method =>
      Location.inMessage l.language method.message).Nodup := by
    have hnodup := (Localization.nodup_messageNames hreference).map hinjective
    rwa [← map_message_methods hmethods, List.map_map] at hnodup
  have hfound : (l.messages.map fun m => Location.inMessage l.language m.name).Nodup := by
    have hnodup := (Localization.nodup_messageNames hl).map hinjective
    rwa [List.map_map] at hnodup
  have hfirst := sublist_location_methods (l := l) name methods
  rw [differences, List.map_append, List.map_map]
  refine (hfirst.nodup hexpected).append (hfound.sublist (List.filter_sublist.map _)) ?_
  intro location hmethod hmessage
  obtain ⟨method, hmem, rfl⟩ := List.mem_map.1 (hfirst.subset hmethod)
  obtain ⟨m, hm, hlocation⟩ := List.mem_map.1 hmessage
  have hnone := (List.mem_filter.1 hm).2
  simp only [methodFor?, Option.isNone_iff_eq_none, List.find?_eq_none] at hnone
  exact hnone method hmem (by simp [hinjective hlocation])

end

/-! ## All languages -/

/-- Localizations that have passed validation are told their differences from the first one, one
language after the other and no message of a language twice, and the first one is told nothing. They
have a contract exactly if they all have the same arguments for the same names. -/
theorem unify_differences {width : IntegerWidth} {reference : Localization}
    {rest : List Localization} (hvalid : validate width (reference :: rest) = []) :
    (∃ reports : List (List SchemaError),
      List.Forall₂ (fun l report => (report.map (·.location)).Nodup ∧
        ∀ e, e ∈ report ↔ Differs reference l e) (reference :: rest) reports ∧
      reports.head? = some [] ∧
      (∀ e, (unify (reference :: rest)).result = .error e →
        e.schemaErrors = reports.flatten ∧ e.members = reports.flatten.map .schema) ∧
      ((∃ c, (unify (reference :: rest)).result = .ok c) ↔ reports.flatten = [])) ∧
    ((∃ c, (unify (reference :: rest)).result = .ok c) ↔
      ∀ l ∈ reference :: rest, ∀ l' ∈ reference :: rest,
        ∀ name, l.argumentsOf? name = l'.argumentsOf? name) := by
  have hls := (validate_eq_nil_iff.1 hvalid).2
  have hreference := hls reference List.mem_cons_self
  obtain ⟨methods, hmethods⟩ := exists_methodsOf hreference
  have herror := fun e => checkSchema_of_unify_eq_error (e := e) hls hmethods
  constructor
  · refine ⟨(reference :: rest).map (differences reference.language methods), ?_, ?_,
      fun e he => ?_, ?_⟩
    · refine List.forall₂_map_right_iff.2 (List.forall₂_same.2 fun l hl => ⟨?_, fun e => ?_⟩)
      · exact nodup_location_differences hreference (hls l hl) hmethods _
      · exact mem_differences_iff (hls l hl) hmethods
    · rw [List.map_cons, List.head?_cons,
        (differences_eq_nil_iff_perm hreference hreference hmethods).2 (.refl _)]
    · rw [← List.flatMap_def]
      exact ⟨CompileError.schemaErrors_of_checkSchema_eq_error (herror e he),
        (CompileError.members_of_checkSchema_eq_error (herror e he)).1⟩
    · rw [← List.flatMap_def]
      constructor
      · rintro ⟨c, hc⟩
        obtain ⟨-, hmethods', hnone, -⟩ := unify_cons_eq_ok.1 hc
        rw [hmethods] at hmethods'
        cases hmethods'
        exact List.flatMap_eq_nil_iff.2 hnone
      · intro hnone
        cases hresult : (unify (reference :: rest)).result with
        | ok c => exact ⟨c, rfl⟩
        | error e =>
            have hsome := (CompileError.members_of_checkSchema_eq_error (herror e hresult)).2
            exact absurd hnone hsome
  · rw [exists_unify_eq_ok_iff (List.cons_ne_nil _ _) hls]
    refine forall₂_congr fun l hl => forall₂_congr fun l' hl' => ?_
    exact Localization.signatures_perm_iff (hls l hl) (hls l' hl')

end Contract

/-! ## An example -/

/-- A message that says its name. -/
def notice (name : String) : Message := { name, template := .plain [.literal name] }

/-- A message that says its argument. -/
def nameplate (type : ArgType) : Message :=
  { name := "nameplate"
    arguments := [⟨"owner", type⟩]
    template := .plain [.argument "owner" none] }

/-- German takes the owner for a number, lacks the title and has a footer instead. -/
def signs : List Localization :=
  [⟨"en", [nameplate .text, notice "title"]⟩, ⟨"de", [notice "footer", nameplate .integer]⟩]

theorem notice_wellFormed (name : String) : (notice name).WellFormed .signed where
  parameters := ⟨[], .nil, List.nodup_nil⟩
  types := by simp [notice]
  received := by simp [notice]
  template := by simp [notice, Message.TemplateOk, Message.BodyOk, Message.PartOk]
  templates := by simp [notice]
  acyclic := Message.acyclic_of_varRefs_eq_nil (by simp [notice])

theorem nameplate_wellFormed {type : ArgType} (h : type = .text ∨ type = .integer) :
    (nameplate type).WellFormed .signed where
  parameters := by
    have hname : parameterName "owner" = .ok "owner" := by decide +kernel
    exact ⟨["owner"], .cons hname .nil, by decide⟩
  types := by rcases h with rfl | rfl <;> simp [nameplate]
  received := by simp [nameplate]
  template := by
    rcases h with rfl | rfl <;>
      simp [nameplate, Message.TemplateOk, Message.BodyOk, Message.PartOk, Visible,
        Message.argumentNamed?, Format.Rendering.resolve]
  templates := by simp [nameplate]
  acyclic := Message.acyclic_of_varRefs_eq_nil (by simp [nameplate])

theorem validate_signs : validate .signed signs = [] := by
  refine validate_eq_nil_iff.2 ⟨⟨["en", "de"], ?_, by decide⟩, fun l hl => ?_⟩
  · exact .cons (by decide +kernel) (.cons (by decide +kernel) .nil)
  · rcases List.mem_pair.1 hl with rfl | rfl
    · exact
        { module := ⟨"en", by decide +kernel⟩
          type := ⟨"EnLocalizer", by decide +kernel⟩
          methods := ⟨["nameplate", "title"],
            .cons (by decide +kernel) (.cons (by decide +kernel) .nil), by decide⟩
          functions := ⟨[], .nil, List.nodup_nil⟩
          messages := by simp [nameplate_wellFormed, notice_wellFormed] }
    · exact
        { module := ⟨"de", by decide +kernel⟩
          type := ⟨"DeLocalizer", by decide +kernel⟩
          methods := ⟨["footer", "nameplate"],
            .cons (by decide +kernel) (.cons (by decide +kernel) .nil), by decide⟩
          functions := ⟨[], .nil, List.nodup_nil⟩
          messages := by simp [nameplate_wellFormed, notice_wellFormed] }

theorem unify_differences_signs : validate .signed signs = [] ∧
    ∃ e, (Contract.unify signs).result = .error e ∧
      e.schemaErrors =
        [⟨.inMessage "de" "nameplate",
            .signatureMismatch [⟨"owner", .text⟩] [⟨"owner", .integer⟩]⟩,
          ⟨.inMessage "de" "title", .missingMessage "en"⟩,
          ⟨.inMessage "de" "footer", .unexpectedMessage "en"⟩] ∧
      ∃ reports : List (List SchemaError), e.schemaErrors = reports.flatten ∧
        List.Forall₂ (fun l report => ∀ d, d ∈ report ↔
          Contract.Differs ⟨"en", [nameplate .text, notice "title"]⟩ l d) signs reports := by
  have herrors :
      ((Contract.unify signs).result.mapError CompileError.schemaErrors).map (fun _ => ()) = .error
        [⟨.inMessage "de" "nameplate",
            .signatureMismatch [⟨"owner", .text⟩] [⟨"owner", .integer⟩]⟩,
          ⟨.inMessage "de" "title", .missingMessage "en"⟩,
          ⟨.inMessage "de" "footer", .unexpectedMessage "en"⟩] := by decide +kernel
  obtain ⟨⟨reports, hreports, -, herror, -⟩, -⟩ := Contract.unify_differences validate_signs
  cases hresult : (Contract.unify signs).result with
  | ok c =>
      rw [hresult] at herrors
      cases herrors
  | error e =>
      rw [hresult] at herrors
      exact ⟨validate_signs, e, rfl, Except.error.inj herrors, reports, (herror e hresult).1,
        hreports.imp fun _ _ h => h.2⟩

end Phrasebook
