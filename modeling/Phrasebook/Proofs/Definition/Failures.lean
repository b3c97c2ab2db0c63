import Mathlib.Data.List.Infix
import Phrasebook.Proofs.Definition.Receiving
import Phrasebook.Proofs.Failure

set_option autoImplicit false

/-! # What is wrong with the messages of a language

Whatever can be wrong with the entries of a language is found in one pass, and each failure can be
told from its place: that of a finding from the findings before it (`Finding.failure?`), that of an
entry from the entries before it (`entryFailures`). Building reports them all, in the order of the
documents (`build_eq_error`). -/

namespace Phrasebook.Definition

/-! ## Places in a list -/

section Places

variable {α β : Type}

/-- The members of a list, each with those before it. -/
def withBefore (xs : List α) : List (List α × α) := xs.inits.zip xs

theorem flatMap_withBefore_cons (x : α) (xs : List α) (g : List α × α → List β) :
    (withBefore (x :: xs)).flatMap g =
      g ([], x) ++ (withBefore xs).flatMap fun p => g (x :: p.1, p.2) := by
  simp only [withBefore, List.inits_cons, List.zip_cons_cons, List.zip_map_left, List.flatMap_cons,
    List.flatMap_map]
  rfl

theorem flatMap_withBefore_concat (xs : List α) (x : α) (g : List α × α → List β) :
    (withBefore (xs ++ [x])).flatMap g = (withBefore xs).flatMap g ++ g (xs, x) := by
  induction xs generalizing g with
  | nil => simp [withBefore]
  | cons y xs ih =>
      rw [List.cons_append, flatMap_withBefore_cons, flatMap_withBefore_cons, ih,
        List.append_assoc]

end Places

variable {specifiers : Specifiers} {site : Site}

/-! ## Findings -/

/-- The type that a finding gives to an argument. -/
def Finding.typeOf? (specifiers : Specifiers) (name : String) : Finding → Option ArgType
  | .declares x spec => if x = name then specifiers.get? spec else none
  | _ => none

/-- The type that findings give to an argument: the first one counts. -/
def typeIn? (specifiers : Specifiers) (name : String) (fs : List Finding) : Option ArgType :=
  fs.findSome? (Finding.typeOf? specifiers name)

/-- What is wrong with a finding after others. -/
def Finding.failure? (specifiers : Specifiers) (site : Site) (before : List Finding) :
    Finding → Option Failure
  | .declares name spec =>
      match specifiers.get? spec, typeIn? specifiers name before with
      | none, _ => some (.definition site.path site.message (.unknownSpecifier spec name))
      | some _, none => none
      | some type, some first =>
          if first = type then none
          else some (.definition site.path site.message (.conflictingTypes name first type))
  | .fault f => some (.definition site.path site.message f)
  | .malformed e => some (.template site.path site.message e)
  | .conflict var => some (.compile (.schema
      ⟨{ language := site.language, message := some site.message, var }, .conflictingTemplates⟩))
  | .misshapen var => some (.definition site.path var .shape)

namespace Declarations

theorem ofFindings_concat (fs : List Finding) (f : Finding) :
    ofFindings specifiers site (fs ++ [f]) =
      (ofFindings specifiers site fs).add specifiers site f := by
  rw [ofFindings, List.foldl_append]
  rfl

theorem lookup_add (d : Declarations) (f : Finding) (name : String) :
    (d.add specifiers site f).types.lookup name =
      (d.types.lookup name).or (f.typeOf? specifiers name) := by
  cases f with
  | declares x spec =>
      rw [add, Finding.typeOf?]
      cases hspec : specifiers.get? spec with
      | none => simp [fail]
      | some type =>
          cases hfirst : d.types.lookup x with
          | none =>
              simp only [List.lookup_append]
              by_cases hx : x = name
              · subst hx
                simp
              · have hne : (name == x) = false := beq_false_of_ne fun h => hx h.symm
                simp [hx, List.lookup_cons, hne]
          | some first =>
              -- The argument has its type already, whether or not this one agrees with it.
              have htypes : (if first = type then d else d.fail (.definition site.path site.message
                  (.conflictingTypes x first type))).types = d.types := by
                split <;> rfl
              simp only [htypes]
              by_cases hx : x = name
              · subst hx
                simp [hfirst]
              · simp [hx]
  | fault _ | malformed _ | conflict _ | misshapen _ => simp [add, fail, Finding.typeOf?]

/-- The first declaration gives the type of an argument. -/
theorem lookup_ofFindings (name : String) (fs : List Finding) :
    (ofFindings specifiers site fs).types.lookup name = typeIn? specifiers name fs := by
  induction fs using List.reverseRecOn with
  | nil => rfl
  | append_singleton fs f ih =>
      rw [ofFindings_concat, lookup_add, ih, typeIn?, typeIn?, List.findSome?_append]
      simp

theorem failures_add (fs : List Finding) (f : Finding) :
    ((ofFindings specifiers site fs).add specifiers site f).failures =
      (ofFindings specifiers site fs).failures ++ (f.failure? specifiers site fs).toList := by
  cases f with
  | declares name spec =>
      rw [add, Finding.failure?, lookup_ofFindings]
      cases specifiers.get? spec with
      | none => rfl
      | some type =>
          cases typeIn? specifiers name fs with
          | none => simp
          | some first => by_cases hsame : first = type <;> simp [hsame, fail]
  | fault _ | malformed _ | conflict _ | misshapen _ => rfl

/-- The failures of findings, each told from those before it. -/
theorem failures_ofFindings (fs : List Finding) :
    (ofFindings specifiers site fs).failures =
      (withBefore fs).flatMap fun p => (p.2.failure? specifiers site p.1).toList := by
  induction fs using List.reverseRecOn with
  | nil => rfl
  | append_singleton fs f ih =>
      rw [ofFindings_concat, failures_add, ih, flatMap_withBefore_concat]

end Declarations

/-! ## Entries -/

/-- The arguments that are declared and left out of the list in front, in increasing order. -/
def Entry.unlisted (specifiers : Specifiers) (site : Site) (e : Entry) : List String :=
  match e.draft.listed with
  | none => []
  | some names => (e.declared specifiers site).sortedNames.filter (· ∉ names)

/-- All that is wrong with an entry: the failures of what is found in it, in their order, and then
those of the list in front. -/
def Entry.failures (specifiers : Specifiers) (site : Site) (e : Entry) : List Failure :=
  ((withBefore e.draft.findings).flatMap fun p => (p.2.failure? specifiers site p.1).toList) ++
    (e.unlisted specifiers site).map fun a => .definition site.path site.message (.unlisted a)

theorem buildMessage_eq (e : Entry) :
    buildMessage specifiers site e =
      if (e.failures specifiers site).isEmpty then
        .ok (e.draft.message site.message (e.declared specifiers site).types
          (e.order specifiers site))
      else .error (e.failures specifiers site) := by
  have hfailures : e.failures specifiers site = (e.declared specifiers site).failures ++
      (e.unlisted specifiers site).map fun a =>
        .definition site.path site.message (.unlisted a) := by
    rw [Entry.failures, Entry.declared, Declarations.failures_ofFindings]
  rw [hfailures]
  rfl

theorem Finding.isSingle_of_failure? {before : List Finding} {f : Finding} {failure : Failure}
    (h : f.failure? specifiers site before = some failure) : failure.IsSingle := by
  intro fs heq
  subst heq
  cases f with
  | declares name spec =>
      rw [failure?] at h
      split at h
      · cases h
      · cases h
      · split at h <;> cases h
  | fault _ | malformed _ | conflict _ | misshapen _ => cases h

theorem Entry.isSingle_of_mem_failures {e : Entry} {f : Failure}
    (h : f ∈ e.failures specifiers site) : f.IsSingle := by
  rcases List.mem_append.1 h with h | h
  · obtain ⟨p, -, hp⟩ := List.mem_flatMap.1 h
    exact Finding.isSingle_of_failure? (Option.mem_toList.1 hp)
  · obtain ⟨a, -, rfl⟩ := List.mem_map.1 h
    intro fs heq
    cases heq

/-! ## Languages -/

variable {language : String}

/-- All that is wrong with an entry after others: that there is one of its name, or what is wrong
with it itself. -/
def entryFailures (specifiers : Specifiers) (language : String) (before : List String)
    (x : String × String × Entry) : List Failure :=
  if x.2.1 ∈ before then
    [.compile (.schema ⟨.inMessage language x.2.1, .duplicateMessage x.2.1⟩)]
  else x.2.2.failures specifiers { language, path := x.1, message := x.2.1 }

/-- The entries of documents, each with the path of its document and its name. -/
def entriesOf (documents : List Document) : List (String × String × Entry) :=
  documents.flatMap fun d => d.messages.map fun (name, e) => (d.path, name, e)

/-- All that is wrong with the entries of documents, in their order. -/
def messageFailures (specifiers : Specifiers) (language : String) (documents : List Document) :
    List Failure :=
  (withBefore (entriesOf documents)).flatMap fun p =>
    entryFailures specifiers language (p.1.map (·.2.1)) p.2

theorem entryFailures_congr {before before' : List String}
    (h : ∀ name, name ∈ before ↔ name ∈ before') (x : String × String × Entry) :
    entryFailures specifiers language before x = entryFailures specifiers language before' x := by
  simp only [entryFailures, h]

theorem failures_buildMessages (seen : List String) (entries : List (String × String × Entry)) :
    (buildMessages specifiers language seen entries).1 =
      (withBefore entries).flatMap fun p =>
        entryFailures specifiers language (seen ++ p.1.map (·.2.1)) p.2 := by
  -- The entry that is built first is before all others.
  induction entries generalizing seen with
  | nil => rfl
  | cons x entries ih =>
      obtain ⟨path, name, e⟩ := x
      have hrest : (buildMessages specifiers language (name :: seen) entries).1 =
          (withBefore entries).flatMap fun p => entryFailures specifiers language
            (seen ++ ((path, name, e) :: p.1).map (·.2.1)) p.2 := by
        rw [ih]
        refine List.flatMap_congr fun p _ => entryFailures_congr (fun y => ?_) p.2
        simp [or_left_comm]
      rw [flatMap_withBefore_cons, ← hrest, List.map_nil, List.append_nil, buildMessages]
      by_cases hseen : name ∈ seen
      · simp [hseen, entryFailures]
      · simp only [hseen, if_false, entryFailures, buildMessage_eq]
        split_ifs with hfailures
        · rw [List.isEmpty_iff.1 hfailures, List.nil_append]
        · rfl

theorem isSingle_of_mem_messageFailures {documents : List Document} {f : Failure}
    (h : f ∈ messageFailures specifiers language documents) : f.IsSingle := by
  obtain ⟨p, -, hp⟩ := List.mem_flatMap.1 h
  unfold entryFailures at hp
  split at hp
  · rw [List.mem_singleton.1 hp]
    intro fs heq
    cases heq
  · exact Entry.isSingle_of_mem_failures hp

/-- Building a localization fails with all that is wrong with its entries. -/
theorem build_eq_error {documents : List Document} {f : Failure} :
    (build specifiers language documents).result = .error f ↔
      Failure.ofList? (messageFailures specifiers language documents) = some f := by
  have hfailures : (buildMessages specifiers language [] (entriesOf documents)).1 =
      messageFailures specifiers language documents := failures_buildMessages [] _
  rw [← hfailures, ← Failure.check_eq_error]
  unfold build
  rw [Traced.result_bind, bind_eq_error]
  constructor
  · rintro (h | ⟨_, -, h⟩)
    · exact h
    · cases h
  · exact .inl

end Phrasebook.Definition
