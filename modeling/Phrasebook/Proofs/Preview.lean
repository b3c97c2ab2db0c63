import Phrasebook.Preview
import Phrasebook.Proofs.Definition.Printing
import Phrasebook.Proofs.Plan.Progress

set_option autoImplicit false

/-! # Previews and evaluations

A preview takes its arguments as texts, and everything before the first equals sign of a text is the
name of an argument, without the blanks around it. So there are names that cannot be given, and
where a message has an argument with such a name none of its previews succeeds. All other messages
can be previewed with any texts for their arguments: what cannot be read as a number is refused, and
otherwise the preview is the evaluation with the values that the texts are read as
(`Compiled.preview_of_assignments`). -/

namespace Phrasebook

open Format (Value)
open Text (trim)

/-! ## Names -/

/-- The name can be given before an equals sign: there is none in it, and no blank around it. -/
structure IsPlainName (name : String) : Prop where
  noEquals : '=' ∉ name.toList
  trimmed : trim name.toList = name.toList

theorem splitPair?_of_isPlainName {name : String} (h : IsPlainName name) (hne : name ≠ "")
    (text : String) : splitPair? (name ++ "=" ++ text) = some (name, text) := by
  have hraw : (name ++ "=" ++ text).toList = name.toList ++ '=' :: text.toList := by simp
  have hsome : name.toList.isEmpty = false := by simpa using hne
  simp only [splitPair?, hraw, Definition.splitAtChar_append h.noEquals, h.trimmed, hsome,
    Bool.false_eq_true, if_false, String.ofList_toList]

/-- Whatever is given, no other names come of it. -/
theorem isPlainName_of_splitPair? {raw name text : String}
    (h : splitPair? raw = some (name, text)) : IsPlainName name := by
  have hname : name = String.ofList (trim (raw.toList.takeWhile (· ≠ '='))) := by
    rw [← Definition.splitAtChar_fst]
    unfold splitPair? at h
    split at h
    · next front value hsplit =>
        rw [hsplit]
        dsimp only at h
        split at h
        · cases h
        · cases h
          rfl
    · cases h
  rw [hname]
  constructor
  · rw [String.toList_ofList]
    intro hmem
    have hne := List.mem_takeWhile_imp (Text.mem_of_mem_trim hmem)
    simp at hne
  · rw [String.toList_ofList, Text.trim_trim]

theorem ne_empty_of_parameterName {name ident : String} (h : parameterName name = .ok ident) :
    name ≠ "" := by
  rintro rfl
  have hempty : (parameterName "").toOption.isSome = false := by decide +kernel
  rw [h] at hempty
  cases hempty

/-! ## Values -/

/-- What a text is read as for an argument of some type. -/
inductive ReadsAs : ArgType → String → Value → Prop
  | text {t} : ReadsAs .text t (.text t)
  | integer {t n} (h : Number.readInt128? (trim t.toList) = some n) :
      ReadsAs .integer t (.integer n)
  | float {t x} (h : Number.readBinary64? (trim t.toList) = some x) : ReadsAs .float t (.float x)
  | display {t} : ReadsAs .display t (.display t)
  | custom {path t} : ReadsAs (.custom path) t (.display t)

/-- A text that is no number, for an argument that has to be one. -/
inductive Unreadable : ArgType → String → PreviewFault → Prop
  | integer {t} (h : Number.readInt128? (trim t.toList) = none) :
      Unreadable .integer t .notAnInteger
  | float {t} (h : Number.readBinary64? (trim t.toList) = none) : Unreadable .float t .notANumber

section Values

variable {type : ArgType} {text : String} {v : Value} {fault : PreviewFault}

theorem readValue_of_readsAs (h : ReadsAs type text v) : readValue type text = .ok v := by
  cases h with
  | text | display | custom => rfl
  | integer h => simp only [readValue, h]
  | float h => simp only [readValue, h]

theorem readValue_of_unreadable (h : Unreadable type text fault) :
    readValue type text = .error fault := by
  cases h with
  | integer h => simp only [readValue, h]
  | float h => simp only [readValue, h]

theorem readsAs_or_unreadable (type : ArgType) (text : String) :
    (∃ v, ReadsAs type text v) ∨ ∃ fault, Unreadable type text fault := by
  cases type with
  | text => exact .inl ⟨_, .text⟩
  | display => exact .inl ⟨_, .display⟩
  | custom path => exact .inl ⟨_, .custom⟩
  | integer =>
      cases hn : Number.readInt128? (trim text.toList) with
      | none => exact .inr ⟨_, .integer hn⟩
      | some n => exact .inl ⟨_, .integer hn⟩
  | float =>
      cases hx : Number.readBinary64? (trim text.toList) with
      | none => exact .inr ⟨_, .float hx⟩
      | some x => exact .inl ⟨_, .float hx⟩

theorem ReadsAs.unique {w : Value} (hv : ReadsAs type text v) (hw : ReadsAs type text w) :
    v = w := by
  have hread := readValue_of_readsAs hv
  rw [readValue_of_readsAs hw] at hread
  cases hread
  rfl

theorem ReadsAs.suits (h : ReadsAs type text v) : v.suits type := by
  cases h <;> rfl

end Values

/-- A text for an argument, under its name. -/
def assignment (text : String → String) (a : Argument) : String := a.name ++ "=" ++ text a.name

/-- Values for arguments, under their names. -/
def valuesOf (value : String → Value) (as : List Argument) : Values :=
  as.map fun a => (a.name, value a.name)

theorem lookup_valuesOf (value : String → Value) (as : List Argument) (x : String) :
    (valuesOf value as).lookup x = if x ∈ as.map (·.name) then some (value x) else none := by
  induction as with
  | nil => rfl
  | cons a as ih =>
      rw [valuesOf, List.map_cons, List.lookup_cons, ← valuesOf, ih]
      by_cases hx : x = a.name
      · simp [hx]
      · have hne : (x == a.name) = false := beq_eq_false_iff_ne.2 hx
        rw [hne]
        simp [hx]

/-! ## Reading arguments -/

namespace Plan

variable {m : Message} {language : String} {width : IntegerWidth} {f : Function}

theorem exists_paramFor? (hf : m.IsFunction language width f) (hm : m.WellFormed width)
    {a : Argument} (ha : a ∈ m.arguments) : ∃ q, f.paramFor? a.name = some q ∧ q.type = a.type := by
  have hplans := hf.plans hm
  obtain ⟨q, hq, hargument⟩ := exists_param_of_mem_arguments hf ha
  obtain ⟨a', ha', hname, htype⟩ := exists_argument_of_mem_params hf hq
  have hsame : a' = a :=
    List.inj_on_of_nodup_map hplans.nodup ha' ha (hname.trans hargument)
  refine ⟨q, ?_, hsame ▸ htype⟩
  rw [← hargument]
  exact find?_eq_some_of_nodup (hplans.arguments_eq ▸ hplans.nodup) hq

theorem paramFor?_eq_none_iff (hf : m.IsFunction language width f) (hm : m.WellFormed width)
    {x : String} : f.paramFor? x = none ↔ x ∉ m.arguments.map (·.name) := by
  rw [← (hf.plans hm).arguments_eq, Function.paramFor?, List.find?_eq_none]
  simp

/-- A text for an argument with a plain name is read as the type of the argument asks. -/
theorem readArgument_assignment (hf : m.IsFunction language width f) (hm : m.WellFormed width)
    {a : Argument} (ha : a ∈ m.arguments) (hplain : IsPlainName a.name) (text : String → String) :
    f.readArgument (assignment text a) =
      ((readValue a.type (text a.name)).map fun v => (a.name, v)).mapError
        (.previewArgument (assignment text a)) := by
  obtain ⟨ident, hident⟩ := hm.parameters.exists_name ha
  obtain ⟨q, hq, htype⟩ := exists_paramFor? hf hm ha
  have hsplit : splitPair? (assignment text a) = some (a.name, text a.name) :=
    splitPair?_of_isPlainName hplain (ne_empty_of_parameterName hident) _
  simp only [Function.readArgument, hsplit, hq, htype]
  cases readValue a.type (text a.name) <;> rfl

theorem isPlainName_of_readArgument {raw : String} {e : String × Value}
    (h : f.readArgument raw = .ok e) : IsPlainName e.1 := by
  cases hsplit : splitPair? raw with
  | none => simp [Function.readArgument, hsplit] at h
  | some given =>
      have hname : e.1 = given.1 := by
        simp only [Function.readArgument, hsplit] at h
        split at h
        · cases h
          rfl
        · split at h
          · cases h
            rfl
          · cases h
      rw [hname]
      exact isPlainName_of_splitPair? hsplit

section Assignments

variable {text : String → String} {as : List Argument}

/-- Texts that can be read give the values that they are read as. -/
theorem readArguments_eq_ok (hf : m.IsFunction language width f) (hm : m.WellFormed width)
    (hplain : ∀ a ∈ m.arguments, IsPlainName a.name) (has : as ⊆ m.arguments)
    {value : String → Value}
    (hread : ∀ a ∈ m.arguments, ReadsAs a.type (text a.name) (value a.name)) :
    (as.map (assignment text)).mapM f.readArgument = .ok (valuesOf value as) := by
  rw [mapM_eq_ok, valuesOf, List.forall₂_map_left_iff, List.forall₂_map_right_iff,
    List.forall₂_same]
  intro a ha
  rw [readArgument_assignment hf hm (has ha) (hplain a (has ha)),
    readValue_of_readsAs (hread a (has ha))]
  rfl

theorem unreadable_of_readArguments_eq_error (hf : m.IsFunction language width f)
    (hm : m.WellFormed width) (hplain : ∀ a ∈ m.arguments, IsPlainName a.name)
    (has : as ⊆ m.arguments) {failure : Failure}
    (h : (as.map (assignment text)).mapM f.readArgument = .error failure) :
    ∃ a ∈ as, ∃ fault, Unreadable a.type (text a.name) fault ∧
      failure = .previewArgument (assignment text a) fault := by
  obtain ⟨raw, hraw, herror⟩ := exists_of_mapM_eq_error h
  obtain ⟨a, ha, rfl⟩ := List.mem_map.1 hraw
  rw [readArgument_assignment hf hm (has ha) (hplain a (has ha))] at herror
  rcases readsAs_or_unreadable a.type (text a.name) with ⟨v, hv⟩ | ⟨fault, hfault⟩
  · rw [readValue_of_readsAs hv] at herror
    cases herror
  · rw [readValue_of_unreadable hfault] at herror
    cases herror
    exact ⟨a, ha, fault, hfault, rfl⟩

theorem not_unreadable_of_readArguments_eq_ok (hf : m.IsFunction language width f)
    (hm : m.WellFormed width) (hplain : ∀ a ∈ m.arguments, IsPlainName a.name)
    (has : as ⊆ m.arguments) {args : Values}
    (h : (as.map (assignment text)).mapM f.readArgument = .ok args) {a : Argument} (ha : a ∈ as)
    (fault : PreviewFault) : ¬ Unreadable a.type (text a.name) fault := by
  intro hfault
  obtain ⟨e, -, he⟩ := exists_of_forall₂_left (mapM_eq_ok.1 h) (List.mem_map_of_mem ha)
  rw [readArgument_assignment hf hm (has ha) (hplain a (has ha)),
    readValue_of_unreadable hfault] at he
  cases he

/-- Texts that can be read, read. Arguments that share a name are the same, so that the value may
depend on the name alone. -/
theorem exists_values_of_not_unreadable (hm : m.WellFormed width)
    (h : ∀ a ∈ m.arguments, ∀ fault, ¬ Unreadable a.type (text a.name) fault) :
    ∃ value : String → Value, ∀ a ∈ m.arguments, ReadsAs a.type (text a.name) (value a.name) := by
  have hone : ∀ x, ∃ v, ∀ a ∈ m.arguments, a.name = x → ReadsAs a.type (text x) v := by
    intro x
    by_cases hx : ∃ a ∈ m.arguments, a.name = x
    · obtain ⟨a, ha, rfl⟩ := hx
      rcases readsAs_or_unreadable a.type (text a.name) with ⟨v, hv⟩ | ⟨fault, hfault⟩
      · refine ⟨v, fun a' ha' hname => ?_⟩
        have hsame : a' = a := by
          refine List.inj_on_of_nodup_map (hm.parameters.nodup_map ?_) ha' ha hname
          intro b b' hb
          rw [hb]
        rw [hsame]
        exact hv
      · exact absurd hfault (h a ha fault)
    · exact ⟨.text "", fun a ha hname => absurd ⟨a, ha, hname⟩ hx⟩
  choose value hvalue using hone
  exact ⟨value, fun a ha => hvalue a.name a ha rfl⟩

end Assignments

/-! ## Evaluating what was read -/

section Evaluating

variable {value : String → Value} {as bs : List Argument}

theorem declared_of_mem_valuesOf (has : as.Perm m.arguments) {e : String × Value}
    (he : e ∈ valuesOf value as) : ∃ a ∈ m.arguments, a.name = e.1 := by
  obtain ⟨a, ha, rfl⟩ := List.mem_map.1 he
  exact ⟨a, has.subset ha, rfl⟩

/-- The order in which values are given does not matter. -/
theorem bind_valuesOf (hf : m.IsFunction language width f) (has : as.Perm m.arguments) :
    Plan.bind width f (valuesOf value as) =
      f.params.mapM (Plan.supplied width f (valuesOf value m.arguments)) := by
  have hlookup : ∀ x, (valuesOf value as).lookup x = (valuesOf value m.arguments).lookup x := by
    intro x
    simp only [lookup_valuesOf, (has.map (·.name)).mem_iff]
  have hsupplied : Plan.supplied width f (valuesOf value as) =
      Plan.supplied width f (valuesOf value m.arguments) := by
    funext q
    simp only [Plan.supplied, hlookup]
  rw [Plan.bind, find?_unknown_eq_none hf fun e he => declared_of_mem_valuesOf has he,
    hsupplied]

theorem lookup_valuesOf_param (hf : m.IsFunction language width f) {q : Param}
    (hq : q ∈ f.params) :
    (valuesOf value m.arguments).lookup q.binding.argument = some (value q.binding.argument) := by
  obtain ⟨a, ha, hname, -⟩ := exists_argument_of_mem_params hf hq
  rw [lookup_valuesOf, if_pos (hname ▸ List.mem_map_of_mem ha)]

/-- A value that suits is refused only if it is an integer that does not fit. -/
theorem supplied_eq_error {args : Values} {q : Param} {v : Value} {e : EvalError}
    (hv : args.lookup q.binding.argument = some v) (hsuits : v.suits q.type)
    (h : Plan.supplied width f args q = .error e) :
    ∃ n, v = .integer n ∧ ¬ width.contains n ∧
      e = .integerOutOfRange f.source q.binding.argument n width := by
  cases v with
  | integer n =>
      by_cases hfits : width.contains n
      · simp [Plan.supplied, hv, hsuits, hfits] at h
      · simp only [Plan.supplied, hv, hsuits, hfits, Bool.not_true, Bool.false_eq_true,
          if_false] at h
        cases h
        exact ⟨n, rfl, hfits, rfl⟩
  | text _ | float _ | display _ => simp [Plan.supplied, hv, hsuits] at h

/-- Values that suit and that can be bound are values that the message takes. -/
theorem takes_of_bind_valuesOf (hf : m.IsFunction language width f) (has : as.Perm m.arguments)
    (hsuits : ∀ a ∈ m.arguments, (value a.name).suits a.type) {values : Values}
    (h : Plan.bind width f (valuesOf value as) = .ok values) :
    m.Takes width (valuesOf value as) := by
  refine ⟨fun e he => declared_of_mem_valuesOf has he, fun a ha => ?_⟩
  have hlookup : (valuesOf value as).lookup a.name = some (value a.name) := by
    rw [lookup_valuesOf, if_pos (List.mem_map_of_mem (has.mem_iff.2 ha))]
  refine ⟨value a.name, hlookup, hsuits a ha, ?_⟩
  -- The value was bound to the parameter of the argument, and so it fits.
  obtain ⟨q, hq, hargument⟩ := exists_param_of_mem_arguments hf ha
  obtain ⟨e, -, he⟩ := exists_of_forall₂_left (forall₂_of_bind h) hq
  obtain ⟨hname, hvalue, -, hfits⟩ := of_supplied_eq_ok he
  rw [hname, hargument, hlookup, Option.some_inj] at hvalue
  rw [hvalue]
  exact hfits

/-- With values that suit, an integer may be out of range or calls may nest too deep. -/
theorem evaluate_valuesOf_eq_error {p : Plan} {l : Localization} {e : EvalError}
    (hl : l.WellFormed width) (hp : (l.lower width).result = .ok p) (hm : m ∈ l.messages)
    (has : as.Perm m.arguments) (hsuits : ∀ a ∈ m.arguments, (value a.name).suits a.type)
    (h : p.evaluate width m.name (valuesOf value as) = .error e) :
    (∃ a ∈ m.arguments, ∃ n, value a.name = .integer n ∧ ¬ width.contains n ∧
        e = .integerOutOfRange m.name a.name n width) ∨
      ∃ function, e = .recursionLimit function := by
  obtain ⟨f, hf, hmf⟩ := Localization.exists_messageNamed? hl hp hm
  cases hbind : Plan.bind width f (valuesOf value as) with
  | error e' =>
      simp only [evaluate, hf, hbind, Attempt.liftM_error, Attempt.error_bind] at h
      cases h
      rw [bind_valuesOf hmf has] at hbind
      obtain ⟨q, hq, herror⟩ := exists_of_mapM_eq_error hbind
      obtain ⟨a, ha, hname, htype⟩ := exists_argument_of_mem_params hmf hq
      obtain ⟨n, hn, hfits, rfl⟩ := supplied_eq_error (lookup_valuesOf_param hmf hq)
        (hname ▸ htype ▸ hsuits a ha) herror
      rw [← hname, hmf.source]
      exact .inl ⟨a, ha, n, hname ▸ hn, hfits, rfl⟩
  | ok values =>
      have htakes := takes_of_bind_valuesOf hmf has hsuits hbind
      have hfinishes := evaluate_finishes hl hp hm htakes
      rw [h] at hfinishes
      cases hfinishes with
      | error => exact .inr ⟨_, rfl⟩

theorem evaluate_valuesOf_perm {p : Plan} {l : Localization} (hl : l.WellFormed width)
    (hp : (l.lower width).result = .ok p) (hm : m ∈ l.messages) (has : as.Perm m.arguments)
    (hbs : bs.Perm m.arguments) :
    p.evaluate width m.name (valuesOf value as) = p.evaluate width m.name (valuesOf value bs) := by
  obtain ⟨f, hf, hmf⟩ := Localization.exists_messageNamed? hl hp hm
  simp only [evaluate, hf, bind_valuesOf hmf has, bind_valuesOf hmf hbs]

end Evaluating

end Plan

/-! ## Previews -/

namespace Compiled

variable {s : Settings} {ls : List Localization} {c : Compiled} {l : Localization} {m : Message}
  {requested : Option String}

/-- A preview reads its arguments, and evaluates the message with what it has read. -/
theorem exists_result_preview (hc : (compile s ls).result = .ok c) (hl : l ∈ ls)
    (hm : m ∈ l.messages) (hlanguage : requested.getD (c.languages.headD "") = l.language) :
    ∃ p f, (l.lower s.integer).result = .ok p ∧ m.IsFunction l.language s.integer f ∧
      p.messageNamed? m.name = some f ∧
      ∀ raw, (c.preview requested m.name raw).result = raw.mapM f.readArgument >>= fun args =>
        (p.evaluate s.integer m.name args).toExcept .eval .overflow := by
  obtain ⟨p, hplan, hp⟩ := exists_planOf? hc hl
  obtain ⟨f, hf, hmf⟩ := Localization.exists_messageNamed? (wellFormed hc hl) hp hm
  refine ⟨p, f, hp, hmf, hf, fun raw => ?_⟩
  simp only [preview, hlanguage, hplan, hf, Compiled.evaluate, settings_eq hc]
  cases raw.mapM f.readArgument <;> rfl

theorem evaluate_eq (hc : (compile s ls).result = .ok c) (hl : l ∈ ls) {p : Plan}
    (hp : (l.lower s.integer).result = .ok p) (message : String) (args : Values) :
    c.evaluate l.language message args = p.evaluate s.integer message args := by
  obtain ⟨p', hplan, hp'⟩ := exists_planOf? hc hl
  rw [hp] at hp'
  cases hp'
  rw [evaluate, hplan, settings_eq hc]

/-- What is given under the name of no argument is refused. -/
theorem preview_of_unknown (hc : (compile s ls).result = .ok c) (hl : l ∈ ls)
    (hm : m ∈ l.messages) (hlanguage : requested.getD (c.languages.headD "") = l.language)
    {raw x text : String} (hsplit : splitPair? raw = some (x, text))
    (hx : x ∉ m.arguments.map (·.name)) :
    (c.preview requested m.name [raw]).result = .error (.eval (.unexpectedArgument m.name x)) := by
  have hmw := (wellFormed hc hl).messages m hm
  obtain ⟨p, f, -, hmf, hf, hresult⟩ := exists_result_preview hc hl hm hlanguage
  have hparam : f.paramFor? x = none := (Plan.paramFor?_eq_none_iff hmf hmw).2 hx
  have hargs : [raw].mapM f.readArgument = .ok [(x, .text text)] := by
    refine mapM_eq_ok.2 (.cons ?_ .nil)
    simp only [Function.readArgument, hsplit, hparam]
  have hbind : Plan.bind s.integer f [(x, .text text)] = .error (.unexpectedArgument m.name x) := by
    simp only [Plan.bind, List.find?_cons, hparam, Option.isNone_none, hmf.source]
  rw [hresult, hargs, ok_bind, Plan.evaluate, hf]
  simp only [hbind, Attempt.liftM_error, Attempt.error_bind]
  rfl

/-- An argument whose name is not plain is never given. -/
theorem preview_ne_ok_of_not_isPlainName (hc : (compile s ls).result = .ok c) (hl : l ∈ ls)
    (hm : m ∈ l.messages) (hlanguage : requested.getD (c.languages.headD "") = l.language)
    {a : Argument} (ha : a ∈ m.arguments) (hname : ¬ IsPlainName a.name) (raw : List String)
    (text : String) : (c.preview requested m.name raw).result ≠ .ok text := by
  intro htext
  obtain ⟨p, f, -, hmf, hf, hresult⟩ := exists_result_preview hc hl hm hlanguage
  rw [hresult, bind_eq_ok] at htext
  obtain ⟨args, hargs, htext⟩ := htext
  obtain ⟨f', values, -, hf', hbind, -⟩ := Plan.evaluate_eq_ok.1 (Attempt.toExcept_eq_ok.1 htext)
  rw [hf] at hf'
  cases hf'
  -- The parameter for the argument has a value, which was given under the name of the argument.
  obtain ⟨q, hq, hargument⟩ := Plan.exists_param_of_mem_arguments hmf ha
  obtain ⟨e, -, he⟩ := exists_of_forall₂_left (Plan.forall₂_of_bind hbind) hq
  obtain ⟨hnamed, hlookup, -⟩ := Plan.of_supplied_eq_ok he
  obtain ⟨given, -, hgiven⟩ := exists_of_forall₂_right (mapM_eq_ok.1 hargs) (mem_of_lookup hlookup)
  apply hname
  rw [← hargument, ← hnamed]
  exact Plan.isPlainName_of_readArgument hgiven

/-- If the names of the arguments are all plain, texts for them, in any order, are refused if and
only if one of them has to be a number and is none; otherwise the preview is the evaluation with the
values that they are read as, whatever the order of these, and the only errors that are left are an
integer that is out of range and calls that nest too deep. If there is a name that is not plain,
nothing can be given to a preview that would make it succeed. -/
theorem preview_of_assignments (hc : (compile s ls).result = .ok c) (hl : l ∈ ls)
    (hm : m ∈ l.messages) (hlanguage : requested.getD (c.languages.headD "") = l.language) :
    ((∀ a ∈ m.arguments, IsPlainName a.name) →
      ∀ (text : String → String) (as : List Argument), as.Perm m.arguments →
      ∀ r, (c.preview requested m.name (as.map (assignment text))).result = r →
        ((∃ raw fault, r = .error (.previewArgument raw fault)) ↔
          ∃ a ∈ m.arguments, ∃ fault, Unreadable a.type (text a.name) fault) ∧
        ((∀ a ∈ m.arguments, ∀ fault, ¬ Unreadable a.type (text a.name) fault) →
          ∃ value : String → Value,
            (∀ a ∈ m.arguments, ReadsAs a.type (text a.name) (value a.name)) ∧
            ∀ bs, bs.Perm m.arguments →
              r = (c.evaluate l.language m.name (valuesOf value bs)).toExcept .eval .overflow) ∧
        ∀ e, r = .error (.eval e) →
          (∃ a ∈ m.arguments, ∃ n, ReadsAs a.type (text a.name) (.integer n) ∧
            ¬ s.integer.contains n ∧ e = .integerOutOfRange m.name a.name n s.integer) ∨
          ∃ function, e = .recursionLimit function) ∧
    ((∃ a ∈ m.arguments, ¬ IsPlainName a.name) →
      ∀ raw text, (c.preview requested m.name raw).result ≠ .ok text) := by
  have hlw := wellFormed hc hl
  have hmw := hlw.messages m hm
  constructor
  swap
  · rintro ⟨a, ha, hname⟩
    exact preview_ne_ok_of_not_isPlainName hc hl hm hlanguage ha hname
  rintro hplain text as has r rfl
  obtain ⟨p, f, hp, hmf, -, hresult⟩ := exists_result_preview hc hl hm hlanguage
  rw [hresult]
  cases hargs : (as.map (assignment text)).mapM f.readArgument with
  | error failure =>
      -- A text was refused, and nothing has been evaluated.
      obtain ⟨a, ha, fault, hfault, rfl⟩ :=
        Plan.unreadable_of_readArguments_eq_error hmf hmw hplain has.subset hargs
      have hsome : ∃ a ∈ m.arguments, ∃ fault, Unreadable a.type (text a.name) fault :=
        ⟨a, has.subset ha, fault, hfault⟩
      refine ⟨⟨fun _ => hsome, fun _ => ⟨_, fault, rfl⟩⟩, fun hnone => ?_, fun e he => ?_⟩
      · exact absurd hfault (hnone a (has.subset ha) fault)
      · cases he
  | ok args =>
      have hread : ∀ a ∈ m.arguments, ∀ fault, ¬ Unreadable a.type (text a.name) fault :=
        fun a ha => Plan.not_unreadable_of_readArguments_eq_ok hmf hmw hplain has.subset hargs
          (has.mem_iff.2 ha)
      obtain ⟨value, hvalue⟩ := Plan.exists_values_of_not_unreadable hmw hread
      rw [Plan.readArguments_eq_ok hmf hmw hplain has.subset hvalue] at hargs
      cases hargs
      refine ⟨⟨?_, ?_⟩, fun _ => ⟨value, hvalue, fun bs hbs => ?_⟩, fun e he => ?_⟩
      · rintro ⟨raw, fault, hfailure⟩
        rcases Attempt.toExcept_eq_error.1 hfailure with ⟨e, -, he⟩ | ⟨-, he⟩
        · cases he
        · cases he
      · rintro ⟨a, ha, fault, hfault⟩
        exact absurd hfault (hread a ha fault)
      · rw [evaluate_eq hc hl hp, ok_bind, Plan.evaluate_valuesOf_perm hlw hp hm has hbs]
      · obtain ⟨e', herror, he⟩ : ∃ e',
            p.evaluate s.integer m.name (valuesOf value as) = .error e' ∧
              Failure.eval e' = .eval e := by
          rcases Attempt.toExcept_eq_error.1 he with herror | ⟨-, he⟩
          · exact herror
          · cases he
        cases he
        have hsuits : ∀ a ∈ m.arguments, (value a.name).suits a.type :=
          fun a ha => (hvalue a ha).suits
        rcases Plan.evaluate_valuesOf_eq_error hlw hp hm has hsuits herror with
          ⟨a, ha, n, hn, hfits, rfl⟩ | hdeep
        · exact .inl ⟨a, ha, n, hn ▸ hvalue a ha, hfits, rfl⟩
        · exact .inr hdeep

end Compiled

/-! ## Examples -/

/-- A message with one argument. -/
def salutation (name argument : String) : Message :=
  { name
    arguments := [⟨argument, .text⟩]
    template := .plain [.literal "Dear ", .argument argument none] }

/-- Neither of the names of the arguments is plain. -/
def salutations : Localization :=
  { language := "en", messages := [salutation "hi" "a=b", salutation "bye" " a"] }

theorem salutation_wellFormed (name : String) {argument ident : String}
    (hident : parameterName argument = .ok ident) :
    (salutation name argument).WellFormed .signed where
  parameters := ⟨[ident], .cons hident .nil, List.nodup_singleton _⟩
  types := by simp [salutation]
  received := by simp [salutation]
  template := by
    simp [salutation, Message.TemplateOk, Message.BodyOk, Message.PartOk, Visible,
      Message.argumentNamed?, Format.Rendering.resolve]
  templates := by simp [salutation]
  acyclic := Message.acyclic_of_varRefs_eq_nil (by simp [salutation])

theorem salutations_wellFormed : salutations.WellFormed .signed where
  module := ⟨"en", by decide +kernel⟩
  type := ⟨"EnLocalizer", by decide +kernel⟩
  methods := ⟨["hi", "bye"], .cons (by decide +kernel) (.cons (by decide +kernel) .nil), by decide⟩
  functions := ⟨[], .nil, List.nodup_nil⟩
  messages := by
    intro m hm
    rcases List.mem_pair.1 hm with rfl | rfl
    · have hident : parameterName "a=b" = .ok "a_b" := by decide +kernel
      exact salutation_wellFormed "hi" hident
    · have hident : parameterName " a" = .ok "a" := by decide +kernel
      exact salutation_wellFormed "bye" hident

theorem exists_compiled_salutations : ∃ c, (compile {} [salutations]).result = .ok c :=
  exists_compile_singleton salutations_wellFormed

/-- Texts for arguments that a message has, refused as texts for an argument that it has not. -/
theorem preview_salutations : ∃ c, (compile {} [salutations]).result = .ok c ∧
    (c.preview (some "en") "hi" ["a=b=Ann"]).result =
      .error (.eval (.unexpectedArgument "hi" "a")) ∧
    (c.preview (some "en") "bye" [" a=Ann"]).result =
      .error (.eval (.unexpectedArgument "bye" "a")) := by
  obtain ⟨c, hc⟩ := exists_compiled_salutations
  have hhi : splitPair? "a=b=Ann" = some ("a", "b=Ann") := by decide +kernel
  have hbye : splitPair? " a=Ann" = some ("a", "Ann") := by decide +kernel
  refine ⟨c, hc, ?_, ?_⟩
  · exact Compiled.preview_of_unknown (m := salutation "hi" "a=b") hc List.mem_cons_self
      List.mem_cons_self rfl hhi (by decide)
  · exact Compiled.preview_of_unknown (m := salutation "bye" " a") hc List.mem_cons_self
      (List.mem_cons_of_mem _ List.mem_cons_self) rfl hbye (by decide)

/-- A number with blanks around it, a name with a blank in it, and the values in the order in which
the texts are given; and names that are not plain. -/
theorem preview_letters :
    (∃ c, (compile {} lettersTwice).result = .ok c ∧
      (c.preview (some "de") "inbox" ["count= 3 ", "user name=Ann"]).result =
        .ok "Ann: 3 Briefe") ∧
    ∃ c, (compile {} [salutations]).result = .ok c ∧
      ∀ raw text, (c.preview none "hi" raw).result ≠ .ok text := by
  constructor
  · obtain ⟨c, hc, htext⟩ := exists_compiled_lettersTwice
    refine ⟨c, hc, ?_⟩
    have hlanguage : (some "de").getD (c.languages.headD "") =
        (letters "de" "ein Brief" " Briefe").language := rfl
    have hplain : ∀ a ∈ (inbox "ein Brief" " Briefe").arguments, IsPlainName a.name := by
      intro a ha
      rcases List.mem_pair.1 ha with rfl | rfl
      · exact ⟨by decide, by decide +kernel⟩
      · exact ⟨by decide, by decide +kernel⟩
    have hnumber : Number.readInt128? (trim " 3 ".toList) = some 3 := by decide +kernel
    have hperm : [⟨"count", .integer⟩, ⟨"user name", .text⟩].Perm
        (inbox "ein Brief" " Briefe").arguments := .swap _ _ _
    obtain ⟨-, hvalues, -⟩ := (Compiled.preview_of_assignments (m := inbox "ein Brief" " Briefe")
      hc (List.mem_cons_of_mem _ List.mem_cons_self) List.mem_cons_self hlanguage).1 hplain
      (fun x => if x = "count" then " 3 " else "Ann") _ hperm _ rfl
    obtain ⟨value, hvalue, hresult⟩ := hvalues (by
      intro a ha fault hfault
      rcases List.mem_pair.1 ha with rfl | rfl
      · cases hfault
      · cases hfault with
        | integer hnone =>
            rw [if_pos rfl, hnumber] at hnone
            cases hnone)
    have hann : ReadsAs .text "Ann" (value "user name") := hvalue _ List.mem_cons_self
    have hthree : ReadsAs .integer " 3 " (value "count") :=
      hvalue _ (List.mem_cons_of_mem _ List.mem_cons_self)
    have hgiven : valuesOf value [⟨"count", .integer⟩, ⟨"user name", .text⟩] = threeForAnn := by
      simp only [valuesOf, List.map, hann.unique .text, hthree.unique (.integer hnumber),
        threeForAnn]
    have hevaluate := hresult _ hperm
    rw [hgiven] at hevaluate
    exact hevaluate.trans (Attempt.toExcept_eq_ok.2 htext)
  · obtain ⟨c, hc⟩ := exists_compiled_salutations
    have hlanguage : (none : Option String).getD (c.languages.headD "") = salutations.language := by
      rw [Compiled.languages_eq hc]
      rfl
    refine ⟨c, hc, ?_⟩
    refine (Compiled.preview_of_assignments (m := salutation "hi" "a=b") hc List.mem_cons_self
      List.mem_cons_self hlanguage).2 ⟨_, List.mem_cons_self, ?_⟩
    intro hplain
    exact hplain.noEquals (by decide)

end Phrasebook
