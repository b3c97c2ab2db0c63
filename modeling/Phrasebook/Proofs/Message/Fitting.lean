import Phrasebook.Proofs.Format.Limits
import Phrasebook.Proofs.Message.Meaning

set_option autoImplicit false

/-! # Messages that have a text

With values for all its arguments a message that keeps the rules has a text, unless a directive asks
for what is beyond the limits in one of the places that are shown under these values
(`Message.exists_bodyMeans`, `Message.BodyMeans.not_unshowable`). Whether the text is short enough
is another question; both together make a message fit (`Message.Fits`). -/

namespace Phrasebook

open Format (Value maxTextSize)

/-! ## The body that is taken -/

theorem Template.bodyFor?_plural_eq_some {p : Plural} {args : Values} {b : Body} :
    (Template.plural p).bodyFor? args = some b ↔
      ∃ n, args.lookup p.argument = some (.integer n) ∧ p.bodyFor? n = some b := by
  cases hv : args.lookup p.argument with
  | none => simp [bodyFor?, hv]
  | some v => cases v <;> simp [bodyFor?, hv]

theorem Plural.exists_mem_branches {p : Plural} {n : Int} {b : Body} (h : p.bodyFor? n = some b) :
    ∃ c, (c, b) ∈ p.branches := by
  rw [← find?_branches, Option.map_eq_some_iff] at h
  obtain ⟨⟨c, b⟩, hfind, rfl⟩ := h
  exact ⟨c, List.mem_of_find?_eq_some hfind⟩

theorem Template.mem_bodies {t : Template} {args : Values} {b : Body}
    (h : t.bodyFor? args = some b) : b ∈ t.bodies := by
  cases t with
  | unset => cases h
  | plain b' =>
      cases h
      exact List.mem_singleton_self b
  | plural p =>
      obtain ⟨n, -, hb⟩ := bodyFor?_plural_eq_some.1 h
      obtain ⟨c, hc⟩ := Plural.exists_mem_branches hb
      exact List.mem_map_of_mem hc

namespace Message

variable {m : Message} {width : IntegerWidth} {visible : Option (List String)} {args : Values}

theorem bodyOk_of_bodyFor? {t : Template} {b : Body} (ht : m.TemplateOk width visible t)
    (h : t.bodyFor? args = some b) : m.BodyOk visible b := by
  cases t with
  | unset => cases h
  | plain b' =>
      cases h
      exact ht
  | plural p =>
      obtain ⟨n, -, hb⟩ := Template.bodyFor?_plural_eq_some.1 h
      obtain ⟨c, hc⟩ := Plural.exists_mem_branches hb
      exact ht.bodies _ hc

/-- Values that a message takes: they are for declared arguments, and for each of these there is
one, the first of which suits the type and fits if it is an integer. -/
structure Takes (m : Message) (width : IntegerWidth) (args : Values) : Prop where
  declared : ∀ e ∈ args, ∃ a ∈ m.arguments, a.name = e.1
  supplied : ∀ a ∈ m.arguments, ∃ v, args.lookup a.name = some v ∧ v.suits a.type ∧
    ∀ n, v = .integer n → width.contains n

theorem Takes.exists_lookup (h : m.Takes width args) {x : String} {a : Argument}
    (ha : m.argumentNamed? x = some a) : ∃ v, args.lookup x = some v ∧ v.suits a.type ∧
      ∀ n, v = .integer n → width.contains n := by
  have hname : a.name = x := by simpa using List.find?_some ha
  rw [← hname]
  exact h.supplied a (List.mem_of_find?_eq_some ha)

/-- A template that keeps the rules has a body for all values that the message takes. -/
theorem exists_bodyFor? {t : Template} (ht : m.TemplateOk width visible t)
    (hargs : m.Takes width args) : ∃ b, t.bodyFor? args = some b := by
  cases t with
  | unset => exact ht.elim
  | plain b => exact ⟨b, rfl⟩
  | plural p =>
      obtain ⟨a, ha, -, htype⟩ := ht.driver
      obtain ⟨v, hv, hsuits, hfits⟩ := hargs.exists_lookup ha
      rw [htype] at hsuits
      cases v with
      | integer n =>
          obtain ⟨b, hb⟩ := Option.isSome_iff_exists.1 (Plural.isSome_bodyFor? ht (hfits n rfl))
          exact ⟨b, Template.bodyFor?_plural_eq_some.2 ⟨n, hv, hb⟩⟩
      | text _ | float _ | display _ => cases hsuits

/-! ## What is shown -/

/-- An argument with a directive is shown by a body: in a part of its own, or in a variable that it
refers to. -/
inductive Shows (m : Message) (args : Values) (name : String) (directive : Option String) :
    Body → Prop
  | here {b} (h : .argument name directive ∈ b) : Shows m args name directive b
  | there {b x v b'} (hx : .var x ∈ b) (hv : m.variableNamed? x = some v)
      (hb : v.template.bodyFor? args = some b') (h : Shows m args name directive b') :
      Shows m args name directive b

/-- The value of an argument cannot be shown as a directive asks. -/
def Unshowable (m : Message) (args : Values) (name : String) (directive : Option String) : Prop :=
  ∃ a r v, m.argumentNamed? name = some a ∧ Format.Rendering.resolve a.type directive = .ok r ∧
    args.lookup name = some v ∧ r.Beyond v

/-- A message fits if all that it shows under the values can be shown, and its text is not too
long. -/
structure Fits (m : Message) (args : Values) : Prop where
  shown : ∀ b, m.template.bodyFor? args = some b →
    ∀ name directive, m.Shows args name directive b → ¬ m.Unshowable args name directive
  size : ∀ text, m.Means args text → text.utf8ByteSize ≤ maxTextSize

/-- A body with a text shows nothing that cannot be shown. -/
theorem BodyMeans.not_unshowable {b : Body} {text : String} (h : m.BodyMeans args b text)
    {name : String} {directive : Option String} (hshows : m.Shows args name directive b) :
    ¬ m.Unshowable args name directive := by
  induction h with
  | nil =>
      cases hshows with
      | here h => cases h
      | there hx => cases hx
  | literal _ ih =>
      apply ih
      cases hshows with
      | here h => exact .here ((List.mem_cons.1 h).resolve_left nofun)
      | there hx hv hb h => exact .there ((List.mem_cons.1 hx).resolve_left nofun) hv hb h
  | argument ha hr hv ht _ ih =>
      cases hshows with
      | here h =>
          rcases List.mem_cons.1 h with heq | h
          · cases heq
            rintro ⟨a', r', v', ha', hr', hv', hbeyond⟩
            rw [ha] at ha'
            cases ha'
            rw [hr] at hr'
            cases hr'
            rw [hv] at hv'
            cases hv'
            rw [Format.Rendering.render?_eq_none_iff.2 hbeyond] at ht
            cases ht
          · exact ih (.here h)
      | there hx hv hb h => exact ih (.there ((List.mem_cons.1 hx).resolve_left nofun) hv hb h)
  | var hv hb _ _ ihbody ih =>
      cases hshows with
      | here h => exact ih (.here ((List.mem_cons.1 h).resolve_left nofun))
      | there hx hv' hb' h =>
          rcases List.mem_cons.1 hx with heq | hx
          · cases heq
            rw [hv] at hv'
            cases hv'
            rw [hb] at hb'
            cases hb'
            exact ihbody h
          · exact ih (.there hx hv' hb' h)

/-! ## Texts -/

/-- A body has a text if the variables it refers to have one, and its arguments can be shown. -/
theorem exists_bodyMeans_of_vars (hargs : m.Takes width args) {b : Body}
    (hb : m.BodyOk visible b)
    (hvars : ∀ x, .var x ∈ b → ∃ v b' t, m.variableNamed? x = some v ∧
      v.template.bodyFor? args = some b' ∧ m.BodyMeans args b' t)
    (hshown : ∀ name directive, .argument name directive ∈ b →
      ¬ m.Unshowable args name directive) : ∃ text, m.BodyMeans args b text := by
  induction b with
  | nil => exact ⟨"", .nil⟩
  | cons p b ih =>
      obtain ⟨s, hs⟩ := ih (fun q hq => hb q (List.mem_cons_of_mem _ hq))
        (fun x hx => hvars x (List.mem_cons_of_mem _ hx))
        (fun name directive h => hshown name directive (List.mem_cons_of_mem _ h))
      cases p with
      | literal text => exact ⟨_, hs.literal⟩
      | argument name directive =>
          obtain ⟨a, ha, -, r, hr⟩ := hb _ List.mem_cons_self
          obtain ⟨v, hv, -⟩ := hargs.exists_lookup ha
          have hwithin : ¬ r.Beyond v := fun hbeyond =>
            hshown name directive List.mem_cons_self ⟨a, r, v, ha, hr, hv, hbeyond⟩
          obtain ⟨t, ht⟩ := Format.Rendering.exists_render? hwithin
          exact ⟨_, .argument ha hr hv ht hs⟩
      | var x =>
          obtain ⟨v, b', t, hv, hb', ht⟩ := hvars x List.mem_cons_self
          exact ⟨_, .var hv hb' ht hs⟩

/-- A message without cycles has a text for every body in which all that is shown can be shown. -/
theorem exists_bodyMeans (hm : m.WellFormed width) (hargs : m.Takes width args) {b : Body}
    (hb : m.BodyOk visible b)
    (hshown : ∀ name directive, m.Shows args name directive b →
      ¬ m.Unshowable args name directive) : ∃ text, m.BodyMeans args b text := by
  -- Along the references of the variables, which come to an end.
  have hvariable : ∀ x, m.Ends x → ∀ v b', m.variableNamed? x = some v →
      v.template.bodyFor? args = some b' →
      (∀ name directive, m.Shows args name directive b' → ¬ m.Unshowable args name directive) →
      ∃ t, m.BodyMeans args b' t := by
    intro x hends
    induction hends with
    | intro x _ ih =>
        intro v b' hv hb' hshown
        have htemplate := hm.templates v (mem_of_variableNamed? hv).1
        refine exists_bodyMeans_of_vars hargs (bodyOk_of_bodyFor? htemplate hb') (fun y hy => ?_)
          fun name directive h => hshown name directive (.here h)
        obtain ⟨w, hw, -⟩ := bodyOk_of_bodyFor? htemplate hb' _ hy
        obtain ⟨c, hc⟩ := exists_bodyFor? (hm.templates w (mem_of_variableNamed? hw).1) hargs
        have hrefers : m.Refers x y := by
          rw [Refers, refsOf_of_named hv]
          exact List.mem_flatMap.2 ⟨b', Template.mem_bodies hb',
            List.mem_filterMap.2 ⟨_, hy, rfl⟩⟩
        obtain ⟨t, ht⟩ := ih y hrefers w c hw hc fun name directive h =>
          hshown name directive (.there hy hw hc h)
        exact ⟨w, c, t, hw, hc, ht⟩
  refine exists_bodyMeans_of_vars hargs hb (fun x hx => ?_)
    fun name directive h => hshown name directive (.here h)
  obtain ⟨v, hv, -⟩ := hb _ hx
  obtain ⟨b', hb'⟩ := exists_bodyFor? (hm.templates v (mem_of_variableNamed? hv).1) hargs
  have hends := ends_of_cycles_eq_nil (cycles_eq_nil_iff.2 hm.acyclic) x
  obtain ⟨t, ht⟩ := hvariable x hends v b' hv hb' fun name directive h =>
    hshown name directive (.there hx hv hb' h)
  exact ⟨v, b', t, hv, hb', ht⟩

/-- A message that fits has a text. -/
theorem Fits.exists_means (h : m.Fits args) (hm : m.WellFormed width)
    (hargs : m.Takes width args) : ∃ text, m.Means args text := by
  obtain ⟨b, hb⟩ := exists_bodyFor? hm.template hargs
  have hbody := bodyOk_of_bodyFor? hm.template hb
  obtain ⟨text, htext⟩ := exists_bodyMeans hm hargs hbody (h.shown b hb)
  exact ⟨text, b, hb, htext⟩

/-- A message with a text that is not too long fits. -/
theorem Means.fits {text : String} (h : m.Means args text)
    (hsize : text.utf8ByteSize ≤ maxTextSize) : m.Fits args where
  shown b hb name directive hshows := by
    obtain ⟨b', hb', hbody⟩ := h
    rw [hb] at hb'
    cases hb'
    exact hbody.not_unshowable hshows
  size text' h' := h'.unique h ▸ hsize

end Message

end Phrasebook
