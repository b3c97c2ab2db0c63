import Mathlib.Data.List.Forall2
import Mathlib.Data.List.Nodup
import Mathlib.Data.List.Perm.Basic
import Phrasebook.Plan.Lowering

set_option autoImplicit false

/-! # Results, one by one and in lists

How a computation that may fail comes to succeed: a sequence of two does if both do (`bind_eq_ok`),
a list of them does if each one does (`mapM_eq_ok`), and one that collects its errors does if there
are none (`partitionResults_of_forall₂`). The last part is about lists whose members have names of
their own, in which a search by name finds the member it is meant for. -/

namespace Phrasebook

variable {σ ε δ α β : Type}

/-! ## Sequences -/

theorem bind_eq_ok {x : Except ε α} {f : α → Except ε β} {b : β} :
    (x >>= f) = .ok b ↔ ∃ a, x = .ok a ∧ f a = .ok b := by
  cases x with
  | error e => simp [bind, Except.bind]
  | ok a => simp [bind, Except.bind]

theorem bind_eq_error {x : Except ε α} {f : α → Except ε β} {e : ε} :
    (x >>= f) = .error e ↔ x = .error e ∨ ∃ a, x = .ok a ∧ f a = .error e := by
  cases x with
  | error e' => simp [bind, Except.bind]
  | ok a => simp [bind, Except.bind]

@[simp] theorem ok_bind (a : α) (f : α → Except ε β) : (Except.ok a >>= f) = f a := rfl

@[simp] theorem error_bind (e : ε) (f : α → Except ε β) :
    (Except.error e >>= f) = .error e := rfl

@[simp] theorem pure_eq_ok (a : α) : (pure a : Except ε α) = .ok a := rfl

theorem exists_of_isOk {r : Except ε α} (h : r.isOk) : ∃ a, r = .ok a := by
  cases r with
  | error e => cases h
  | ok a => exact ⟨a, rfl⟩

theorem map_eq_ok {r : Except ε α} {f : α → β} {b : β} :
    r.map f = .ok b ↔ ∃ a, r = .ok a ∧ f a = b := by
  cases r with
  | error e => simp [Except.map]
  | ok a => simp [Except.map]

theorem map_eq_error {r : Except ε α} {f : α → β} {e : ε} :
    r.map f = .error e ↔ r = .error e := by
  cases r with
  | error e => simp [Except.map]
  | ok a => simp [Except.map]

theorem mapError_eq_ok {r : Except ε α} {f : ε → δ} {a : α} :
    r.mapError f = .ok a ↔ r = .ok a := by
  cases r with
  | error e => simp [Except.mapError]
  | ok b => simp [Except.mapError]

theorem mapError_eq_error {r : Except ε α} {f : ε → δ} {d : δ} :
    r.mapError f = .error d ↔ ∃ e, r = .error e ∧ f e = d := by
  cases r with
  | error e => simp [Except.mapError]
  | ok a => simp [Except.mapError]

namespace Traced

@[simp] theorem result_liftM (r : Except ε α) : (liftM r : Traced σ ε α).result = r := rfl

theorem bind_def (x : Traced σ ε α) (f : α → Traced σ ε β) :
    x >>= f = match x.result with
      | .error e => ⟨x.steps, .error e⟩
      | .ok a => ⟨x.steps ++ (f a).steps, (f a).result⟩ := rfl

theorem steps_bind {x : Traced σ ε α} {f : α → Traced σ ε β} {a : α} (h : x.result = .ok a) :
    (x >>= f).steps = x.steps ++ (f a).steps := by
  rw [bind_def, h]

instance : LawfulMonad (Traced σ ε) := LawfulMonad.mk' _
  (by
    rintro α ⟨steps, result⟩
    cases result with
    | error e => rfl
    | ok a => simp [Functor.map])
  (by
    intro α β a f
    rfl)
  (by
    rintro α β γ ⟨steps, result⟩ f g
    cases result with
    | error e => rfl
    | ok a =>
        cases h : (f a).result with
        | error e => simp [bind_def, h]
        | ok b => simp [bind_def, h])

/-- The results of a list of computations do not depend on what is noted. -/
theorem result_mapM (f : α → Traced σ ε β) (as : List α) :
    (as.mapM f).result = as.mapM fun a => (f a).result := by
  induction as with
  | nil => rfl
  | cons a as ih =>
      rw [List.mapM_cons, List.mapM_cons]
      simp only [result_bind, result_pure, ih]
      rfl

end Traced

/-! ## Lists of results -/

theorem mapM_eq_ok {f : α → Except ε β} {as : List α} {bs : List β} :
    as.mapM f = .ok bs ↔ List.Forall₂ (fun a b => f a = .ok b) as bs := by
  induction as generalizing bs with
  | nil => cases bs <;> simp [pure, Except.pure]
  | cons a as ih =>
      rw [List.mapM_cons, bind_eq_ok]
      constructor
      · rintro ⟨b, hb, hrest⟩
        obtain ⟨cs, hcs, heq⟩ := bind_eq_ok.1 hrest
        cases heq
        exact .cons hb (ih.1 hcs)
      · rintro (_ | ⟨hb, hbs⟩)
        exact ⟨_, hb, bind_eq_ok.2 ⟨_, ih.2 hbs, rfl⟩⟩

theorem exists_of_mapM_eq_error {f : α → Except ε β} {as : List α} {e : ε}
    (h : as.mapM f = .error e) : ∃ a ∈ as, f a = .error e := by
  induction as with
  | nil => cases h
  | cons a as ih =>
      rw [List.mapM_cons, bind_eq_error] at h
      rcases h with ha | ⟨b, -, h⟩
      · exact ⟨a, List.mem_cons_self, ha⟩
      · rcases bind_eq_error.1 h with hrest | ⟨bs, -, h⟩
        · obtain ⟨x, hx, hfx⟩ := ih hrest
          exact ⟨x, List.mem_cons_of_mem _ hx, hfx⟩
        · cases h

/-- The error that stands in place of a result, if there is one. -/
def errorOf? : Except ε α → Option ε
  | .error e => some e
  | .ok _ => none

theorem errorOf?_eq_some {r : Except ε α} {e : ε} : errorOf? r = some e ↔ r = .error e := by
  cases r <;> simp [errorOf?]

theorem toOption_eq_some {r : Except ε α} {a : α} : r.toOption = some a ↔ r = .ok a := by
  cases r <;> simp [Except.toOption]

theorem partitionResults_eq (rs : List (Except ε α)) :
    partitionResults rs = (rs.filterMap errorOf?, rs.filterMap Except.toOption) := by
  induction rs with
  | nil => rfl
  | cons r rs ih =>
      cases r with
      | error e =>
          rw [partitionResults, ih]
          rfl
      | ok a =>
          rw [partitionResults, ih]
          rfl

/-- A list of results that are all there has no errors. -/
theorem partitionResults_of_forall₂ {rs : List (Except ε α)} {as : List α}
    (h : List.Forall₂ (fun r a => r = .ok a) rs as) : partitionResults rs = ([], as) := by
  induction h with
  | nil => rfl
  | cons hr _ ih =>
      subst hr
      simp [partitionResults, ih]

/-- If a list of results has no errors, its values are the results. -/
theorem forall₂_of_partitionResults {rs : List (Except ε α)}
    (h : (partitionResults rs).1 = []) :
    List.Forall₂ (fun r a => r = .ok a) rs (partitionResults rs).2 := by
  induction rs with
  | nil => exact .nil
  | cons r rs ih =>
      cases r with
      | error e => simp [partitionResults] at h
      | ok a => exact .cons rfl (ih h)

theorem check_eq_ok {es : List CompileError} :
    CompileError.check es = .ok () ↔ es = [] := by
  rcases es with _ | ⟨e, _ | ⟨e', es⟩⟩ <;> simp [CompileError.check, CompileError.ofList?]

theorem checkSchema_eq_ok {es : List SchemaError} :
    CompileError.checkSchema es = .ok () ↔ es = [] := by
  rw [CompileError.checkSchema, check_eq_ok, List.map_eq_nil_iff]

/-! ## Two lists side by side -/

theorem exists_of_forall₂_left {R : α → β → Prop} {as : List α} {bs : List β}
    (h : List.Forall₂ R as bs) {a : α} (ha : a ∈ as) : ∃ b ∈ bs, R a b := by
  induction h with
  | nil => simp at ha
  | cons hab _ ih =>
      rcases List.mem_cons.1 ha with rfl | ha
      · exact ⟨_, List.mem_cons_self, hab⟩
      · obtain ⟨b, hb, hr⟩ := ih ha
        exact ⟨b, List.mem_cons_of_mem _ hb, hr⟩

theorem exists_of_forall₂_right {R : α → β → Prop} {as : List α} {bs : List β}
    (h : List.Forall₂ R as bs) {b : β} (hb : b ∈ bs) : ∃ a ∈ as, R a b :=
  exists_of_forall₂_left h.flip hb

/-- What stands in the same place. -/
theorem exists_getElem?_of_forall₂ {R : α → β → Prop} {as : List α} {bs : List β}
    (h : List.Forall₂ R as bs) {k : Nat} {a : α} (ha : as[k]? = some a) :
    ∃ b, bs[k]? = some b ∧ R a b := by
  induction h generalizing k with
  | nil => simp at ha
  | @cons a' b' as bs hab _ ih =>
      cases k with
      | zero =>
          obtain rfl : a' = a := by simpa using ha
          exact ⟨b', by simp, hab⟩
      | succ k => simpa using ih (by simpa using ha)

theorem exists_forall₂ {R : α → β → Prop} {as : List α} (h : ∀ a ∈ as, ∃ b, R a b) :
    ∃ bs, List.Forall₂ R as bs := by
  induction as with
  | nil => exact ⟨[], .nil⟩
  | cons a as ih =>
      obtain ⟨b, hb⟩ := h a List.mem_cons_self
      obtain ⟨bs, hbs⟩ := ih fun x hx => h x (List.mem_cons_of_mem _ hx)
      exact ⟨b :: bs, .cons hb hbs⟩

theorem map_eq_map_of_forall₂ {γ : Type} {R : α → β → Prop} {f : α → γ} {g : β → γ}
    {as : List α} {bs : List β} (h : List.Forall₂ R as bs) (hfg : ∀ a b, R a b → f a = g b) :
    as.map f = bs.map g := by
  induction h with
  | nil => rfl
  | cons hab _ ih => rw [List.map_cons, List.map_cons, hfg _ _ hab, ih]

/-- Two lists that stand beside a third stand beside each other. -/
theorem forall₂_of_common {γ : Type} {R : α → β → Prop} {S : α → γ → Prop} {T : β → γ → Prop}
    {as : List α} {bs : List β} {cs : List γ} (hbs : List.Forall₂ R as bs)
    (hcs : List.Forall₂ S as cs) (h : ∀ a ∈ as, ∀ b c, R a b → S a c → T b c) :
    List.Forall₂ T bs cs := by
  induction hbs generalizing cs with
  | nil =>
      cases hcs
      exact .nil
  | cons hab _ ih =>
      cases hcs with
      | cons hac hcs =>
          rw [List.forall_mem_cons] at h
          exact .cons (h.1 _ _ hab hac) (ih hcs h.2)

/-- Two lists that stand beside a third do so together, as pairs. -/
theorem forall₂_zip {γ : Type} {R : α → β → Prop} {S : α → γ → Prop} {as : List α} {bs : List β}
    {cs : List γ} (hbs : List.Forall₂ R as bs) (hcs : List.Forall₂ S as cs) :
    List.Forall₂ (fun a e => R a e.1 ∧ S a e.2) as (bs.zip cs) := by
  induction hbs generalizing cs with
  | nil => exact .nil
  | cons hab _ ih =>
      cases hcs with
      | cons hac hcs => exact .cons ⟨hab, hac⟩ (ih hcs)

/-- If each thing on one side decides what stands beside it, a change of order on that side is no
more than a change of order on the other. -/
theorem perm_of_forall₂ {R : α → β → Prop} {as as' : List α} {bs bs' : List β}
    (hR : ∀ a b b', R a b → R a b' → b = b') (h : as.Perm as') (hbs : List.Forall₂ R as bs)
    (hbs' : List.Forall₂ R as' bs') : bs.Perm bs' :=
  List.rel_perm_imp (fun a b b' hb hb' => hR a b b' hb hb') hbs hbs' h

/-- Different members on one side, and keys that tell them apart on the other. -/
theorem nodup_map_of_forall₂ {γ : Type} {R : α → β → Prop} {key : β → γ} {as : List α}
    {bs : List β} (h : List.Forall₂ R as bs) (hnodup : as.Nodup)
    (hkey : ∀ a b a' b', R a b → R a' b' → key b = key b' → a = a') : (bs.map key).Nodup := by
  induction h with
  | nil => exact List.nodup_nil
  | @cons a b as bs hab hrest ih =>
      rw [List.nodup_cons] at hnodup
      rw [List.map_cons, List.nodup_cons]
      refine ⟨fun hmem => hnodup.1 ?_, ih hnodup.2⟩
      obtain ⟨b', hb', heq⟩ := List.mem_map.1 hmem
      obtain ⟨a', ha', hab'⟩ := exists_of_forall₂_right hrest hb'
      rwa [hkey a b a' b' hab hab' heq.symm]

/-- Beside a part of one list stands a part of the other. -/
theorem exists_sublist_of_forall₂ {R : α → β → Prop} {as as' : List α} {bs : List β}
    (h : List.Forall₂ R as bs) (hpart : as'.Sublist as) :
    ∃ bs', bs'.Sublist bs ∧ List.Forall₂ R as' bs' := by
  induction hpart generalizing bs with
  | slnil => exact ⟨[], List.nil_sublist _, .nil⟩
  | cons a _ ih =>
      cases h with
      | cons _ hrest =>
          obtain ⟨bs', hbs', hR⟩ := ih hrest
          exact ⟨bs', hbs'.cons _, hR⟩
  | cons_cons a _ ih =>
      cases h with
      | cons hab hrest =>
          obtain ⟨bs', hbs', hR⟩ := ih hrest
          exact ⟨_ :: bs', hbs'.cons_cons _, .cons hab hR⟩

/-- A search in both lists for the same thing ends at the same place. -/
theorem find?_of_forall₂ {R : α → β → Prop} {p : α → Bool} {q : β → Bool} {as : List α}
    {bs : List β} (h : List.Forall₂ R as bs) (hpq : ∀ a b, R a b → p a = q b) :
    (as.find? p = none ∧ bs.find? q = none) ∨
      ∃ a b, as.find? p = some a ∧ bs.find? q = some b ∧ R a b := by
  induction h with
  | nil => exact .inl ⟨rfl, rfl⟩
  | @cons a b as bs hab _ ih =>
      rw [List.find?_cons, List.find?_cons, ← hpq a b hab]
      cases p a with
      | true => exact .inr ⟨a, b, rfl, rfl, hab⟩
      | false => exact ih

theorem exists_find?_of_forall₂ {R : α → β → Prop} {p : α → Bool} {q : β → Bool} {as : List α}
    {bs : List β} (h : List.Forall₂ R as bs) (hpq : ∀ a b, R a b → p a = q b) {a : α}
    (ha : as.find? p = some a) : ∃ b, bs.find? q = some b ∧ R a b := by
  rcases find?_of_forall₂ h hpq with ⟨hnone, -⟩ | ⟨a', b, ha', hb, hab⟩
  · rw [ha] at hnone
    cases hnone
  · rw [ha] at ha'
    cases ha'
    exact ⟨b, hb, hab⟩

/-! ## Pairs -/

/-- Pairs with known first parts. -/
theorem eq_zip_of_forall₂ {γ : Type} {key : α → β} {as : List α} {es : List (β × γ)}
    (h : List.Forall₂ (fun a e => e.1 = key a) as es) :
    es = (as.map key).zip (es.map (·.2)) := by
  induction h with
  | nil => rfl
  | cons he _ ih =>
      rw [List.map_cons, List.map_cons, List.zip_cons_cons, ← ih, ← he]

theorem mem_of_lookup [BEq α] [LawfulBEq α] {es : List (α × β)} {x : α} {v : β}
    (h : es.lookup x = some v) : (x, v) ∈ es := by
  obtain ⟨before, after, rfl, -⟩ := List.lookup_eq_some_iff.1 h
  simp

/-- Under different names, a pair is found by its name. -/
theorem lookup_zip_of_nodup {names : List String} (hn : names.Nodup) {vs : List β} {x : String}
    {v : β} (h : (x, v) ∈ names.zip vs) : (names.zip vs).lookup x = some v := by
  induction names generalizing vs with
  | nil => cases h
  | cons y names ih =>
      cases vs with
      | nil => cases h
      | cons w vs =>
          rw [List.nodup_cons] at hn
          rw [List.zip_cons_cons] at h ⊢
          rcases List.mem_cons.1 h with heq | hrest
          · cases heq
            simp
          · have hne : (x == y) = false := by
              rw [beq_eq_false_iff_ne]
              rintro rfl
              exact hn.1 (List.of_mem_zip hrest).1
            rw [List.lookup_cons, hne]
            exact ih hn.2 hrest

/-! ## Members with names of their own -/

/-- If no two members of a list have the same name, a search by name finds the one it is for. -/
theorem find?_eq_some_of_nodup {name : α → String} {as : List α} (hn : (as.map name).Nodup)
    {a : α} (ha : a ∈ as) : as.find? (fun b => name b == name a) = some a := by
  induction as with
  | nil => simp at ha
  | cons b as ih =>
      rw [List.map_cons, List.nodup_cons] at hn
      rcases List.mem_cons.1 ha with rfl | ha
      · simp
      · have hne : name b ≠ name a := fun h => hn.1 (h ▸ List.mem_map_of_mem ha)
        rw [List.find?_cons_of_neg (by simpa using hne)]
        exact ih hn.2 ha

/-- If no two members of a list have the same name, a name picks out the one it is for. -/
theorem filter_eq_singleton_of_nodup {name : α → String} {as : List α}
    (hn : (as.map name).Nodup) {a : α} (ha : a ∈ as) :
    as.filter (fun b => name b == name a) = [a] := by
  induction as with
  | nil => simp at ha
  | cons b as ih =>
      rw [List.map_cons, List.nodup_cons] at hn
      rcases List.mem_cons.1 ha with rfl | ha
      · have hnone : as.filter (fun c => name c == name a) = [] := by
          rw [List.filter_eq_nil_iff]
          intro c hc heq
          exact hn.1 (eq_of_beq heq ▸ List.mem_map_of_mem hc)
        rw [List.filter_cons_of_pos (by simp), hnone]
      · have hne : name b ≠ name a := fun h => hn.1 (h ▸ List.mem_map_of_mem ha)
        rw [List.filter_cons_of_neg (by simpa using hne)]
        exact ih hn.2 ha

/-- If no two members of a list have the same name, a search by name does not depend on their
order. -/
theorem find?_eq_of_perm {name : α → String} {as as' : List α} (h : as.Perm as')
    (hn : (as.map name).Nodup) (x : String) :
    as.find? (fun a => name a == x) = as'.find? (fun a => name a == x) := by
  cases hfound : as.find? (fun a => name a == x) with
  | none =>
      rw [List.find?_eq_none] at hfound
      exact (List.find?_eq_none.2 fun a ha => hfound a (h.mem_iff.2 ha)).symm
  | some a =>
      have hx : name a = x := by simpa using List.find?_some hfound
      have ha : a ∈ as' := h.mem_iff.1 (List.mem_of_find?_eq_some hfound)
      rw [← hx]
      exact (find?_eq_some_of_nodup ((h.map name).nodup_iff.1 hn) ha).symm

end Phrasebook
