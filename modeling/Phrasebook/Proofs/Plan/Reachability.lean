import Mathlib.Data.Finset.Insert
import Mathlib.Data.Multiset.AddSub
import Phrasebook.Proofs.Message.Cycles
import Phrasebook.Proofs.Plan.Lowering

set_option autoImplicit false

/-! # The variables that a message leads to

A message leads to a name if its template refers to it, or if it leads to a variable whose template
does (`LeadsTo`). The search for these names follows pending ones and meets new ones on its way. It
may take them up in any order: it ends after no more steps than there are references
(`Worklist.Run.length_le`), and what it has found by then are the names that the message leads to
(`Worklist.Faithful.mem_found_iff`). The functions of variables are marked accordingly
(`referenced_exact`). -/

namespace Phrasebook.Message

/-- The variable is the first one of its name. -/
def IsFirst (m : Message) (v : Variable) : Prop :=
  ∃ front rest, m.vars = front ++ v :: rest ∧ ∀ w ∈ front, w.name ≠ v.name

/-- The message leads to the name, by way of none or more variables. -/
inductive LeadsTo (m : Message) : String → Prop
  | direct {x} (hx : x ∈ m.template.varRefs) : LeadsTo m x
  | through {v x} (hv : m.IsFirst v) (hlead : LeadsTo m v.name) (hx : x ∈ v.template.varRefs) :
      LeadsTo m x

section Graph

variable {m : Message} {v : Variable} {x y : String}

theorem isFirst_iff : m.IsFirst v ↔ m.variableNamed? v.name = some v := by
  rw [variableNamed?, List.find?_eq_some_iff_append]
  constructor
  · rintro ⟨front, rest, hvars, hfront⟩
    exact ⟨by simp, front, rest, hvars, fun w hw => by simpa using hfront w hw⟩
  · rintro ⟨-, front, rest, hvars, hfront⟩
    exact ⟨front, rest, hvars, fun w hw => by simpa using hfront w hw⟩

theorem refsOf_of_isFirst (h : m.IsFirst v) : m.refsOf v.name = v.template.varRefs :=
  refsOf_of_named (isFirst_iff.1 h)

theorem exists_isFirst_of_refers (h : m.Refers x y) :
    ∃ v, m.IsFirst v ∧ v.name = x ∧ y ∈ v.template.varRefs := by
  obtain ⟨v, hv, hy⟩ := refers_iff.1 h
  obtain ⟨-, rfl⟩ := mem_of_variableNamed? hv
  exact ⟨v, isFirst_iff.2 hv, rfl, hy⟩

theorem LeadsTo.refers (hlead : m.LeadsTo x) (h : m.Refers x y) : m.LeadsTo y := by
  obtain ⟨v, hv, rfl, hy⟩ := exists_isFirst_of_refers h
  exact .through hv hlead hy

theorem leadsTo_iff :
    m.LeadsTo x ↔ ∃ y ∈ m.template.varRefs, Relation.ReflTransGen m.Refers y x := by
  constructor
  · intro h
    induction h with
    | direct hx => exact ⟨_, hx, .refl⟩
    | through hv _ hx ih =>
        obtain ⟨y, hy, hyv⟩ := ih
        exact ⟨y, hy, hyv.tail (refers_iff.2 ⟨_, isFirst_iff.1 hv, hx⟩)⟩
  · rintro ⟨y, hy, hyx⟩
    induction hyx with
    | refl => exact .direct hy
    | tail _ hrefers ih => exact ih.refers hrefers

theorem mem_referenced_iff : x ∈ m.referenced ↔ m.LeadsTo x := by
  rw [leadsTo_iff, referenced, mem_reach_iff]

/-- A name that only variables refer to which the message does not lead to. -/
theorem not_leadsTo_of_dead (hx : x ∉ m.template.varRefs)
    (hdead : ∀ v, m.IsFirst v → x ∈ v.template.varRefs → ¬ m.LeadsTo v.name) : ¬ m.LeadsTo x := by
  rintro (hdirect | ⟨hv, hlead, hrefers⟩)
  · exact hx hdirect
  · exact hdead _ hv hrefers hlead

end Graph

theorem nodup_reach (m : Message) (seen pending : List String) (h : seen.Nodup) :
    (m.reach seen pending).Nodup := by
  induction seen, pending using reach.induct m with
  | case1 seen => simpa [reach] using h
  | case2 seen name rest hseen ih =>
      rw [reach, if_pos hseen]
      exact ih h
  | case3 seen name rest hseen v hv ih =>
      rw [reach_of_named hseen hv]
      exact ih (h.cons hseen)
  | case4 seen name rest hseen hv ih =>
      rw [reach_of_unnamed hseen hv]
      exact ih (h.cons hseen)

/-! ## The search in any order -/

/-- A search for names under way: those found, and those that are still to be followed. -/
structure Worklist where
  found : Finset String
  pending : Multiset String

namespace Worklist

/-- Before the first step, what the template of the message refers to is pending. -/
def start (m : Message) : Worklist := ⟨∅, m.template.varRefs⟩

/-- One step follows any of the pending names. -/
inductive Step (m : Message) : Worklist → Worklist → Prop
  | known {found name rest} (h : name ∈ found) : Step m ⟨found, name ::ₘ rest⟩ ⟨found, rest⟩
  | fresh {found name rest} (h : name ∉ found) :
      Step m ⟨found, name ::ₘ rest⟩ ⟨insert name found, m.refsOf name + rest⟩

/-- A number of steps, one after the other. -/
inductive Run (m : Message) : Nat → Worklist → Worklist → Prop
  | done {w} : Run m 0 w w
  | step {n u v w} (h : Step m u v) (hrun : Run m n v w) : Run m (n + 1) u w

variable {m : Message} {n : Nat} {u w : Worklist}

theorem exists_step (h : w.pending ≠ 0) : ∃ w', Step m w w' := by
  obtain ⟨found, pending⟩ := w
  obtain ⟨name, hname⟩ := Multiset.exists_mem_of_ne_zero h
  obtain ⟨rest, rfl⟩ := Multiset.exists_cons_of_mem hname
  by_cases hfound : name ∈ found
  · exact ⟨_, .known hfound⟩
  · exact ⟨_, .fresh hfound⟩

/-! ### How long it takes -/

/-- What the templates of variables refer to, with repeats. -/
def references (vs : List Variable) : List String := vs.flatMap (·.template.varRefs)

theorem length_references_append (vs ws : List Variable) :
    (references (vs ++ ws)).length = (references vs).length + (references ws).length := by
  simp [references]

theorem length_references_cons (v : Variable) (vs : List Variable) :
    (references (v :: vs)).length = v.template.varRefs.length + (references vs).length := by
  simp [references]

theorem length_references_le {vs ws : List Variable} (h : vs.Sublist ws) :
    (references vs).length ≤ (references ws).length := by
  induction h with
  | slnil => exact Nat.le_refl _
  | cons v _ ih =>
      rw [length_references_cons]
      omega
  | cons_cons v _ ih =>
      rw [length_references_cons, length_references_cons]
      omega

/-- The variables whose names are not found yet. -/
def unfound (found : Finset String) (vs : List Variable) : List Variable :=
  vs.filter (·.name ∉ found)

theorem unfound_insert_sublist (name : String) (found : Finset String) (vs : List Variable) :
    (unfound (insert name found) vs).Sublist (unfound found vs) := by
  refine List.monotone_filter_right vs fun v hv => ?_
  simp only [Finset.mem_insert, not_or, decide_eq_true_eq] at hv ⊢
  exact hv.2

/-- A name that is found for the first time uses up the references of its template. -/
theorem length_references_unfound {name : String} {found : Finset String} (h : name ∉ found) :
    (m.refsOf name).length + (references (unfound (insert name found) m.vars)).length ≤
      (references (unfound found m.vars)).length := by
  cases hv : m.variableNamed? name with
  | none =>
      rw [refsOf_of_unnamed hv, List.length_nil, Nat.zero_add]
      exact length_references_le (unfound_insert_sublist name found m.vars)
  | some v =>
      -- the first variable of the name is among those that are left out now, maybe with others
      obtain ⟨-, rfl⟩ := mem_of_variableNamed? hv
      obtain ⟨front, rest, hvars, -⟩ := isFirst_iff.2 hv
      have hfront := length_references_le (unfound_insert_sublist v.name found front)
      have hrest := length_references_le (unfound_insert_sublist v.name found rest)
      have hbefore : unfound found m.vars = unfound found front ++ v :: unfound found rest := by
        simp [unfound, hvars, h]
      have hafter : unfound (insert v.name found) m.vars =
          unfound (insert v.name found) front ++ unfound (insert v.name found) rest := by
        simp [unfound, hvars]
      rw [hbefore, hafter, refsOf_of_named hv, length_references_append,
        length_references_append, length_references_cons]
      omega

/-- The steps that are left at most. -/
def budget (m : Message) (w : Worklist) : Nat :=
  w.pending.card + (references (unfound w.found m.vars)).length

theorem Step.budget_lt (h : Step m u w) : budget m w < budget m u := by
  cases h with
  | known _ => simp [budget]
  | @fresh found name rest hname =>
      have hless : (m.refsOf name).length + _ ≤ _ := length_references_unfound hname
      simp only [budget, Multiset.card_add, Multiset.coe_card, Multiset.card_cons]
      omega

theorem Run.budget_le (h : Run m n u w) : n + budget m w ≤ budget m u := by
  induction h with
  | done => omega
  | step hstep _ ih =>
      have := hstep.budget_lt
      omega

/-- No run takes more steps than there are references in the message and its variables. -/
theorem Run.length_le (h : Run m n (start m) w) :
    n ≤ m.template.varRefs.length + (references m.vars).length := by
  have hall : unfound ∅ m.vars = m.vars := by simp [unfound]
  have hbudget := h.budget_le
  rw [budget, budget, start, hall, Multiset.coe_card] at hbudget
  omega

/-! ### What it finds -/

/-- All that a search has met are names that the message leads to, and it has met what the template
of the message refers to and what found names refer to. -/
structure Faithful (m : Message) (w : Worklist) : Prop where
  sound : ∀ x, x ∈ w.found ∨ x ∈ w.pending → m.LeadsTo x
  begun : ∀ x ∈ m.template.varRefs, x ∈ w.found ∨ x ∈ w.pending
  closed : ∀ x ∈ w.found, ∀ y ∈ m.refsOf x, y ∈ w.found ∨ y ∈ w.pending

theorem faithful_start (m : Message) : Faithful m (start m) where
  sound x hx := by
    rcases hx with hx | hx
    · simp [start] at hx
    · exact .direct hx
  begun x hx := .inr hx
  closed x hx := by simp [start] at hx

/-- A name that is met stays so. -/
theorem Step.met (h : Step m u w) {x : String} (hx : x ∈ u.found ∨ x ∈ u.pending) :
    x ∈ w.found ∨ x ∈ w.pending := by
  cases h with
  | known hname =>
      rcases hx with hx | hx
      · exact .inl hx
      · rcases Multiset.mem_cons.1 hx with rfl | hx
        · exact .inl hname
        · exact .inr hx
  | fresh hname =>
      rcases hx with hx | hx
      · exact .inl (Finset.mem_insert_of_mem hx)
      · rcases Multiset.mem_cons.1 hx with rfl | hx
        · exact .inl (Finset.mem_insert_self _ _)
        · exact .inr (Multiset.mem_add.2 (.inr hx))

theorem Step.faithful (h : Step m u w) (hu : Faithful m u) : Faithful m w := by
  refine ⟨?_, fun x hx => h.met (hu.begun x hx), ?_⟩
  · cases h with
    | known hname => exact fun x hx => hu.sound x (hx.imp_right (Multiset.mem_cons_of_mem ·))
    | @fresh found name rest hname =>
        have hlead : m.LeadsTo name := hu.sound name (.inr (Multiset.mem_cons_self _ _))
        rintro x (hx | hx)
        · rcases Finset.mem_insert.1 hx with rfl | hx
          · exact hlead
          · exact hu.sound x (.inl hx)
        · rcases Multiset.mem_add.1 hx with hx | hx
          · exact hlead.refers hx
          · exact hu.sound x (.inr (Multiset.mem_cons_of_mem hx))
  · intro x hx y hy
    by_cases hold : x ∈ u.found
    · exact h.met (hu.closed x hold y hy)
    · -- the name has been found by this very step
      cases h with
      | known hname => exact absurd hx hold
      | fresh hname =>
          obtain rfl := (Finset.mem_insert.1 hx).resolve_right hold
          exact .inr (Multiset.mem_add.2 (.inl hy))

theorem Run.faithful (h : Run m n u w) (hu : Faithful m u) : Faithful m w := by
  induction h with
  | done => exact hu
  | step hstep _ ih => exact ih (hstep.faithful hu)

/-- When nothing is pending, all is found that the message leads to. -/
theorem Faithful.mem_found_iff (h : Faithful m w) (hdone : w.pending = 0) {x : String} :
    x ∈ w.found ↔ m.LeadsTo x := by
  have hmet : ∀ {y}, y ∈ w.found ∨ y ∈ w.pending → y ∈ w.found := by
    simp [hdone]
  refine ⟨fun hx => h.sound x (.inl hx), fun hlead => ?_⟩
  induction hlead with
  | direct hx => exact hmet (h.begun _ hx)
  | through hv _ hx ih =>
      refine hmet (h.closed _ ih _ ?_)
      rw [refsOf_of_isFirst hv]
      exact hx

end Worklist

/-- The search for the names that pending ones lead to is one of these. -/
theorem exists_run_reach (m : Message) (seen pending : List String) :
    ∃ n, Worklist.Run m n ⟨seen.toFinset, pending⟩ ⟨(m.reach seen pending).toFinset, 0⟩ := by
  have hfresh : ∀ {name rest seen}, name ∉ seen → Worklist.Step m
      ⟨seen.toFinset, (name :: rest : List String)⟩
      ⟨(name :: seen).toFinset, (m.refsOf name ++ rest : List String)⟩ := by
    intro name rest seen h
    rw [List.toFinset_cons, ← Multiset.coe_add, ← Multiset.cons_coe]
    exact .fresh fun hname => h (List.mem_toFinset.1 hname)
  induction seen, pending using reach.induct m with
  | case1 seen =>
      rw [reach]
      exact ⟨0, .done⟩
  | case2 seen name rest hseen ih =>
      rw [reach, if_pos hseen]
      obtain ⟨n, hrun⟩ := ih
      rw [← Multiset.cons_coe]
      exact ⟨n + 1, .step (.known (List.mem_toFinset.2 hseen)) hrun⟩
  | case3 seen name rest hseen v hv ih =>
      rw [reach_of_named hseen hv]
      obtain ⟨n, hrun⟩ := ih
      rw [← refsOf_of_named hv] at hrun ⊢
      exact ⟨n + 1, .step (hfresh hseen) hrun⟩
  | case4 seen name rest hseen hv ih =>
      -- a name that no variable has is found as well, but adds nothing
      rw [reach_of_unnamed hseen hv]
      obtain ⟨n, hrun⟩ := ih
      have hstep := @hfresh name rest seen hseen
      rw [refsOf_of_unnamed hv] at hstep
      exact ⟨n + 1, .step hstep hrun⟩

/-- The names that the template of a message refers to, be it by way of variables, are found each
once, whatever the message: variables may refer to themselves or to names that none has, and of
several variables of one name the first counts. The search is one that follows pending names, and
any such search ends and finds the same. Lowering marks the function of a variable exactly if the
message leads to its name, so not if only unmarked variables refer to it. -/
theorem referenced_exact (m : Message) :
    (∃ n, Worklist.Run m n (.start m) ⟨m.referenced.toFinset, 0⟩) ∧
    (∀ n w, Worklist.Run m n (.start m) w →
      n ≤ m.template.varRefs.length + (Worklist.references m.vars).length ∧
        ((∃ w', Worklist.Step m w w') ∨ w.found = m.referenced.toFinset)) ∧
    m.referenced.Nodup ∧ (∀ x, x ∈ m.referenced ↔ m.LeadsTo x) ∧
    ∀ language width f gs, (m.lower language width).result = .ok (f, gs) →
      List.Forall₂ (fun v g => g.source = v.name ∧ (g.referenced = true ↔ m.LeadsTo v.name) ∧
        (v.name ∉ m.template.varRefs →
          (∀ u, m.IsFirst u → v.name ∈ u.template.varRefs → ¬ m.LeadsTo u.name) →
          g.referenced = false)) m.vars gs := by
  refine ⟨exists_run_reach m [] m.template.varRefs, ?_, nodup_reach m [] _ List.nodup_nil,
    fun x => mem_referenced_iff, ?_⟩
  · intro n w hrun
    refine ⟨hrun.length_le, ?_⟩
    by_cases hdone : w.pending = 0
    · have hfaithful := hrun.faithful (Worklist.faithful_start m)
      refine .inr (Finset.ext fun x => ?_)
      rw [hfaithful.mem_found_iff hdone, List.mem_toFinset, mem_referenced_iff]
    · exact .inl (Worklist.exists_step hdone)
  · intro language width f gs hlower
    refine (lower_eq_ok.1 hlower).2.imp fun v g hg => ?_
    have hmarked : g.referenced = true ↔ m.LeadsTo v.name := by
      rw [hg.referenced, decide_eq_true_eq, mem_referenced_iff]
    refine ⟨hg.source, hmarked, fun hdirect hdead => ?_⟩
    rw [← Bool.not_eq_true, hmarked]
    exact not_leadsTo_of_dead hdirect hdead

end Phrasebook.Message

namespace Phrasebook

/-- A variable whose template inserts another one. -/
def forwarding (name next : String) : Variable := { name, template := .plain [.var next] }

/-- The way out leads back and the way back leads out again. There is a second way back, and the
cellar, to which nothing leads; these alone lead to the attic. -/
def roundTrip : Message :=
  { name := "trip"
    template := .plain [.literal "Go ", .var "out"]
    vars := [forwarding "out" "back", forwarding "back" "out", forwarding "back" "attic",
      forwarding "cellar" "attic", { name := "attic", template := .plain [.literal "up"] }] }

theorem leadsTo_roundTrip {x : String} : roundTrip.LeadsTo x ↔ x = "out" ∨ x = "back" := by
  have hout : roundTrip.LeadsTo "out" := .direct (by decide)
  constructor
  · intro h
    induction h with
    | direct hx => exact .inl (List.mem_singleton.1 hx)
    | through hv _ hx ih =>
        rw [← Message.refsOf_of_isFirst hv] at hx
        rcases ih with hname | hname
        · rw [hname] at hx
          exact .inr (List.mem_singleton.1 hx)
        · rw [hname] at hx
          exact .inl (List.mem_singleton.1 hx)
  · rintro (rfl | rfl)
    · exact hout
    · exact hout.refers (List.mem_singleton.2 rfl)

theorem exists_lower_roundTrip : ∃ f gs, (roundTrip.lower "en" .signed).result = .ok (f, gs) := by
  have hmessage : (roundTrip.function "en" .signed).result.isOk := by decide +kernel
  have hvariables : ∀ b, roundTrip.vars.all fun v =>
      (roundTrip.variableFunction "en" .signed b v).result.isOk := by
    decide +kernel
  obtain ⟨f, hf⟩ := exists_of_isOk hmessage
  obtain ⟨gs, hgs⟩ := exists_forall₂ fun v hv =>
    exists_of_isOk (List.all_eq_true.1 (hvariables (decide (v.name ∈ roundTrip.referenced))) v hv)
  exact ⟨f, gs, Message.lower_eq_ok.2 ⟨Message.function_eq_ok.1 hf,
    hgs.imp fun _ _ hg => Message.variableFunction_eq_ok.1 hg⟩⟩

/-- The way out and both ways back are marked, the cellar and the attic are not. -/
theorem referenced_roundTrip : ∃ f gs, (roundTrip.lower "en" .signed).result = .ok (f, gs) ∧
    gs.map (·.source) = ["out", "back", "back", "cellar", "attic"] ∧
    gs.map (·.referenced) = [true, true, true, false, false] := by
  obtain ⟨f, gs, hlower⟩ := exists_lower_roundTrip
  obtain ⟨-, -, -, -, hmarks⟩ := Message.referenced_exact roundTrip
  have hmarks := hmarks "en" .signed f gs hlower
  refine ⟨f, gs, hlower, ?_, ?_⟩
  · exact (map_eq_map_of_forall₂ hmarks fun v g hg => hg.1.symm).symm
  · have hnamed : roundTrip.vars.map (fun v => decide (v.name = "out" ∨ v.name = "back")) =
        gs.map (·.referenced) := by
      refine map_eq_map_of_forall₂ hmarks fun v g hg => ?_
      rw [Bool.eq_iff_iff, hg.2.1, leadsTo_roundTrip, decide_eq_true_eq]
    rw [← hnamed]
    decide

end Phrasebook
