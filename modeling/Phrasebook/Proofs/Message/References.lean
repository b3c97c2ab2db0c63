import Mathlib.Data.List.Chain
import Mathlib.Logic.Relation
import Mathlib.Order.WellFounded
import Phrasebook.Message.References

set_option autoImplicit false

/-! # The graph of references

Variables refer to variables. The search for cycles reports a list exactly if there is one: what it
reports are cycles (`isCycle_of_mem_cycles`), and if it reports nothing, every variable that it is
done with leads to no endless chain of references (`acyclic_of_cycles_eq_nil`). The search for the
variables that names lead to finds these and no others (`mem_reach_iff`); those that a message leads
to are closed under references (`refsOf_subset_referenced`). -/

namespace Phrasebook

theorem Body.varRefs_of_isConstant {b : Body} (h : b.isConstant) : b.varRefs = [] := by
  rw [varRefs, List.filterMap_eq_nil_iff]
  intro p hp
  have hliteral : p.isLiteral := List.all_eq_true.1 h p hp
  cases p with
  | literal text => rfl
  | argument name directive => rfl
  | var name => cases hliteral

namespace Message

/-- The variable `x` has a template that refers to `y`. -/
def Refers (m : Message) (x y : String) : Prop := y ∈ m.refsOf x

/-- No variable leads back to itself. -/
def Acyclic (m : Message) : Prop := ∀ x, ¬ Relation.TransGen m.Refers x x

/-- A list of names each of which refers to the next one, the last of which is the first. -/
structure IsCycle (m : Message) (names : List String) : Prop where
  two_le_length : 2 ≤ names.length
  head_eq_last : names.head? = names.getLast?
  chain : names.IsChain m.Refers

theorem refsOf_of_named {m : Message} {name : String} {v : Variable}
    (h : m.variableNamed? name = some v) : m.refsOf name = v.template.varRefs := by
  rw [refsOf, h]

theorem refsOf_of_unnamed {m : Message} {name : String} (h : m.variableNamed? name = none) :
    m.refsOf name = [] := by
  rw [refsOf, h]

/-- There is no cycle if no variable refers to any. -/
theorem acyclic_of_varRefs_eq_nil {m : Message} (h : ∀ v ∈ m.vars, v.template.varRefs = []) :
    m.Acyclic := by
  intro x hx
  obtain ⟨y, hy, -⟩ := Relation.TransGen.head'_iff.1 hx
  rw [Refers] at hy
  cases hv : m.variableNamed? x with
  | none =>
      rw [refsOf_of_unnamed hv] at hy
      cases hy
  | some v =>
      rw [refsOf_of_named hv, h v (mem_of_variableNamed? hv).1] at hy
      cases hy

/-! ## One step of the search -/

section Steps

variable {m : Message} {path : List String} {s : Search path} {name : String}

theorem Search.mark?_enter (s : Search path) (name x : String) :
    (s.enter name).mark? x = if x = name then some .active else s.mark? x := by
  by_cases hx : x = name
  · simp [mark?, enter, hx]
  · simp [mark?, enter, List.lookup_cons, beq_false_of_ne hx, hx]

theorem Search.mark?_leave (s : Search (path ++ [name])) (h : name ∉ path) (x : String) :
    (s.leave h).mark? x = if x = name then some .done else s.mark? x := by
  by_cases hx : x = name
  · simp [mark?, leave, hx]
  · simp [mark?, leave, List.lookup_cons, beq_false_of_ne hx, hx]

theorem visit_of_done (h : s.mark? name = some .done) : m.visit path s name = s := by
  rw [visit]
  split
  · rfl
  · next h' => rw [h] at h'; cases h'
  · next h' => rw [h] at h'; cases h'

theorem visit_of_active (h : s.mark? name = some .active) :
    m.visit path s name = s.close name := by
  rw [visit]
  split
  · next h' => rw [h] at h'; cases h'
  · rfl
  · next h' => rw [h] at h'; cases h'

theorem visit_of_unnamed (h : s.mark? name = none) (hv : m.variableNamed? name = none) :
    m.visit path s name = s := by
  rw [visit]
  split
  · rfl
  · next h' => rw [h] at h'; cases h'
  · split
    · rfl
    · next v hv' => rw [hv] at hv'; cases hv'

theorem visit_of_named {v : Variable} (h : s.mark? name = none)
    (hv : m.variableNamed? name = some v) :
    m.visit path s name =
      (m.visitAll (path ++ [name]) (s.enter name) v.template.varRefs).leave (s.notMem_path h) := by
  rw [visit]
  split
  · next h' => rw [h] at h'; cases h'
  · next h' => rw [h] at h'; cases h'
  · split
    · next hv' => rw [hv] at hv'; cases hv'
    · next w hv' =>
        rw [hv] at hv'
        cases hv'
        rfl

end Steps

/-! ## Reported lists are cycles -/

/-- A variable on the path is found there, and what is reported starts with it. -/
theorem exists_drop_eq_cons {name : String} {path : List String} (h : name ∈ path) :
    ∃ rest, path.drop ((path.findIdx? (· == name)).getD 0) = name :: rest := by
  have hsome : (path.findIdx? (· == name)).isSome := by simpa using h
  obtain ⟨i, hi⟩ := Option.isSome_iff_exists.1 hsome
  obtain ⟨hlt, hname, -⟩ := List.findIdx?_eq_some_iff_getElem.1 hi
  rw [hi, Option.getD_some, List.drop_eq_getElem_cons hlt, eq_of_beq hname]
  exact ⟨_, rfl⟩

/-- The end of a path from a name on, and that name again. -/
theorem isCycle_of_path {m : Message} {path : List String} {name : String}
    (hchain : (path ++ [name]).IsChain m.Refers) (hp : name ∈ path) :
    m.IsCycle (path.drop ((path.findIdx? (· == name)).getD 0) ++ [name]) := by
  obtain ⟨rest, hrest⟩ := exists_drop_eq_cons hp
  refine ⟨?_, ?_, ?_⟩
  · simp [hrest]
  · rw [List.getLast?_append, hrest]
    simp
  · refine hchain.suffix ?_
    obtain ⟨front, hfront⟩ := List.drop_suffix ((path.findIdx? (· == name)).getD 0) path
    exact ⟨front, by rw [← List.append_assoc, hfront]⟩

/-- A search along a chain of references adds cycles only. -/
theorem isCycle_of_mem_search (m : Message) :
    (∀ path s name, (path ++ [name]).IsChain m.Refers →
      ∀ c ∈ (m.visit path s name).cycles, c ∈ s.cycles ∨ m.IsCycle c) ∧
    (∀ path s names, (∀ name ∈ names, (path ++ [name]).IsChain m.Refers) →
      ∀ c ∈ (m.visitAll path s names).cycles, c ∈ s.cycles ∨ m.IsCycle c) := by
  refine visit.mutual_induct m
    (fun path s name => (path ++ [name]).IsChain m.Refers →
      ∀ c ∈ (m.visit path s name).cycles, c ∈ s.cycles ∨ m.IsCycle c)
    (fun path s names => (∀ name ∈ names, (path ++ [name]).IsChain m.Refers) →
      ∀ c ∈ (m.visitAll path s names).cycles, c ∈ s.cycles ∨ m.IsCycle c)
    ?_ ?_ ?_ ?_ ?_ ?_
  · intro path s name hmark _ c hc
    rw [visit_of_done hmark] at hc
    exact .inl hc
  · -- `name` is active, that is on the path already: this is where a cycle is reported
    intro path s name hmark hchain c hc
    rw [visit_of_active hmark] at hc
    rcases List.mem_append.1 hc with hc | hc
    · exact .inl hc
    · rw [List.mem_singleton.1 hc]
      exact .inr (isCycle_of_path hchain ((s.active_iff name).1 hmark))
  · intro path s name hmark hv _ c hc
    rw [visit_of_unnamed hmark hv] at hc
    exact .inl hc
  · intro path s name hmark v hv ih hchain c hc
    rw [visit_of_named hmark hv] at hc
    refine ih (fun y hy => ?_) c hc
    -- the path grows by `name`, which refers to `y`
    refine hchain.append (List.isChain_singleton y) ?_
    intro x hx z hz
    simp only [List.getLast?_append, List.getLast?_singleton, Option.some_or, Option.mem_some_iff,
      List.head?_singleton] at hx hz
    rw [← hx, ← hz, Refers, refsOf_of_named hv]
    exact hy
  · intro path s _ c hc
    rw [visitAll] at hc
    exact .inl hc
  · intro path s name rest ihName ihRest hchain c hc
    rw [visitAll] at hc
    rcases ihRest (fun y hy => hchain y (List.mem_cons_of_mem _ hy)) c hc with hc | hc
    · exact ihName (hchain name List.mem_cons_self) c hc
    · exact .inr hc

theorem isCycle_of_mem_cycles {m : Message} {c : List String} (h : c ∈ m.cycles) :
    m.IsCycle c := by
  have hstart : ∀ name ∈ m.vars.map (·.name), ([] ++ [name]).IsChain m.Refers :=
    fun name _ => List.isChain_singleton name
  rcases (isCycle_of_mem_search m).2 [] .start _ hstart c h with hc | hc
  · cases hc
  · exact hc

/-- A chain of references from one name to another. -/
theorem transGen_of_isChain {m : Message} {x : String} {rest : List String} (hrest : rest ≠ [])
    (h : (x :: rest).IsChain m.Refers) :
    Relation.TransGen m.Refers x (rest.getLast hrest) := by
  induction rest generalizing x with
  | nil => exact absurd rfl hrest
  | cons y rest ih =>
      rw [List.isChain_cons_cons] at h
      by_cases hnil : rest = []
      · subst hnil
        exact .single h.1
      · rw [List.getLast_cons hnil]
        exact .head h.1 (ih hnil h.2)

theorem IsCycle.not_acyclic {m : Message} {c : List String} (h : m.IsCycle c) : ¬ m.Acyclic := by
  rcases c with _ | ⟨x, rest⟩
  · simpa using h.two_le_length
  · have hrest : rest ≠ [] := by
      rintro rfl
      simpa using h.two_le_length
    have hlast : x = rest.getLast hrest := by
      have := h.head_eq_last
      rw [List.head?_cons, List.getLast?_eq_some_getLast (by simp), List.getLast_cons hrest] at this
      exact Option.some.inj this
    intro hacyclic
    have hloop := transGen_of_isChain hrest h.chain
    rw [← hlast] at hloop
    exact hacyclic x hloop

/-! ## A search that reports nothing

Every chain of references from a name that is marked as done comes to an end: `Acc` of the relation
read backwards. A name is done with after all it refers to, so that this is kept without any regard
to the path. -/

/-- Every chain of references that starts with the name comes to an end. -/
def Ends (m : Message) (name : String) : Prop := Acc (fun y x => m.Refers x y) name

theorem ends_of_unnamed {m : Message} {name : String} (h : m.variableNamed? name = none) :
    m.Ends name := by
  refine Acc.intro name fun y hy => ?_
  rw [Refers, refsOf_of_unnamed h] at hy
  simp at hy

/-- What a search from `s` to `t` without a report has achieved for the names it was given. -/
structure Settled (m : Message) {path : List String} (s t : Search path) (names : List String) :
    Prop where
  silent : s.cycles = []
  keeps : ∀ x, s.mark? x = some .done → t.mark? x = some .done
  ends : (∀ x, s.mark? x = some .done → m.Ends x) → ∀ x, t.mark? x = some .done → m.Ends x
  covers : ∀ x ∈ names, t.mark? x = some .done ∨ m.variableNamed? x = none

theorem settled_of_silent (m : Message) :
    (∀ path s name, (m.visit path s name).cycles = [] →
      m.Settled s (m.visit path s name) [name]) ∧
    (∀ path s names, (m.visitAll path s names).cycles = [] →
      m.Settled s (m.visitAll path s names) names) := by
  refine visit.mutual_induct m
    (fun path s name => (m.visit path s name).cycles = [] →
      m.Settled s (m.visit path s name) [name])
    (fun path s names => (m.visitAll path s names).cycles = [] →
      m.Settled s (m.visitAll path s names) names)
    ?_ ?_ ?_ ?_ ?_ ?_
  · -- `name` is done with, and stays so
    intro path s name hmark hs
    rw [visit_of_done hmark] at hs ⊢
    refine ⟨hs, fun x hx => hx, fun h => h, fun x hx => ?_⟩
    rw [List.mem_singleton.1 hx]
    exact .inl hmark
  · -- a name on the path would be reported
    intro path s name hmark hs
    rw [visit_of_active hmark] at hs
    simp [Search.close] at hs
  · intro path s name hmark hv hs
    rw [visit_of_unnamed hmark hv] at hs ⊢
    refine ⟨hs, fun x hx => hx, fun h => h, fun x hx => ?_⟩
    rw [List.mem_singleton.1 hx]
    exact .inr hv
  · -- `name` is done with after all it refers to, so that its own chains end as well
    intro path s name hmark v hv ih hs
    rw [visit_of_named hmark hv] at hs ⊢
    obtain ⟨hsilent, hkeeps, hends, hcovers⟩ := ih hs
    have henter : ∀ x, (s.enter name).mark? x = some .done ↔ s.mark? x = some .done := by
      intro x
      rw [Search.mark?_enter]
      by_cases hx : x = name
      · simp [hx, hmark]
      · simp [hx]
    refine ⟨hsilent, fun x hx => ?_, fun h x hx => ?_, fun x hx => ?_⟩
    · rw [Search.mark?_leave, hkeeps x ((henter x).2 hx), ite_self]
    · rw [Search.mark?_leave] at hx
      have hends := hends fun y hy => h y ((henter y).1 hy)
      split at hx
      · next heq =>
          subst heq
          refine Acc.intro x fun y hy => ?_
          rw [Refers, refsOf_of_named hv] at hy
          rcases hcovers y hy with hy | hy
          · exact hends y hy
          · exact ends_of_unnamed hy
      · exact hends x hx
    · rw [List.mem_singleton.1 hx, Search.mark?_leave, if_pos rfl]
      exact .inl rfl
  · intro path s hs
    rw [visitAll] at hs ⊢
    exact ⟨hs, fun x hx => hx, fun h => h, fun x hx => by simp at hx⟩
  · intro path s name rest ihName ihRest hs
    rw [visitAll] at hs ⊢
    have hrest := ihRest hs
    have hname := ihName hrest.silent
    refine ⟨hname.silent, fun x hx => hrest.keeps x (hname.keeps x hx),
      fun h => hrest.ends (hname.ends h), fun x hx => ?_⟩
    rcases List.mem_cons.1 hx with rfl | hx
    · exact (hname.covers x (by simp)).imp_left (hrest.keeps x)
    · exact hrest.covers x hx

theorem ends_of_cycles_eq_nil {m : Message} (h : m.cycles = []) (name : String) :
    m.Ends name := by
  have hsettled := (settled_of_silent m).2 [] .start _ h
  cases hv : m.variableNamed? name with
  | none => exact ends_of_unnamed hv
  | some v =>
      obtain ⟨hmem, rfl⟩ := mem_of_variableNamed? hv
      rcases hsettled.covers v.name (List.mem_map_of_mem hmem) with hdone | hnone
      · exact hsettled.ends (fun x hx => by cases hx) _ hdone
      · rw [hv] at hnone
        cases hnone

theorem acyclic_of_ends {m : Message} (h : ∀ name, m.Ends name) : m.Acyclic := by
  have hwf : WellFounded fun y x => Relation.TransGen m.Refers x y := by
    have hswap := (WellFounded.intro h).transGen
    refine Subrelation.wf (fun {y x} hxy => ?_) hswap
    exact Relation.transGen_swap.1 hxy
  intro x hx
  exact hwf.irrefl.irrefl x hx

theorem acyclic_of_cycles_eq_nil {m : Message} (h : m.cycles = []) : m.Acyclic :=
  acyclic_of_ends (ends_of_cycles_eq_nil h)

theorem cycles_eq_nil_iff {m : Message} : m.cycles = [] ↔ m.Acyclic := by
  refine ⟨acyclic_of_cycles_eq_nil, fun h => List.eq_nil_iff_forall_not_mem.2 fun c hc => ?_⟩
  exact (isCycle_of_mem_cycles hc).not_acyclic h

/-! ## Names that a message leads to -/

section Reach

variable {m : Message} {seen rest : List String} {name : String}

theorem reach_of_named {v : Variable} (h : name ∉ seen) (hv : m.variableNamed? name = some v) :
    m.reach seen (name :: rest) = m.reach (name :: seen) (v.template.varRefs ++ rest) := by
  rw [reach, if_neg h]
  split
  · next w hv' =>
      rw [hv] at hv'
      cases hv'
      rfl
  · next hv' => rw [hv] at hv'; cases hv'

theorem reach_of_unnamed (h : name ∉ seen) (hv : m.variableNamed? name = none) :
    m.reach seen (name :: rest) = m.reach (name :: seen) rest := by
  rw [reach, if_neg h]
  split
  · next v hv' => rw [hv] at hv'; cases hv'
  · rfl

end Reach

theorem subset_reach (m : Message) (seen pending : List String) :
    ∀ x, x ∈ seen ∨ x ∈ pending → x ∈ m.reach seen pending := by
  induction seen, pending using reach.induct m with
  | case1 seen => simp [reach]
  | case2 seen name rest hseen ih =>
      rw [reach, if_pos hseen]
      intro x hx
      refine ih x ?_
      rcases hx with hx | hx
      · exact .inl hx
      · rcases List.mem_cons.1 hx with rfl | hx
        · exact .inl hseen
        · exact .inr hx
  | case3 seen name rest hseen v hv ih =>
      rw [reach_of_named hseen hv]
      intro x hx
      refine ih x ?_
      simp only [List.mem_cons, List.mem_append] at hx ⊢
      tauto
  | case4 seen name rest hseen hv ih =>
      rw [reach_of_unnamed hseen hv]
      intro x hx
      refine ih x ?_
      simp only [List.mem_cons] at hx ⊢
      tauto

/-- If all that is seen refers to what is seen or pending, the result refers to itself only. -/
theorem reach_closed (m : Message) (seen pending : List String)
    (h : ∀ x ∈ seen, ∀ y ∈ m.refsOf x, y ∈ seen ∨ y ∈ pending) :
    ∀ x ∈ m.reach seen pending, ∀ y ∈ m.refsOf x, y ∈ m.reach seen pending := by
  induction seen, pending using reach.induct m with
  | case1 seen => simpa [reach] using h
  | case2 seen name rest hseen ih =>
      rw [reach, if_pos hseen]
      refine ih fun x hx y hy => ?_
      rcases h x hx y hy with hy | hy
      · exact .inl hy
      · rcases List.mem_cons.1 hy with rfl | hy
        · exact .inl hseen
        · exact .inr hy
  | case3 seen name rest hseen v hv ih =>
      rw [reach_of_named hseen hv]
      refine ih fun x hx y hy => ?_
      rcases List.mem_cons.1 hx with rfl | hx
      · rw [refsOf_of_named hv] at hy
        exact .inr (List.mem_append_left _ hy)
      · have := h x hx y hy
        simp only [List.mem_cons, List.mem_append] at this ⊢
        tauto
  | case4 seen name rest hseen hv ih =>
      rw [reach_of_unnamed hseen hv]
      refine ih fun x hx y hy => ?_
      rcases List.mem_cons.1 hx with rfl | hx
      · rw [refsOf_of_unnamed hv] at hy
        simp at hy
      · have := h x hx y hy
        simp only [List.mem_cons] at this ⊢
        tauto

/-- Whatever is added to the names that are seen, the pending ones lead to it. -/
theorem leads_of_mem_reach (m : Message) (seen pending : List String) :
    ∀ x ∈ m.reach seen pending,
      x ∈ seen ∨ ∃ y ∈ pending, Relation.ReflTransGen m.Refers y x := by
  induction seen, pending using reach.induct m with
  | case1 seen =>
      intro x hx
      rw [reach] at hx
      exact .inl hx
  | case2 seen name rest hseen ih =>
      rw [reach, if_pos hseen]
      intro x hx
      rcases ih x hx with hx | ⟨y, hy, hyx⟩
      · exact .inl hx
      · exact .inr ⟨y, List.mem_cons_of_mem _ hy, hyx⟩
  | case3 seen name rest hseen v hv ih =>
      rw [reach_of_named hseen hv]
      intro x hx
      rcases ih x hx with hx | ⟨y, hy, hyx⟩
      · rcases List.mem_cons.1 hx with rfl | hx
        · exact .inr ⟨x, List.mem_cons_self, .refl⟩
        · exact .inl hx
      · rcases List.mem_append.1 hy with hy | hy
        · -- a name that the template of `name` refers to
          have hrefers : m.Refers name y := by
            rw [Refers, refsOf_of_named hv]
            exact hy
          exact .inr ⟨name, List.mem_cons_self, .head hrefers hyx⟩
        · exact .inr ⟨y, List.mem_cons_of_mem _ hy, hyx⟩
  | case4 seen name rest hseen hv ih =>
      rw [reach_of_unnamed hseen hv]
      intro x hx
      rcases ih x hx with hx | ⟨y, hy, hyx⟩
      · rcases List.mem_cons.1 hx with rfl | hx
        · exact .inr ⟨x, List.mem_cons_self, .refl⟩
        · exact .inl hx
      · exact .inr ⟨y, List.mem_cons_of_mem _ hy, hyx⟩

/-- The search finds the names that pending ones lead to, in any number of steps. -/
theorem mem_reach_iff {m : Message} {pending : List String} {x : String} :
    x ∈ m.reach [] pending ↔ ∃ y ∈ pending, Relation.ReflTransGen m.Refers y x := by
  constructor
  · intro hx
    exact (leads_of_mem_reach m [] pending x hx).resolve_left List.not_mem_nil
  · rintro ⟨y, hy, hyx⟩
    have hclosed := reach_closed m [] pending fun z hz => by simp at hz
    induction hyx with
    | refl => exact subset_reach m [] pending y (.inr hy)
    | tail _ hrefers ih => exact hclosed _ ih _ hrefers

theorem varRefs_subset_referenced (m : Message) : ∀ x ∈ m.template.varRefs, x ∈ m.referenced :=
  fun x hx => subset_reach m [] _ x (.inr hx)

theorem refsOf_subset_referenced (m : Message) :
    ∀ x ∈ m.referenced, ∀ y ∈ m.refsOf x, y ∈ m.referenced :=
  reach_closed m [] _ fun x hx => by simp at hx

end Message

end Phrasebook
