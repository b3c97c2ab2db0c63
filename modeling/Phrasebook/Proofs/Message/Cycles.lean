import Mathlib.Data.List.Nodup
import Phrasebook.Proofs.Message.References

set_option autoImplicit false

/-! # The search for cycles

A message may name its variables as it likes: a reference can lead to the variable itself or to none
at all, and of several variables of one name the first counts. Whatever the message, the search for
cycles comes to an end (`Search.Run`), with no more variables open at a time than there are, and its
report is empty exactly if no variable leads back to itself. What it reports are ways from a
variable back to it that pass no other one twice (`cycles_exact`). -/

namespace Phrasebook.Message

open Relation (TransGen)

/-! ## The graph of the variables -/

/-- Two variables, the first of which refers to the second. -/
structure Links (m : Message) (x y : String) : Prop where
  refers : ∃ v, m.variableNamed? x = some v ∧ y ∈ v.template.varRefs
  declared : ∃ w, m.variableNamed? y = some w

section Links

variable {m : Message} {x y : String}

theorem refers_iff : m.Refers x y ↔ ∃ v, m.variableNamed? x = some v ∧ y ∈ v.template.varRefs := by
  rw [Refers]
  cases hv : m.variableNamed? x with
  | none => simp [refsOf_of_unnamed hv]
  | some v => simp [refsOf_of_named hv]

theorem exists_variable_of_transGen (h : TransGen m.Refers x y) :
    ∃ v, m.variableNamed? x = some v := by
  obtain ⟨z, hz, -⟩ := TransGen.head'_iff.1 h
  obtain ⟨v, hv, -⟩ := refers_iff.1 hz
  exact ⟨v, hv⟩

/-- A chain of references that ends with a variable leads through variables only. -/
theorem transGen_links (h : TransGen m.Refers x y) (hy : ∃ w, m.variableNamed? y = some w) :
    TransGen m.Links x y := by
  induction h using TransGen.head_induction_on with
  | single hrefers => exact .single ⟨refers_iff.1 hrefers, hy⟩
  | head hrefers hrest ih =>
      exact .head ⟨refers_iff.1 hrefers, exists_variable_of_transGen hrest⟩ ih

theorem acyclic_iff_links : m.Acyclic ↔ ∀ x, ¬ TransGen m.Links x x := by
  constructor
  · intro h x hx
    exact h x (hx.lift id fun _ _ hlink => refers_iff.2 hlink.refers)
  · intro h x hx
    exact h x (transGen_links hx (exists_variable_of_transGen hx))

end Links

/-! ## Runs of the search -/

/-- A run of the search that follows `names` from where `path` has led, and takes `s` to the last
search. At most `depth` variables are open inside each other. -/
inductive Search.Run (m : Message) :
    Nat → (path : List String) → Search path → List String → Search path → Prop
  | nil {depth path s} : Run m depth path s [] s
  | done {depth path s name rest t} (hmark : s.mark? name = some .done)
      (hrest : Run m depth path s rest t) : Run m depth path s (name :: rest) t
  | closes {depth path s name rest t} (hmark : s.mark? name = some .active)
      (hrest : Run m depth path (s.close name) rest t) : Run m depth path s (name :: rest) t
  | undeclared {depth path s name rest t} (hmark : s.mark? name = none)
      (hv : m.variableNamed? name = none) (hrest : Run m depth path s rest t) :
      Run m depth path s (name :: rest) t
  | opens {depth path s name rest t u v} (hmark : s.mark? name = none)
      (hv : m.variableNamed? name = some v)
      (hinner : Run m depth (path ++ [name]) (s.enter name) v.template.varRefs t)
      (hrest : Run m (depth + 1) path (t.leave (s.notMem_path hmark)) rest u) :
      Run m (depth + 1) path s (name :: rest) u

namespace Search.Run

variable {m : Message} {depth : Nat} {path names : List String} {s t : Search path}

/-- A run can only end as the search does. -/
theorem eq_visitAll (h : Run m depth path s names t) : t = m.visitAll path s names := by
  induction h with
  | nil => rw [visitAll]
  | done hmark _ ih => rw [visitAll, visit_of_done hmark, ih]
  | closes hmark _ ih => rw [visitAll, visit_of_active hmark, ih]
  | undeclared hmark hv _ ih => rw [visitAll, visit_of_unnamed hmark hv, ih]
  | opens hmark hv _ _ ihInner ihRest =>
      rw [visitAll, visit_of_named hmark hv, ← ihInner, ihRest]

/-- No name stands on a path twice, so that none does in what a run adds to the report, apart from
its end. -/
theorem nodup_dropLast (h : Run m depth path s names t) (hpath : path.Nodup) :
    ∀ c ∈ t.cycles, c ∈ s.cycles ∨ c.dropLast.Nodup := by
  induction h with
  | nil => exact fun c hc => .inl hc
  | done _ _ ih => exact ih hpath
  | closes _ _ ih =>
      intro c hc
      rcases ih hpath c hc with hc | hc
      · rcases List.mem_append.1 hc with hc | hc
        · exact .inl hc
        · rw [List.mem_singleton.1 hc, List.dropLast_concat]
          exact .inr (hpath.sublist (List.drop_sublist _ _))
      · exact .inr hc
  | undeclared _ _ _ ih => exact ih hpath
  | @opens _ _ s _ _ _ _ _ hmark _ _ _ ihInner ihRest =>
      intro c hc
      rcases ihRest hpath c hc with hc | hc
      · refine ihInner (List.Nodup.append hpath (List.nodup_singleton _) ?_) c hc
        exact List.disjoint_singleton.2 (s.notMem_path hmark)
      · exact .inr hc

end Search.Run

theorem unseen_le_length (m : Message) (path : List String) : m.unseen path ≤ m.vars.length :=
  List.countP_le_length

/-- The search runs to its end with room for the variables that are not on the path. -/
theorem run_visitAll (m : Message) :
    (∀ path s name, ∀ depth, m.unseen path ≤ depth → ∀ rest t,
      Search.Run m depth path (m.visit path s name) rest t →
      Search.Run m depth path s (name :: rest) t) ∧
    (∀ path s names, ∀ depth, m.unseen path ≤ depth →
      Search.Run m depth path s names (m.visitAll path s names)) := by
  refine visit.mutual_induct m
    (fun path s name => ∀ depth, m.unseen path ≤ depth → ∀ rest t,
      Search.Run m depth path (m.visit path s name) rest t →
      Search.Run m depth path s (name :: rest) t)
    (fun path s names => ∀ depth, m.unseen path ≤ depth →
      Search.Run m depth path s names (m.visitAll path s names))
    ?_ ?_ ?_ ?_ ?_ ?_
  · intro path s name hmark depth _ rest t hrest
    rw [visit_of_done hmark] at hrest
    exact .done hmark hrest
  · intro path s name hmark depth _ rest t hrest
    rw [visit_of_active hmark] at hrest
    exact .closes hmark hrest
  · intro path s name hmark hv depth _ rest t hrest
    rw [visit_of_unnamed hmark hv] at hrest
    exact .undeclared hmark hv hrest
  · -- one variable more is on the path, so that less room is needed
    intro path s name hmark v hv ih depth hdepth rest t hrest
    have hless : m.unseen (path ++ [name]) < m.unseen path :=
      unseen_lt hv (s.notMem_path hmark) (by simp) (by simp +contextual)
    obtain ⟨depth, rfl⟩ : ∃ n, depth = n + 1 := ⟨depth - 1, by omega⟩
    rw [visit_of_named hmark hv] at hrest
    exact .opens hmark hv (ih depth (by omega)) hrest
  · intro path s depth _
    rw [visitAll]
    exact .nil
  · intro path s name rest ihName ihRest depth hdepth
    rw [visitAll]
    exact ihName depth hdepth rest _ (ihRest depth hdepth)

/-- The search for cycles ends, whatever the message, with no more variables open inside each other
than it has. It reports nothing exactly if no variable leads back to itself, and every list that it
reports leads along references from a name back to that name, past no name twice. -/
theorem cycles_exact (m : Message) :
    (∃ t, Search.Run m m.vars.length [] .start (m.vars.map (·.name)) t ∧ t.cycles = m.cycles ∧
      ∀ depth u, Search.Run m depth [] .start (m.vars.map (·.name)) u → u = t) ∧
    (m.cycles = [] ↔ ∀ x, ¬ TransGen m.Links x x) ∧
    ∀ c ∈ m.cycles, 2 ≤ c.length ∧ c.head? = c.getLast? ∧ c.dropLast.Nodup ∧
      c.IsChain fun x y => ∃ v, m.variableNamed? x = some v ∧ y ∈ v.template.varRefs := by
  have hrun := (run_visitAll m).2 [] .start (m.vars.map (·.name)) m.vars.length
    (unseen_le_length m [])
  refine ⟨⟨_, hrun, rfl, fun depth u hu => hu.eq_visitAll⟩, ?_, fun c hc => ?_⟩
  · rw [cycles_eq_nil_iff, acyclic_iff_links]
  · have hcycle := isCycle_of_mem_cycles hc
    have hsimple := (hrun.nodup_dropLast List.nodup_nil c hc).resolve_left List.not_mem_nil
    refine ⟨hcycle.two_le_length, hcycle.head_eq_last, hsimple, ?_⟩
    exact hcycle.chain.imp fun _ _ hrefers => refers_iff.1 hrefers

end Phrasebook.Message
