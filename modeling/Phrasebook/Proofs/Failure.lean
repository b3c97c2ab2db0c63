import Mathlib.Data.List.Basic
import Phrasebook.Failure

set_option autoImplicit false

/-! # Failures together

Failures are put together at several levels, and what is together already is taken apart. All that
counts is the list of single failures in the end (`ofList?_eq_of_members`), so that it makes no
difference whether failures are put together at once or group by group (`ofList?_filterMap`). This
holds for failures that have been made in this way (`Built`): several failures are never one, and
never hold several again. -/

namespace Phrasebook.Failure

/-- A failure that is not several together. -/
def IsSingle (f : Failure) : Prop := ∀ fs, f ≠ .aggregate fs

/-- Failures as they come about: single ones, and what is put together from others. -/
inductive Built : Failure → Prop
  | single {f : Failure} (h : f.IsSingle) : Built f
  | together {fs : List Failure} {f : Failure} (hfs : ∀ g ∈ fs, Built g)
      (h : ofList? fs = some f) : Built f

/-- What a list of failures comes to: nothing, the failure itself, or all of them together. -/
inductive Together : List Failure → Option Failure → Prop
  | none : Together [] none
  | one (f : Failure) : Together [f] (some f)
  | several {fs : List Failure} (h : 2 ≤ fs.length) :
      Together fs (some (.aggregate (fs.flatMap members)))

/-! ## Members -/

theorem IsSingle.members {f : Failure} (h : f.IsSingle) : f.members = [f] := by
  cases f with
  | aggregate fs => exact absurd rfl (h fs)
  | _ => rfl

theorem flatMap_members_of_isSingle {fs : List Failure} (h : ∀ f ∈ fs, f.IsSingle) :
    fs.flatMap members = fs := by
  induction fs with
  | nil => rfl
  | cons f fs ih =>
      obtain ⟨hf, hfs⟩ := List.forall_mem_cons.1 h
      rw [List.flatMap_cons, hf.members, ih hfs, List.singleton_append]

/-- What comes of a list of failures, by the number of single failures in it. -/
theorem ofList?_cases (fs : List Failure) :
    (fs.flatMap members = [] ∧ ofList? fs = none) ∨
      (∃ f, fs.flatMap members = [f] ∧ ofList? fs = some f) ∨
      2 ≤ (fs.flatMap members).length ∧
        ofList? fs = some (.aggregate (fs.flatMap members)) := by
  unfold ofList?
  cases hmembers : fs.flatMap members with
  | nil => exact .inl ⟨rfl, rfl⟩
  | cons f rest =>
      cases rest with
      | nil => exact .inr (.inl ⟨f, rfl, rfl⟩)
      | cons g rest => exact .inr (.inr ⟨by simp, rfl⟩)

theorem ofList?_eq_of_members {fs gs : List Failure}
    (h : fs.flatMap members = gs.flatMap members) : ofList? fs = ofList? gs := by
  rw [ofList?, ofList?, h]

theorem ofList?_eq_none_iff {fs : List Failure} (h : ∀ f ∈ fs, f.IsSingle) :
    ofList? fs = none ↔ fs = [] := by
  rw [ofList?, flatMap_members_of_isSingle h]
  rcases fs with _ | ⟨f, _ | ⟨g, fs⟩⟩ <;> simp

/-- The members of what has been put together are those of its parts. -/
theorem members_of_ofList? {fs : List Failure} {f : Failure} (h : ofList? fs = some f)
    (hsingle : ∀ g ∈ fs.flatMap members, g.IsSingle) : f.members = fs.flatMap members := by
  rcases ofList?_cases fs with ⟨-, hnone⟩ | ⟨g, hmembers, hone⟩ | ⟨-, hseveral⟩
  · rw [hnone] at h
    cases h
  · rw [hone] at h
    cases h
    rw [hmembers]
    exact (hsingle f (by rw [hmembers]; exact List.mem_singleton_self f)).members
  · rw [hseveral] at h
    cases h
    rfl

/-! ## Failures that have been built -/

namespace Built

variable {f : Failure}

/-- The members of a failure that has been built are single, and there are some. -/
theorem isSingle_members (h : f.Built) : (∀ g ∈ f.members, g.IsSingle) ∧ f.members ≠ [] := by
  induction h with
  | single h =>
      rw [h.members]
      exact ⟨by simpa using h, List.cons_ne_nil _ _⟩
  | @together fs f hfs h ih =>
      have hsingle : ∀ g ∈ fs.flatMap members, g.IsSingle := by
        intro g hg
        obtain ⟨f', hf', hg⟩ := List.mem_flatMap.1 hg
        exact (ih f' hf').1 g hg
      rw [members_of_ofList? h hsingle]
      refine ⟨hsingle, fun hnil => ?_⟩
      rw [ofList?, hnil] at h
      cases h

theorem isSingle_flatMap {fs : List Failure} (h : ∀ f ∈ fs, f.Built) :
    ∀ g ∈ fs.flatMap members, g.IsSingle := by
  intro g hg
  obtain ⟨f, hf, hg⟩ := List.mem_flatMap.1 hg
  exact (h f hf).isSingle_members.1 g hg

/-- Each failure counts for at least one. -/
theorem length_le_flatMap {fs : List Failure} (h : ∀ f ∈ fs, f.Built) :
    fs.length ≤ (fs.flatMap members).length := by
  induction fs with
  | nil => exact Nat.zero_le _
  | cons f fs ih =>
      obtain ⟨hf, hfs⟩ := List.forall_mem_cons.1 h
      have hpos : 0 < f.members.length := List.length_pos_of_ne_nil hf.isSingle_members.2
      have hrest := ih hfs
      rw [List.flatMap_cons, List.length_append, List.length_cons]
      omega

/-- Several failures together are at least two, and all of them single. -/
theorem of_ofList?_eq_aggregate {fs gs : List Failure} (h : ∀ f ∈ fs, f.Built)
    (hfs : ofList? fs = some (.aggregate gs)) : 2 ≤ gs.length ∧ ∀ g ∈ gs, g.IsSingle := by
  have hsingle := isSingle_flatMap h
  have hmembers : gs = fs.flatMap members := members_of_ofList? hfs hsingle
  rw [hmembers]
  refine ⟨?_, hsingle⟩
  rcases ofList?_cases fs with ⟨-, hnone⟩ | ⟨g, hone, hsome⟩ | ⟨hseveral, -⟩
  · rw [hnone] at hfs
    cases hfs
  · -- A single failure would not be an aggregate.
    rw [hsome] at hfs
    cases hfs
    exact absurd rfl (hsingle _ (by rw [hone]; exact List.mem_singleton_self _) gs)
  · exact hseveral

theorem together_ofList? {fs : List Failure} (h : ∀ f ∈ fs, f.Built) :
    Together fs (ofList? fs) := by
  match fs, h with
  | [], _ => exact .none
  | [f], h =>
      have hf := h f (List.mem_singleton_self f)
      have hofList : ofList? [f] = some f := by
        cases hf with
        | single hsingle =>
            rw [ofList?, List.flatMap_singleton, hsingle.members]
        | @together fs _ hfs hof =>
            rw [← hof]
            refine ofList?_eq_of_members ?_
            rw [List.flatMap_singleton, members_of_ofList? hof (isSingle_flatMap hfs)]
      rw [hofList]
      exact .one f
  | f :: g :: rest, h =>
      have hlength : 2 ≤ (f :: g :: rest).length := by simp
      have hmembers := length_le_flatMap h
      rcases ofList?_cases (f :: g :: rest) with ⟨hnil, -⟩ | ⟨f', hone, -⟩ | ⟨-, hseveral⟩
      · rw [hnil] at hmembers
        simp at hmembers
      · rw [hone] at hmembers
        simp at hmembers
      · rw [hseveral]
        exact .several hlength

/-- It makes no difference whether failures are put together at once or list by list. -/
theorem ofList?_filterMap {lists : List (List Failure)} (h : ∀ fs ∈ lists, ∀ f ∈ fs, f.Built) :
    ofList? (lists.filterMap ofList?) = ofList? lists.flatten := by
  refine ofList?_eq_of_members ?_
  -- List by list: what a list comes to has the members of the list.
  induction lists with
  | nil => rfl
  | cons fs lists ih =>
      obtain ⟨hfs, hlists⟩ := List.forall_mem_cons.1 h
      have hsingle := isSingle_flatMap hfs
      rw [List.flatten_cons, List.flatMap_append, ← ih hlists]
      cases hof : ofList? fs with
      | none =>
          rcases ofList?_cases fs with ⟨hnil, -⟩ | ⟨g, -, hone⟩ | ⟨-, hseveral⟩
          · rw [List.filterMap_cons_none hof, hnil, List.nil_append]
          · rw [hone] at hof
            cases hof
          · rw [hseveral] at hof
            cases hof
      | some f =>
          rw [List.filterMap_cons_some hof, List.flatMap_cons, members_of_ofList? hof hsingle]

end Built

/-! ## Failing with failures -/

theorem check_eq_ok {fs : List Failure} : check fs = .ok () ↔ ofList? fs = none := by
  unfold check
  cases ofList? fs <;> simp

theorem check_eq_error {fs : List Failure} {f : Failure} :
    check fs = .error f ↔ ofList? fs = some f := by
  unfold check
  cases ofList? fs <;> simp

end Phrasebook.Failure
