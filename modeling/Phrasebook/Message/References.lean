import Phrasebook.Message.Basic

set_option autoImplicit false

/-! # References between variables

A template may refer to variables, whose templates may refer to further ones. This module finds
the variables that a message leads to, and the cycles among its variables. A name that no variable
has leads nowhere; of several variables of one name the first counts. -/

namespace Phrasebook.Message

/-- How many variables have a name that is not among `seen`. -/
def unseen (m : Message) (seen : List String) : Nat :=
  m.vars.countP fun v => v.name ∉ seen

/-- The variables that the template of a variable refers to. -/
def refsOf (m : Message) (name : String) : List String :=
  match m.variableNamed? name with
  | some v => v.template.varRefs
  | none => []

theorem mem_of_variableNamed? {m : Message} {name : String} {v : Variable}
    (h : m.variableNamed? name = some v) : v ∈ m.vars ∧ v.name = name :=
  ⟨List.mem_of_find?_eq_some h, by simpa using List.find?_some h⟩

/-- Seeing a variable for the first time leaves fewer to be seen. -/
theorem unseen_lt {m : Message} {name : String} {v : Variable} {seen more : List String}
    (h : m.variableNamed? name = some v) (hs : name ∉ seen) (hm : name ∈ more)
    (hsub : ∀ x ∈ seen, x ∈ more) : m.unseen more < m.unseen seen := by
  obtain ⟨hv, rfl⟩ := mem_of_variableNamed? h
  have hless : m.vars.filter (fun w => w.name ∉ more) =
      (m.vars.filter fun w => w.name ∉ seen).filter fun w => w.name ∉ more := by
    rw [List.filter_filter]
    refine List.filter_congr fun w _ => ?_
    by_cases hw : w.name ∈ more
    · simp [hw]
    · have hseen : w.name ∉ seen := fun hmem => hw (hsub _ hmem)
      simp [hw, hseen]
  rw [unseen, unseen, List.countP_eq_length_filter, List.countP_eq_length_filter, hless,
    List.length_filter_lt_length_iff_exists]
  exact ⟨v, List.mem_filter.2 ⟨hv, by simpa using hs⟩, by simpa using hm⟩

/-- The names that `pending` leads to, and those already seen. -/
def reach (m : Message) (seen : List String) : List String → List String
  | [] => seen
  | name :: rest =>
      if name ∈ seen then m.reach seen rest
      else match _h : m.variableNamed? name with
        | some v => m.reach (name :: seen) (v.template.varRefs ++ rest)
        | none => m.reach (name :: seen) rest
termination_by pending => (m.unseen seen, pending.length)
decreasing_by
  · exact Prod.Lex.right _ (by simp)
  · exact Prod.Lex.left _ _ (unseen_lt _h (by assumption) (by simp) (by simp +contextual))
  · have : m.unseen (name :: seen) ≤ m.unseen seen :=
      List.countP_mono_left fun w _ hw => by simp at hw ⊢; exact hw.2
    rcases Nat.lt_or_ge (m.unseen (name :: seen)) (m.unseen seen) with hlt | hge
    · exact Prod.Lex.left _ _ hlt
    · rw [Nat.le_antisymm this hge]
      exact Prod.Lex.right _ (by simp)

/-- The variables that the template of the message leads to. -/
def referenced (m : Message) : List String := m.reach [] m.template.varRefs

/-! ## Cycles -/

/-- How far the search is with a variable. -/
inductive Mark where
  | active
  | done
  deriving DecidableEq

/-- A search for cycles where `path` has led: the marks of variables, the latest of each first, and
the cycles found. It is under way with the variables on the path, and with no others. -/
structure Search (path : List String) where
  marks : List (String × Mark)
  cycles : List (List String)
  active_iff : ∀ name, marks.lookup name = some .active ↔ name ∈ path

namespace Search

variable {path : List String}

def start : Search [] where
  marks := []
  cycles := []
  active_iff := by simp

def mark? (s : Search path) (name : String) : Option Mark := s.marks.lookup name

theorem notMem_path (s : Search path) {name : String} (h : s.mark? name = none) :
    name ∉ path := by
  intro hp
  rw [mark?, (s.active_iff name).2 hp] at h
  cases h

/-- Opens a variable. -/
def enter (s : Search path) (name : String) : Search (path ++ [name]) where
  marks := (name, .active) :: s.marks
  cycles := s.cycles
  active_iff x := by
    by_cases hx : x = name
    · simp [hx]
    · simp [List.lookup_cons, beq_false_of_ne hx, hx, s.active_iff x]

/-- Is done with the variable that was opened last. -/
def leave {name : String} (s : Search (path ++ [name])) (h : name ∉ path) : Search path where
  marks := (name, .done) :: s.marks
  cycles := s.cycles
  active_iff x := by
    by_cases hx : x = name
    · simp [hx, h]
    · simp [List.lookup_cons, beq_false_of_ne hx, hx, s.active_iff x]

/-- Reports the way from a variable on the path back to it. -/
def close (s : Search path) (name : String) : Search path :=
  let first := (path.findIdx? (· == name)).getD 0
  { s with cycles := s.cycles ++ [path.drop first ++ [name]] }

end Search

mutual

/-- Follows `name`, to which `path` has led. -/
def visit (m : Message) (path : List String) (s : Search path) (name : String) : Search path :=
  match _hmark : s.mark? name with
  | some .done => s
  | some .active => s.close name
  | none =>
      match _h : m.variableNamed? name with
      | none => s
      | some v =>
          (m.visitAll (path ++ [name]) (s.enter name) v.template.varRefs).leave
            (s.notMem_path _hmark)
termination_by (m.unseen path, 0)
decreasing_by
  exact Prod.Lex.left _ _ (unseen_lt _h (s.notMem_path _hmark) (by simp) (by simp +contextual))

/-- Follows names one after the other. -/
def visitAll (m : Message) (path : List String) (s : Search path) (names : List String) :
    Search path :=
  match names with
  | [] => s
  | name :: rest => m.visitAll path (m.visit path s name) rest
termination_by (m.unseen path, names.length + 1)
decreasing_by
  · exact Prod.Lex.right _ (by simp)
  · exact Prod.Lex.right _ (by simp)

end

/-- The cycles among the variables, each from a name back to that name. -/
def cycles (m : Message) : List (List String) :=
  (m.visitAll [] .start (m.vars.map (·.name))).cycles

end Phrasebook.Message
