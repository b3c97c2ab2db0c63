import Mathlib.Logic.Function.Iterate
import Phrasebook.Files.Basic
import Phrasebook.Proofs.Results

set_option autoImplicit false

/-! # Changes of a file tree

How names lead to a place, past directories and along links, is described by `Follows`, which holds
if and only if the walk succeeds (`walk_eq_ok`).

A file tree changes in two ways: a file is written, or a directory is made. Neither takes anything
away (`Extends`), so that a path which leads somewhere still leads there afterwards
(`Extends.leads`). Writing changes the one file that the names lead to, also for all other names
that it has, and nothing else (`wrote_of_put`). Making the directories of a path leaves all files as
they are, and the directories that are new are those to which the path or one above it leads
(`grown_makeDirectories`). -/

namespace Phrasebook.Files

/-! ## Names of a path -/

/-- The name of something in a directory, and not of the directory itself or the one above. -/
structure IsName (name : String) : Prop where
  noSlash : '/' ∉ name.toList
  nonempty : name ≠ ""
  ne_here : name ≠ "."
  ne_above : name ≠ ".."

theorem names_slash (a b : String) : names (a ++ "/" ++ b) = names a ++ names b := by
  have hlist : (a ++ "/" ++ b).toList = a.toList ++ '/' :: b.toList := by simp
  simp only [names, hlist, List.splitOn_append_cons_self, List.map_append, List.filter_append]

theorem names_empty : names "" = [] := by decide

theorem IsName.names {name : String} (h : IsName name) : names name = [name] := by
  have hne : name ≠ "" := h.nonempty
  rw [Files.names, List.splitOn_eq_singleton h.noSlash]
  simp [hne]

/-- The names of a path with a name below it. -/
theorem names_join (path : String) {name : String} (h : IsName name) :
    names (join path name) = names path ++ [name] := by
  unfold join
  by_cases hpath : path = ""
  · subst hpath
    simpa [names_empty] using h.names
  · by_cases hslash : path.endsWith "/"
    · -- A slash at the end of a path is the one that divides it from the name.
      have hsuffix : "/".toList <:+ path.toList := by
        rw [String.endsWith_eq_endsWith_toSlice, String.Slice.endsWith_string_iff] at hslash
        simpa using hslash
      obtain ⟨front, hfront⟩ := hsuffix
      have hsplit : path = String.ofList front ++ "/" := by
        rw [← String.toList_inj, ← hfront]
        simp
      have hnames : names path = names (String.ofList front) := by
        have h' := names_slash (String.ofList front) ""
        rw [names_empty, List.append_nil, String.append_empty] at h'
        rw [hsplit, h']
      simp only [hslash, Bool.or_true, if_true]
      rw [hnames, hsplit, names_slash, h.names]
    · simp only [hpath, hslash, decide_false, Bool.or_self, Bool.false_eq_true, if_false]
      rw [names_slash, h.names]

theorem exists_join_eq (path name : String) : ∃ rest, join path name = path ++ rest := by
  unfold join
  split
  · exact ⟨name, rfl⟩
  · exact ⟨"/" ++ name, String.append_assoc ..⟩

theorem start_join (fs : Files) {path : String} (name : String) (h : path ≠ "") :
    fs.start (join path name) = fs.start path := by
  obtain ⟨rest, hrest⟩ := exists_join_eq path name
  have habsolute : isAbsolute (path ++ rest) = isAbsolute path := by
    rw [Bool.eq_iff_iff, isAbsolute, isAbsolute, String.startsWith_string_iff,
      String.startsWith_string_iff, String.toList_append]
    cases hlist : path.toList with
    | nil => exact absurd (String.toList_eq_nil_iff.1 hlist) h
    | cons c cs => simp [List.cons_prefix_cons]
  rw [start, start, hrest, habsolute]

/-! ## Following the names -/

/-- A name can be followed from a place. -/
structure Passes (fs : Files) (r : Route) (here : Place) (name : String) : Prop where
  directory : fs.isDirectory here
  short : ¬ isTooLong name
  inside : ¬ (name = ".." ∧ r.inside = some here)

/-- Names lead to a place, along no more than `links` links. -/
inductive Follows (fs : Files) (r : Route) : Nat → Place → List String → Place → Prop
  | here {links here} : Follows fs r links here [] here
  | missing {links here name} (hpass : fs.Passes r here name)
      (hentry : fs.at? (step here name) = none) (hcreate : r.create) :
      Follows fs r links here [name] (step here name)
  | name {links here name rest e p} (hpass : fs.Passes r here name)
      (hentry : fs.at? (step here name) = some e) (hlink : ∀ target, e ≠ .link target)
      (hrest : Follows fs r links (step here name) rest p) :
      Follows fs r links here (name :: rest) p
  | link {links here name rest target p} (hpass : fs.Passes r here name)
      (hentry : fs.at? (step here name) = some (.link target))
      (hinside : isAbsolute target → r.inside = none)
      (hrest : Follows fs r links (if isAbsolute target then [] else here)
        (names target ++ rest) p) :
      Follows fs r (links + 1) here (name :: rest) p

variable {fs fs' : Files} {r : Route} {links : Nat} {here p : Place} {path : String}

section Walk

variable {through : Place → String → List String → Except FileFault Place} {name : String}
  {rest : List String}

theorem Passes.kept (h : fs.Passes r here name) :
    (decide (name = "..") && decide (r.inside = some here)) = false := by
  simpa using h.inside

theorem follow_of_missing (h : fs.Passes r here name) (hentry : fs.at? (step here name) = none) :
    fs.follow r through here (name :: rest) =
      if r.create && rest.isEmpty then .ok (step here name) else .error .notFound := by
  simp only [follow, h.directory, h.short, h.kept, hentry, Bool.not_true, Bool.false_eq_true,
    if_false]

theorem follow_of_link {target : String} (h : fs.Passes r here name)
    (hentry : fs.at? (step here name) = some (.link target)) :
    fs.follow r through here (name :: rest) = through here target rest := by
  simp only [follow, h.directory, h.short, h.kept, hentry, Bool.not_true, Bool.false_eq_true,
    if_false]

theorem follow_of_entry {e : Entry} (h : fs.Passes r here name)
    (hentry : fs.at? (step here name) = some e) (hlink : ∀ target, e ≠ .link target) :
    fs.follow r through here (name :: rest) = fs.follow r through (step here name) rest := by
  simp only [follow, h.directory, h.short, h.kept, hentry, Bool.not_true, Bool.false_eq_true,
    if_false]

theorem passes_of_follow (h : fs.follow r through here (name :: rest) = .ok p) :
    fs.Passes r here name := by
  rw [follow] at h
  by_cases hdirectory : fs.isDirectory here
  · by_cases hlong : isTooLong name
    · simp [hdirectory, hlong] at h
    · refine ⟨hdirectory, hlong, ?_⟩
      rintro ⟨rfl, hinside⟩
      simp [hdirectory, hlong, hinside] at h
  · simp [hdirectory] at h

/-- Where a walk gets to, if all links are followed as `through` says. -/
theorem follows_of_follow
    (hthrough : ∀ {here name target rest p}, fs.Passes r here name →
      fs.at? (step here name) = some (.link target) → through here target rest = .ok p →
      fs.Follows r links here (name :: rest) p) {names : List String}
    (h : fs.follow r through here names = .ok p) : fs.Follows r links here names p := by
  induction names generalizing here with
  | nil =>
      cases h
      exact .here
  | cons name rest ih =>
      have hpass := passes_of_follow h
      cases hentry : fs.at? (step here name) with
      | none =>
          rw [follow_of_missing hpass hentry] at h
          split_ifs at h with hcreate
          cases h
          rw [Bool.and_eq_true, List.isEmpty_iff] at hcreate
          rw [hcreate.2]
          exact .missing hpass hentry hcreate.1
      | some e =>
          by_cases hlink : ∃ target, e = .link target
          · obtain ⟨target, rfl⟩ := hlink
            rw [follow_of_link hpass hentry] at h
            exact hthrough hpass hentry h
          · have hlink := not_exists.1 hlink
            rw [follow_of_entry hpass hentry hlink] at h
            exact .name hpass hentry hlink (ih h)

theorem follows_of_walk (h : fs.walk r links here rest = .ok p) :
    fs.Follows r links here rest p := by
  induction links generalizing here rest p with
  | zero =>
      refine follows_of_follow (fun _ _ hthrough => ?_) h
      cases hthrough
  | succ links ih =>
      refine follows_of_follow (fun {here name target rest p} hpass hentry hthrough => ?_) h
      by_cases habsolute : isAbsolute target
      · cases hinside : r.inside with
        | none =>
            simp only [habsolute, hinside, Bool.not_true, Bool.false_eq_true, if_false,
              Option.isSome_none] at hthrough
            refine .link hpass hentry (fun _ => hinside) ?_
            rw [if_pos habsolute]
            exact ih hthrough
        | some _ => simp [habsolute, hinside] at hthrough
      · simp only [habsolute, Bool.not_false, if_true] at hthrough
        refine .link hpass hentry (fun h => absurd h habsolute) ?_
        rw [if_neg habsolute]
        exact ih hthrough

theorem walk_of_follows (h : fs.Follows r links here rest p) :
    fs.walk r links here rest = .ok p := by
  induction h with
  | @here links here => cases links <;> rfl
  | @missing links here name hpass hentry hcreate =>
      cases links <;> rw [walk, follow_of_missing hpass hentry] <;> simp [hcreate]
  | @name links here name rest e p hpass hentry hlink _ ih =>
      cases links <;> rw [walk, follow_of_entry hpass hentry hlink] <;> exact ih
  | @link links here name rest target p hpass hentry hinside _ ih =>
      rw [walk, follow_of_link hpass hentry]
      by_cases habsolute : isAbsolute target
      · simpa [habsolute, hinside habsolute] using ih
      · simpa [habsolute] using ih

theorem walk_eq_ok : fs.walk r links here rest = .ok p ↔ fs.Follows r links here rest p :=
  ⟨follows_of_walk, walk_of_follows⟩

end Walk

theorem Follows.passes {name : String} {rest : List String}
    (h : fs.Follows r links here (name :: rest) p) : fs.Passes r here name := by
  cases h with
  | missing hpass => exact hpass
  | name hpass => exact hpass
  | link hpass => exact hpass

/-- One more name, at which no link stands, takes no further link. -/
theorem Follows.concat {front : List String} {name : String} {e : Entry}
    (h : fs.Follows r links here front p) (hpass : fs.Passes r p name)
    (hentry : fs.at? (step p name) = some e) (hlink : ∀ target, e ≠ .link target) :
    fs.Follows r links here (front ++ [name]) (step p name) := by
  induction h with
  | here => exact .name hpass hentry hlink .here
  | missing _ hnone _ =>
      have hdirectory := hpass.directory
      rw [isDirectory, hnone] at hdirectory
      cases hdirectory
  | name hpass' hentry' hlink' _ ih => exact .name hpass' hentry' hlink' (ih hpass hentry)
  | link hpass' hentry' hinside _ ih =>
      have hrest := ih hpass hentry
      rw [List.append_assoc] at hrest
      exact .link hpass' hentry' hinside hrest

theorem IsName.step {name : String} (h : IsName name) (here : Place) :
    step here name = here ++ [name] := by
  rw [Files.step, if_neg h.ne_here, if_neg h.ne_above]

/-- The names of a path lead to a place. -/
def Leads (fs : Files) (path : String) (p : Place) : Prop :=
  fs.Follows {} maxLinks (fs.start path) (names path) p

/-- A name below a path leads on from where the path leads. -/
theorem leads_join {name : String} {e : Entry} (hpath : path ≠ "") (hname : IsName name)
    (hleads : fs.Leads path p) (hdirectory : fs.isDirectory p) (hshort : ¬ isTooLong name)
    (hentry : fs.at? (p ++ [name]) = some e) (hlink : ∀ target, e ≠ .link target) :
    fs.Leads (join path name) (p ++ [name]) := by
  have hstep := hname.step p
  rw [Leads, start_join fs name hpath, names_join path hname, ← hstep]
  refine hleads.concat ⟨hdirectory, hshort, ?_⟩ (hstep ▸ hentry) hlink
  exact fun h => hname.ne_above h.1

theorem locate_eq_ok :
    fs.locate path = .ok p ↔ path ≠ "" ∧ ¬ hasNul path ∧ path.utf8ByteSize ≤ maxPathSize ∧
      fs.Leads path p := by
  rw [locate, Leads, ← walk_eq_ok]
  by_cases hempty : path = ""
  · simp [hempty]
  · by_cases hnul : hasNul path
    · simp [hempty, hnul]
    · by_cases hsize : maxPathSize < path.utf8ByteSize
      · simp [hempty, hnul, hsize, Nat.not_le.2 hsize]
      · simp [hempty, hnul, hsize, Nat.not_lt.1 hsize]

theorem directoryAt_eq_ok :
    fs.directoryAt path = .ok p ↔ fs.locate path = .ok p ∧ fs.isDirectory p := by
  rw [directoryAt, bind_eq_ok]
  constructor
  · rintro ⟨q, hq, h⟩
    by_cases hdirectory : fs.isDirectory q
    · rw [if_pos hdirectory] at h
      cases h
      exact ⟨hq, hdirectory⟩
    · rw [if_neg hdirectory] at h
      cases h
  · rintro ⟨hp, hdirectory⟩
    refine ⟨p, hp, ?_⟩
    rw [if_pos hdirectory]
    rfl

theorem fileIn_eq_ok {directory : Place} {name : String} {id : Nat} :
    fs.fileIn directory name = .ok id ↔ ∃ p,
      fs.Follows { inside := some directory } maxLinks directory [name] p ∧
        fs.at? p = some (.file id) := by
  simp only [fileIn, bind_eq_ok, walk_eq_ok]
  refine exists_congr fun p => and_congr_right fun _ => ?_
  cases hentry : fs.at? p with
  | none => simp [throw, throwThe, MonadExceptOf.throw]
  | some e => cases e <;> simp [throw, throwThe, MonadExceptOf.throw]

/-! ## Trees that grow -/

/-- Whatever stands in a tree still stands in another one. -/
structure Extends (fs fs' : Files) : Prop where
  working : fs'.working = fs.working
  entry : ∀ p e, fs.at? p = some e → fs'.at? p = some e

namespace Extends

theorem refl (fs : Files) : fs.Extends fs := ⟨rfl, fun _ _ h => h⟩

theorem trans {fs'' : Files} (h : fs.Extends fs') (h' : fs'.Extends fs'') : fs.Extends fs'' :=
  ⟨h'.working.trans h.working, fun p e hp => h'.entry p e (h.entry p e hp)⟩

theorem at?_eq_none (h : fs.Extends fs') (hp : fs'.at? p = none) : fs.at? p = none := by
  cases hentry : fs.at? p with
  | none => rfl
  | some e =>
      rw [h.entry p e hentry] at hp
      cases hp

theorem isDirectory (h : fs.Extends fs') (hp : fs.isDirectory p) : fs'.isDirectory p := by
  rw [Files.isDirectory, beq_iff_eq] at hp ⊢
  exact h.entry p _ hp

/-- Names still lead to the same place, where a file may have been put by now. -/
theorem follows (h : fs.Extends fs') {names : List String}
    (hfollows : fs.Follows r links here names p)
    (hp : r.create → fs.at? p = none → ∃ id, fs'.at? p = some (.file id)) :
    fs'.Follows { r with create := false } links here names p := by
  have hpasses : ∀ {here name}, fs.Passes r here name →
      fs'.Passes { r with create := false } here name :=
    fun hpass => ⟨h.isDirectory hpass.directory, hpass.short, hpass.inside⟩
  -- Whatever is passed is still there; only at the end of the way may something be new.
  induction hfollows with
  | here => exact .here
  | missing hpass hentry hcreate =>
      obtain ⟨id, hid⟩ := hp hcreate hentry
      exact .name (hpasses hpass) hid nofun .here
  | name hpass hentry hlink _ ih => exact .name (hpasses hpass) (h.entry _ _ hentry) hlink (ih hp)
  | link hpass hentry hinside _ ih =>
      exact .link (hpasses hpass) (h.entry _ _ hentry) hinside (ih hp)

theorem leads (h : fs.Extends fs') (hleads : fs.Leads path p) : fs'.Leads path p := by
  have hstart : fs'.start path = fs.start path := by rw [start, start, h.working]
  rw [Leads, hstart]
  exact h.follows hleads nofun

theorem directoryAt (h : fs.Extends fs') (hdirectory : fs.directoryAt path = .ok p) :
    fs'.directoryAt path = .ok p := by
  obtain ⟨hlocate, hisDirectory⟩ := directoryAt_eq_ok.1 hdirectory
  obtain ⟨hempty, hnul, hsize, hleads⟩ := locate_eq_ok.1 hlocate
  have hlocate' : fs'.locate path = .ok p :=
    locate_eq_ok.2 ⟨hempty, hnul, hsize, h.leads hleads⟩
  exact directoryAt_eq_ok.2 ⟨hlocate', h.isDirectory hisDirectory⟩

theorem fileIn (h : fs.Extends fs') {directory : Place} {name : String} {id : Nat}
    (hid : fs.fileIn directory name = .ok id) : fs'.fileIn directory name = .ok id := by
  obtain ⟨p, hfollows, hentry⟩ := fileIn_eq_ok.1 hid
  exact fileIn_eq_ok.2 ⟨p, h.follows hfollows nofun, h.entry p _ hentry⟩

end Extends

/-- A file has been written, and nothing else has been done: names lead to it, and it was there or
is new. -/
structure Wrote (r : Route) (here : Place) (names : List String) (c : Contents) (id : Nat)
    (fs fs' : Files) : Prop where
  toExtends : fs.Extends fs'
  leads : ∃ p, fs'.Follows { r with create := false } maxLinks here names p ∧
    fs'.at? p = some (.file id)
  held : ∀ i, fs'.held i = if i = id then c else fs.held i
  made : ∀ p e, fs'.at? p = some e → fs.at? p = some e ∨
    fs.at? p = none ∧ e = .file id ∧ ∀ q, fs.at? q ≠ some (.file id)

/-- Directories have been made, and nothing else has been done: each of them was missing, and the
path or one above it leads there. -/
structure Grown (path : String) (fs fs' : Files) : Prop where
  toExtends : fs.Extends fs'
  holdings : fs'.holdings = fs.holdings
  made : ∀ p e, fs'.at? p = some e → fs.at? p = some e ∨
    fs.at? p = none ∧ e = .directory ∧ ∃ k, fs'.Leads (parent^[k] path) p

namespace Grown

theorem refl (path : String) (fs : Files) : Grown path fs fs :=
  ⟨.refl fs, rfl, fun _ _ hp => .inl hp⟩

theorem held (h : Grown path fs fs') (id : Nat) : fs'.held id = fs.held id := by
  rw [Files.held, Files.held, h.holdings]

end Grown

end Phrasebook.Files
