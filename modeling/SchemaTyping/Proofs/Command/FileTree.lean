import SchemaTyping.Command.FileTree
import SchemaTyping.Proofs.Command.FilePath

/-!
# Going along a path and making directories

`Opens` goes along the parts of a path as a walk does, and makes each directory that is missing. All it
does to a tree is to put directories where nothing stood (`Opens.grows`), and afterwards a plain walk
leads to the same place (`Opens.walk`). A walk that needs something made fails before, for want of the
first directory that is missing (`Opens.unmade_or_notFound`).
-/

namespace SchemaTyping.Command

namespace FileTree

variable {tree opened : FileTree} {place next last : Place} {part : List Char}
    {parts rest : List (List Char)}

/-! ### Entries -/

theorem lookup_filter_ne {entries : List (Place × Entry)} (hne : next ≠ place) :
    (entries.filter (·.1 ≠ place)).lookup next = entries.lookup next := by
  induction entries with
  | nil => rfl
  | cons entry entries ih =>
    obtain ⟨where', stands⟩ := entry
    by_cases hplace : where' = place
    · subst hplace
      rw [List.filter_cons_of_neg (by simp), ih, List.lookup_cons, beq_false_of_ne hne]
    · rw [List.filter_cons_of_pos (by simpa using hplace), List.lookup_cons, List.lookup_cons, ih]

theorem entry?_root (tree : FileTree) : tree.entry? [] = some .directory := rfl

theorem entry?_put_self (tree : FileTree) (hplace : place ≠ []) (entry : Entry) :
    FileTree.entry? (tree.put place entry) place = some entry := by
  unfold entry? put
  rw [if_neg (by simpa using hplace), List.lookup_cons, beq_self_eq_true]

theorem entry?_put_of_ne (tree : FileTree) (hne : next ≠ place) (entry : Entry) :
    FileTree.entry? (tree.put place entry) next = tree.entry? next := by
  unfold entry? put
  rw [List.lookup_cons, beq_false_of_ne hne, lookup_filter_ne hne]

theorem hasDirectory_iff : tree.hasDirectory place = true ↔ tree.entry? place = some .directory := by
  unfold hasDirectory
  constructor
  · intro hdirectory
    split at hdirectory
    · assumption
    · cases hdirectory
  · intro hentry
    rw [hentry]

/-- The root stands in every tree, so where nothing stands is not the root. -/
theorem ne_root_of_entry?_none (hentry : tree.entry? place = none) : place ≠ [] := by
  rintro rfl
  cases hentry

/-! ### Steps -/

theorem entry?_of_step (hstep : tree.step place part = .ok next) :
    tree.entry? place = some .directory := by
  unfold step at hstep
  split at hstep
  · cases hstep
  · cases hstep
  · assumption

theorem step_eq_of_directory (hentry : tree.entry? place = some .directory)
    (hopened : opened.entry? place = some .directory) (part : List Char) :
    opened.step place part = tree.step place part := by
  rw [step, step, hentry, hopened]

theorem step_idle (hidle : isIdlePart part = true) (hentry : tree.entry? place = some .directory) :
    tree.step place part = .ok place := by
  rw [step, hentry, if_pos hidle]

theorem entry?_of_step_idle (hidle : isIdlePart part = true) (hstep : tree.step place part = .ok next) :
    tree.entry? next = some .directory := by
  have hentry := entry?_of_step hstep
  cases (step_idle hidle hentry).symm.trans hstep
  exact hentry

/-- A walk that goes on from where nothing stands fails. -/
theorem walk_of_entry?_none (hentry : tree.entry? place = none) (parts : List (List Char))
    (part : List Char) :
    tree.walk place (parts ++ [part]) = .error .notFound := by
  have hstep : ∀ part, tree.step place part = .error .notFound := fun part => by rw [step, hentry]
  cases parts with
  | nil => rw [List.nil_append, walk, hstep]; rfl
  | cons first parts => rw [List.cons_append, walk, hstep]; rfl

theorem walk_cons_of_step (hstep : tree.step place part = .ok next) (rest : List (List Char)) :
    tree.walk place (part :: rest) = tree.walk next rest := by
  rw [walk, hstep]
  rfl

/-- A walk leads to the same place in every tree that has the directories of the first. -/
theorem walk_of_directories
    (hkept : ∀ place, tree.entry? place = some .directory → opened.entry? place = some .directory)
    (hwalk : tree.walk place parts = .ok last) : opened.walk place parts = .ok last := by
  induction parts generalizing place with
  | nil => exact hwalk
  | cons part rest ih =>
    cases hstep : tree.step place part with
    | error error =>
      rw [walk, hstep] at hwalk
      cases hwalk
    | ok next =>
      have hentry := entry?_of_step hstep
      rw [walk_cons_of_step hstep] at hwalk
      rw [← step_eq_of_directory hentry (hkept place hentry)] at hstep
      rw [walk_cons_of_step hstep, ih hwalk]

theorem walk_append (tree : FileTree) (place : Place) (parts rest : List (List Char)) :
    tree.walk place (parts ++ rest) = tree.walk place parts >>= (tree.walk · rest) := by
  induction parts generalizing place with
  | nil => rfl
  | cons part parts ih =>
    rw [List.cons_append, walk, walk]
    cases tree.step place part with
    | error error => rfl
    | ok next => exact ih next

end FileTree

open FileTree

/-! ### Trees with more directories -/

/-- Another tree has more directories, where nothing stood, and is the same otherwise. -/
structure FileTree.Grows (tree opened : FileTree) : Prop where
  working : opened.working = tree.working
  entries : ∀ place, opened.entry? place = tree.entry? place ∨ tree.entry? place = none ∧
    opened.entry? place = some .directory

section

variable {tree mid opened : FileTree} {place between last : Place} {part : List Char}
    {parts rest : List (List Char)}

theorem FileTree.Grows.refl (tree : FileTree) : tree.Grows tree := ⟨rfl, fun _ => .inl rfl⟩

theorem FileTree.Grows.trans (hmid : tree.Grows mid) (hopened : mid.Grows opened) :
    tree.Grows opened where
  working := hopened.working.trans hmid.working
  entries place := by
    rcases hmid.entries place with hsame | ⟨hnone, hmade⟩
    · rw [← hsame]
      exact hopened.entries place
    · rcases hopened.entries place with hsame | ⟨hnone', _⟩
      · exact .inr ⟨hnone, hsame.trans hmade⟩
      · rw [hmade] at hnone'
        cases hnone'

theorem FileTree.Grows.directory (hgrows : tree.Grows opened)
    (hentry : tree.entry? place = some .directory) :
    opened.entry? place = some .directory := by
  rcases hgrows.entries place with hsame | ⟨hnone, _⟩
  · rw [hsame, hentry]
  · rw [hentry] at hnone
    cases hnone

theorem FileTree.Grows.start_eq (hgrows : tree.Grows opened) (path : String) :
    opened.start path = tree.start path := by
  rw [start, start, hgrows.working]

theorem FileTree.grows_put (hnone : tree.entry? place = none) :
    tree.Grows (tree.put place .directory) where
  working := rfl
  entries other := by
    by_cases hother : other = place
    · subst hother
      exact .inr ⟨hnone, tree.entry?_put_self (ne_root_of_entry?_none hnone) .directory⟩
    · exact .inl (tree.entry?_put_of_ne hother .directory)

/-! ### Going and making -/

/-- Going along the parts of a path from a place of a tree leads to a place of another tree, which has
the directories on the way that the first was missing. -/
inductive Opens : FileTree → Place → List (List Char) → FileTree → Place → Prop
  | here (tree : FileTree) (place : Place) : Opens tree place [] tree place
  | enter {tree opened : FileTree} {place next last : Place} {part : List Char} {rest : List (List Char)}
    (hstep : tree.step place part = .ok next) (hentry : tree.entry? next = some .directory)
    (hrest : Opens tree next rest opened last) :
    Opens tree place (part :: rest) opened last
  | make {tree opened : FileTree} {place next last : Place} {part : List Char} {rest : List (List Char)}
    (hstep : tree.step place part = .ok next) (hentry : tree.entry? next = none)
    (hrest : Opens (tree.put next .directory) next rest opened last) :
    Opens tree place (part :: rest) opened last

theorem Opens.grows (hopens : Opens tree place parts opened last) : tree.Grows opened := by
  induction hopens with
  | here tree place => exact .refl tree
  | enter hstep hentry hrest ih => exact ih
  | make hstep hentry hrest ih => exact (grows_put hentry).trans ih

theorem Opens.walk (hopens : Opens tree place parts opened last) :
    opened.walk place parts = .ok last := by
  induction hopens with
  | here tree place => rfl
  | @enter tree opened place next last part rest hstep hentry hrest ih =>
    have hplace := entry?_of_step hstep
    rw [← step_eq_of_directory hplace (hrest.grows.directory hplace)] at hstep
    rw [walk_cons_of_step hstep, ih]
  | @make tree opened place next last part rest hstep hentry hrest ih =>
    have hplace := entry?_of_step hstep
    rw [← step_eq_of_directory hplace (((grows_put hentry).trans hrest.grows).directory hplace)] at hstep
    rw [walk_cons_of_step hstep, ih]

theorem opens_append_iff : Opens tree place (parts ++ rest) opened last ↔
    ∃ mid between, Opens tree place parts mid between ∧ Opens mid between rest opened last := by
  constructor
  · intro hopens
    induction parts generalizing tree place with
    | nil => exact ⟨tree, place, .here tree place, hopens⟩
    | cons part parts ih =>
      cases hopens with
      | enter hstep hentry hmore =>
        obtain ⟨mid, between, hparts, hrest⟩ := ih hmore
        exact ⟨mid, between, .enter hstep hentry hparts, hrest⟩
      | make hstep hentry hmore =>
        obtain ⟨mid, between, hparts, hrest⟩ := ih hmore
        exact ⟨mid, between, .make hstep hentry hparts, hrest⟩
  · rintro ⟨mid, between, hparts, hrest⟩
    induction hparts with
    | here tree place => exact hrest
    | enter hstep hentry _ ih => exact .enter hstep hentry (ih hrest)
    | make hstep hentry _ ih => exact .make hstep hentry (ih hrest)

theorem opens_singleton_iff : Opens tree place [part] opened last ↔ tree.step place part = .ok last ∧
    (tree.entry? last = some .directory ∧ opened = tree ∨ tree.entry? last = none ∧
      opened = tree.put last .directory) := by
  constructor
  · intro hopens
    cases hopens with
    | enter hstep hentry hrest =>
      cases hrest
      exact ⟨hstep, .inl ⟨hentry, rfl⟩⟩
    | make hstep hentry hrest =>
      cases hrest
      exact ⟨hstep, .inr ⟨hentry, rfl⟩⟩
  · rintro ⟨hstep, ⟨hentry, rfl⟩ | ⟨hentry, rfl⟩⟩
    · exact .enter hstep hentry (.here _ _)
    · exact .make hstep hentry (.here _ _)

/-- Where a walk leads to a directory there is nothing to make. -/
theorem opens_of_walk (hwalk : tree.walk place parts = .ok last)
    (hentry : tree.entry? last = some .directory) :
    Opens tree place parts tree last := by
  induction parts generalizing place with
  | nil =>
    cases hwalk
    exact .here tree _
  | cons part rest ih =>
    cases hstep : tree.step place part with
    | error error =>
      rw [FileTree.walk, hstep] at hwalk
      cases hwalk
    | ok next =>
      rw [walk_cons_of_step hstep] at hwalk
      refine .enter hstep ?_ (ih hwalk)
      cases rest with
      | nil =>
        cases hwalk
        exact hentry
      | cons part rest =>
        cases hnext : tree.step next part with
        | error error =>
          rw [FileTree.walk, hnext] at hwalk
          cases hwalk
        | ok after => exact entry?_of_step hnext

theorem Opens.directory (hopens : Opens tree place parts opened last)
    (hplace : tree.entry? place = some .directory) :
    opened.entry? last = some .directory := by
  induction hopens with
  | here tree place => exact hplace
  | enter hstep hentry hrest ih => exact ih hentry
  | make hstep hentry hrest ih => exact ih (entry?_put_self _ (ne_root_of_entry?_none hentry) .directory)

theorem opens_idle_iff (hidle : Idle parts) (hplace : tree.entry? place = some .directory) :
    Opens tree place parts opened last ↔ opened = tree ∧ last = place := by
  induction parts with
  | nil =>
    constructor
    · rintro ⟨⟩
      exact ⟨rfl, rfl⟩
    · rintro ⟨rfl, rfl⟩
      exact .here _ _
  | cons part rest ih =>
    obtain ⟨hpart, hrest⟩ := List.forall_mem_cons.1 hidle
    have hstay := step_idle hpart hplace
    rw [← ih hrest]
    constructor
    · intro hopens
      cases hopens with
      | enter hstep hentry hopens =>
        cases hstay.symm.trans hstep
        exact hopens
      | make hstep hentry hopens =>
        cases hstay.symm.trans hstep
        rw [hplace] at hentry
        cases hentry
    · exact .enter hstay hplace

theorem opens_append_idle_iff (hparts : parts ≠ []) (hidle : Idle rest) :
    Opens tree place (parts ++ rest) opened last ↔ Opens tree place parts opened last := by
  have hdirectory : ∀ {mid between}, Opens tree place parts mid between →
      mid.entry? between = some .directory := by
    intro mid between hopens
    refine hopens.directory ?_
    cases hopens with
    | here => exact absurd rfl hparts
    | enter hstep => exact entry?_of_step hstep
    | make hstep => exact entry?_of_step hstep
  rw [opens_append_iff]
  constructor
  · rintro ⟨mid, between, hopens, hrest⟩
    obtain ⟨rfl, rfl⟩ := (opens_idle_iff hidle (hdirectory hopens)).1 hrest
    exact hopens
  · exact fun hopens => ⟨opened, last, hopens, (opens_idle_iff hidle (hdirectory hopens)).2 ⟨rfl, rfl⟩⟩

/-- Either nothing has to be made on the way, or a walk that goes on behind it fails at the first
directory that is missing. -/
theorem Opens.unmade_or_notFound (hopens : Opens tree place parts opened last) (part : List Char) :
    opened = tree ∨ tree.walk place (parts ++ [part]) = .error .notFound := by
  induction hopens with
  | here tree place => exact .inl rfl
  | enter hstep hentry hrest ih =>
    rw [List.cons_append, walk_cons_of_step hstep]
    exact ih
  | make hstep hentry hrest ih =>
    rw [List.cons_append, walk_cons_of_step hstep]
    exact .inr (walk_of_entry?_none hentry _ part)

end

end SchemaTyping.Command
