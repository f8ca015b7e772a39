import SchemaTyping.Proofs.Command.FileTree
import SchemaTyping.Proofs.Json.Reading

/-!
# Making the directories on a path

A directory whose parent is missing is tried, given up, and tried again when its parent has been made.
What comes of that is what comes of going along the path once and making each directory that is missing
(`makesShorter`). The induction is on the levels that are left; one step of it hands the parent of a path
to the levels below (`makeParent_iff`), which may stand for fewer parts than the path has before its
name, or for none.
-/

namespace SchemaTyping.Command

open FileTree
open Json (exists_of_bind_ok)

/-! ### Operations on a tree -/

theorem stateM_bind_apply {σ α β : Type} {x : StateM σ α} {s s' : σ} {a : α} (hx : x s = (a, s'))
    (next : α → StateM σ β) :
    (x >>= next) s = next a s' := by
  simp only [bind, StateT.bind, hx]

section

variable {tree opened : FileTree} {path : String} {dirs : List (List Char)} {name : List Char}
    {place last : Place}

theorem treeFiles_makeDirectory (path : String) (tree : FileTree) : treeFiles.makeDirectory path tree =
    match tree.makeDirectory path with
    | .ok made => (.ok (), made)
    | .error error => (.error error, tree) := by
  simp only [treeFiles, bind, StateT.bind, get, getThe, MonadStateOf.get, StateT.get, pure]
  cases tree.makeDirectory path <;> rfl

/-- Makes a directory at a path, or finds one there. -/
def FileTree.ensureDirectory (tree : FileTree) (path : String) : Except FileError Unit × FileTree :=
  match tree.makeDirectory path with
  | .ok made => (.ok (), made)
  | .error error => (if tree.isDirectory path then .ok () else .error error, tree)

theorem makeDirectories_of_found {levels : Nat} (hpath : path ≠ "")
    (hfound : tree.makeDirectory path ≠ .error .notFound) :
    treeFiles.makeDirectories (levels + 1) path tree = tree.ensureDirectory path := by
  have hmake := treeFiles_makeDirectory path tree
  rw [FileSystem.makeDirectories, if_neg hpath, ensureDirectory]
  cases hmade : tree.makeDirectory path with
  | ok made =>
    rw [hmade] at hmake
    rw [stateM_bind_apply hmake]
    rfl
  | error error =>
    rw [hmade] at hmake hfound
    rw [stateM_bind_apply hmake]
    cases error with
    | notFound => exact absurd rfl hfound
    | _ => rfl

theorem makeDirectories_of_notFound {levels : Nat} {parent : String} (hpath : path ≠ "")
    (hmissing : tree.makeDirectory path = .error .notFound) (hparent : parentPath? path = some parent) :
    treeFiles.makeDirectories (levels + 1) path tree =
      match treeFiles.makeDirectories levels parent tree with
      | (.ok (), mid) => mid.ensureDirectory path
      | (.error error, mid) => (.error error, mid) := by
  have hmake := treeFiles_makeDirectory path tree
  rw [hmissing] at hmake
  rw [FileSystem.makeDirectories, if_neg hpath, stateM_bind_apply hmake]
  simp only [hparent]
  cases hmade : treeFiles.makeDirectories levels parent tree with
  | mk result mid =>
    rw [stateM_bind_apply hmade]
    cases result with
    | error error => rfl
    | ok _ =>
      have hretry := treeFiles_makeDirectory path mid
      simp only [ensureDirectory]
      cases hmade : mid.makeDirectory path with
      | ok made =>
        rw [hmade] at hretry
        rw [stateM_bind_apply hretry]
        rfl
      | error error =>
        rw [hmade] at hretry
        rw [stateM_bind_apply hretry]
        rfl

/-! ### Walks along a path -/

theorem walk_concat_iff : tree.walk place (dirs ++ [name]) = .ok last ↔
    ∃ folder, tree.walk place dirs = .ok folder ∧ tree.step folder name = .ok last := by
  have hone : ∀ folder, tree.walk folder [name] = tree.step folder name := by
    intro folder
    rw [walk]
    cases tree.step folder name with
    | error error => rfl
    | ok next => rfl
  rw [walk_append]
  constructor
  · intro hwalk
    obtain ⟨folder, hdirs, hlast⟩ := exists_of_bind_ok hwalk
    exact ⟨folder, hdirs, (hone folder).symm.trans hlast⟩
  · rintro ⟨folder, hdirs, hstep⟩
    rw [hdirs]
    exact (hone folder).trans hstep

/-- What a path opens, a walk along the path leads to afterwards. -/
theorem Opens.walk_start {parts : List (List Char)}
    (hopens : Opens tree (tree.start path) parts opened last) :
    opened.walk (opened.start path) parts = .ok last := by
  rw [hopens.grows.start_eq]
  exact hopens.walk

theorem locate_eq_walk (tree : FileTree) (hlimit : path.utf8ByteSize ≤ pathLimit) :
    tree.locate path = tree.walk (tree.start path) (pathParts path) := by
  rw [locate, locateParts, if_neg (Nat.not_lt.2 hlimit)]

theorem locateNamed_eq_locate (tree : FileTree) (hparts : pathParts path = dirs ++ [name])
    (hname : name ≠ []) :
    tree.locateNamed path = tree.locate path := by
  rw [locateNamed, locate, hparts]
  simp [hname]

theorem makeDirectory_eq (hlimit : path.utf8ByteSize ≤ pathLimit)
    (hparts : pathParts path = dirs ++ [name]) (hname : name ≠ []) :
    tree.makeDirectory path = (tree.walk (tree.start path) (dirs ++ [name]) >>= fun place =>
      if (tree.entry? place).isSome then .error .alreadyExists
        else .ok (tree.put place .directory)) := by
  rw [makeDirectory, locateNamed_eq_locate tree hparts hname, locate_eq_walk tree hlimit, hparts]

theorem exists_opens_name_iff :
    (∃ folder last, tree.walk place dirs = .ok folder ∧ Opens tree folder [name] opened last) ↔
    ∃ last, tree.walk place (dirs ++ [name]) = .ok last ∧
      (tree.entry? last = some .directory ∧ opened = tree ∨ tree.entry? last = none ∧
        opened = tree.put last .directory) := by
  simp only [opens_singleton_iff, walk_concat_iff]
  constructor
  · rintro ⟨folder, last, hfolder, hstep, hmade⟩
    exact ⟨last, ⟨folder, hfolder, hstep⟩, hmade⟩
  · rintro ⟨last, ⟨folder, hfolder, hstep⟩, hmade⟩
    exact ⟨folder, last, hfolder, hstep, hmade⟩

theorem ensureDirectory_iff (hlimit : path.utf8ByteSize ≤ pathLimit)
    (hparts : pathParts path = dirs ++ [name]) (hname : name ≠ []) :
    tree.ensureDirectory path = (.ok (), opened) ↔
      ∃ folder last, tree.walk (tree.start path) dirs = .ok folder ∧
        Opens tree folder [name] opened last := by
  rw [exists_opens_name_iff, ensureDirectory, makeDirectory_eq hlimit hparts hname, isDirectory,
    locate_eq_walk tree hlimit, hparts]
  cases tree.walk (tree.start path) (dirs ++ [name]) with
  | error error => simp [bind, Except.bind]
  | ok last =>
    simp only [bind, Except.bind]
    cases hentry : tree.entry? last with
    | none => simp [hentry, eq_comm]
    | some entry =>
      cases entry with
      | file content =>
        have hdirectory : tree.hasDirectory last = false := by rw [hasDirectory, hentry]
        simp [hentry, hdirectory]
      | directory =>
        have hdirectory : tree.hasDirectory last = true := hasDirectory_iff.2 hentry
        simp [hentry, hdirectory, eq_comm]

/-! ### The directories on the way -/

/-- Makes every path of fewer characters than there are levels as going along it does, if it ends with a
name. -/
def MakesShorter (levels : Nat) : Prop :=
  ∀ {tree opened : FileTree} {path : String} {dirs : List (List Char)} {name : List Char},
    path.utf8ByteSize ≤ pathLimit →
    pathParts path = dirs ++ [name] → Trimmed dirs name → path.length < levels →
    (treeFiles.makeDirectories levels path tree = (.ok (), opened) ↔
      ∃ last, Opens tree (tree.start path) (dirs ++ [name]) opened last)

theorem makeDirectories_empty (levels : Nat) (tree : FileTree) :
    treeFiles.makeDirectories (levels + 1) "" tree = (.ok (), tree) := by
  rw [FileSystem.makeDirectories, if_pos rfl]
  rfl

theorem makeDirectories_root (levels : Nat) (tree : FileTree) :
    treeFiles.makeDirectories (levels + 1) "/" tree = (.ok (), tree) := by
  have hexists : tree.makeDirectory "/" = .error .alreadyExists := rfl
  have hfound : tree.makeDirectory "/" ≠ .error .notFound := by
    rw [hexists]
    nofun
  rw [makeDirectories_of_found (by decide) hfound, ensureDirectory, hexists]
  rfl

theorem start_root (tree : FileTree) (hparts : pathParts path = [] :: dirs) (hdirs : dirs ≠ []) :
    tree.start path = [] := by
  have htext := toList_eq_intercalate path
  cases dirs with
  | nil => exact absurd rfl hdirs
  | cons first rest =>
    rw [hparts, List.intercalate_cons_cons, List.nil_append] at htext
    rw [start, htext]
    rfl

theorem start_of_beginning (tree : FileTree) {parent : String} {rest : List Char}
    (htext : path.toList = parent.toList ++ rest) (hparent : parent.toList ≠ []) :
    tree.start parent = tree.start path := by
  rw [start, start, htext, List.head?_append_of_ne_nil _ hparent]

theorem toList_ne_nil_of_trimmed (hparts : pathParts path = dirs ++ [name])
    (htrimmed : Trimmed dirs name) : path.toList ≠ [] := by
  intro hnil
  rw [pathParts, hnil] at hparts
  cases dirs with
  | nil =>
    cases hparts
    exact htrimmed.ne_nil rfl
  | cons first rest =>
    rw [Json.splitAt, List.cons_append, List.cons.injEq] at hparts
    simp at hparts

theorem ne_empty_of_trimmed (hparts : pathParts path = dirs ++ [name]) (htrimmed : Trimmed dirs name) :
    path ≠ "" := by
  rintro rfl
  exact toList_ne_nil_of_trimmed hparts htrimmed rfl

theorem makeParent_iff {levels : Nat} (hmakes : MakesShorter levels)
    (hlimit : path.utf8ByteSize ≤ pathLimit) (hparts : pathParts path = dirs ++ [name])
    (htrimmed : Trimmed dirs name) {parent : String} (hparent : parentPath? path = some parent)
    (hlength : parent.length < levels) :
    treeFiles.makeDirectories levels parent tree = (.ok (), opened) ↔
      ∃ folder, Opens tree (tree.start path) dirs opened folder := by
  obtain ⟨_, rest, hparent', htext, _, hof⟩ := exists_parent hparts htrimmed
  cases hparent.symm.trans hparent'
  obtain ⟨fewer, rfl⟩ : ∃ fewer, levels = fewer + 1 := ⟨levels - 1, by omega⟩
  cases hof with
  | name =>
    rw [makeDirectories_empty]
    constructor
    · rintro ⟨⟩
      exact ⟨_, .here tree _⟩
    · rintro ⟨_, ⟨⟩⟩
      rfl
  | @root idle hidle =>
    have hidle : Idle ([] :: idle) := List.forall_mem_cons.2 ⟨rfl, hidle⟩
    rw [makeDirectories_root, start_root tree hparts (by simp)]
    simp only [opens_idle_iff hidle tree.entry?_root]
    constructor
    · rintro ⟨⟩
      exact ⟨_, rfl, rfl⟩
    · rintro ⟨_, rfl, _⟩
      rfl
  | @trimmed before idle last _ hbefore hlast hidle =>
    have hpath : path = parent ++ String.ofList rest := String.toList_inj.1 (by simpa using htext)
    have hsize : parent.utf8ByteSize ≤ pathLimit := by
      rw [hpath, String.utf8ByteSize_append] at hlimit
      omega
    rw [hmakes hsize hbefore hlast hlength,
      start_of_beginning tree htext (toList_ne_nil_of_trimmed hbefore hlast)]
    simp only [opens_append_idle_iff
      (List.append_ne_nil_of_right_ne_nil before (List.cons_ne_nil last [])) hidle]

section

variable {levels : Nat} {parent : String} (hlimit : path.utf8ByteSize ≤ pathLimit)
    (hparts : pathParts path = dirs ++ [name])
  (htrimmed : Trimmed dirs name)

include hlimit hparts htrimmed

/-- A path that is not missing a directory before its name is made, or found, at once. -/
theorem makeDirectories_found_iff (hfound : tree.makeDirectory path ≠ .error .notFound) :
    treeFiles.makeDirectories (levels + 1) path tree = (.ok (), opened) ↔
      ∃ last, Opens tree (tree.start path) (dirs ++ [name]) opened last := by
  have hname := htrimmed.ne_nil
  rw [makeDirectories_of_found (ne_empty_of_trimmed hparts htrimmed) hfound,
    ensureDirectory_iff hlimit hparts hname]
  simp only [opens_append_iff]
  constructor
  · rintro ⟨folder, last, hwalk, hlast⟩
    exact ⟨last, tree, folder,
      opens_of_walk hwalk (entry?_of_step (opens_singleton_iff.1 hlast).1), hlast⟩
  · rintro ⟨last, mid, folder, hopens, hlast⟩
    -- had anything been made on the way, the first attempt would not have found it
    rcases hopens.unmade_or_notFound name with rfl | hnone
    · exact ⟨folder, last, hopens.walk, hlast⟩
    · refine absurd ?_ hfound
      rw [makeDirectory_eq hlimit hparts hname, hnone]
      rfl

/-- A path that is missing a directory before its name is made, or found, when its parent has been
made. -/
theorem makeDirectories_missing_iff (hmissing : tree.makeDirectory path = .error .notFound)
    (hparent : parentPath? path = some parent)
    (hupper : ∀ {mid}, treeFiles.makeDirectories levels parent tree = (.ok (), mid) ↔
      ∃ folder, Opens tree (tree.start path) dirs mid folder) :
    treeFiles.makeDirectories (levels + 1) path tree = (.ok (), opened) ↔
      ∃ last, Opens tree (tree.start path) (dirs ++ [name]) opened last := by
  have hensure : ∀ {mid : FileTree}, mid.ensureDirectory path = (.ok (), opened) ↔
      ∃ folder last, mid.walk (mid.start path) dirs = .ok folder ∧ Opens mid folder [name] opened last :=
    ensureDirectory_iff hlimit hparts htrimmed.ne_nil
  rw [makeDirectories_of_notFound (ne_empty_of_trimmed hparts htrimmed) hmissing hparent]
  simp only [opens_append_iff]
  constructor
  · intro hmade
    split at hmade
    · rename_i mid hmid
      obtain ⟨folder, hopens⟩ := hupper.1 hmid
      obtain ⟨folder', last, hwalk, hlast⟩ := hensure.1 hmade
      cases hopens.walk_start.symm.trans hwalk
      exact ⟨last, mid, folder, hopens, hlast⟩
    · cases hmade
  · rintro ⟨last, mid, folder, hopens, hlast⟩
    rw [hupper.2 ⟨folder, hopens⟩]
    exact hensure.2 ⟨folder, last, hopens.walk_start, hlast⟩

end

/-- Directories are made as going along their path does, whatever the path is that the levels suffice
for. -/
theorem makesShorter (levels : Nat) : MakesShorter levels := by
  induction levels with
  | zero => exact fun _ _ _ hlength => absurd hlength (Nat.not_lt_zero _)
  | succ levels ih =>
    intro tree opened path dirs name hlimit hparts htrimmed hlength
    by_cases hmissing : tree.makeDirectory path = .error .notFound
    · obtain ⟨parent, rest, hparent, htext, hrest, _⟩ := exists_parent hparts htrimmed
      have hshorter : parent.length < levels := by
        have hlengths := congrArg List.length htext
        have hpositive := List.length_pos_of_ne_nil hrest
        rw [List.length_append, String.length_toList, String.length_toList] at hlengths
        omega
      exact makeDirectories_missing_iff hlimit hparts htrimmed hmissing hparent
        (makeParent_iff ih hlimit hparts htrimmed hparent hshorter)
    · exact makeDirectories_found_iff hlimit hparts htrimmed hmissing

end

end SchemaTyping.Command
