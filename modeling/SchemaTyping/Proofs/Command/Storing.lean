import SchemaTyping.Command.Run
import SchemaTyping.Proofs.Command.Directories

/-!
# Storing a text in a file

A text is written to a file when the directories that the file is in have been made, as far as they were
missing. That succeeds exactly where a walk along the path, making what is missing, comes to a place that
is not a directory (`writeFile_iff`). The tree then has the new directories and the file, and is the same
otherwise (`Stores.frame`).
-/

namespace SchemaTyping.Command

open FileTree
open Json (exists_of_bind_ok)

section

variable {tree opened : FileTree} {path : String} {dirs : List (List Char)} {name : List Char}
    {place last : Place}

/-- A text is stored in a file, with the directories that are missing on the way to it: the path ends
with a name, and what stands under that name is not a directory. -/
inductive Stores (tree : FileTree) (path : String) (content : ByteArray) : FileTree → Prop
  | file {dirs : List (List Char)} {name : List Char} {opened : FileTree} {folder place : Place}
    (hlimit : path.utf8ByteSize ≤ pathLimit) (hparts : pathParts path = dirs ++ [name])
    (hname : name ≠ []) (hopens : Opens tree (tree.start path) dirs opened folder)
    (hstep : opened.step folder name = .ok place) (hentry : opened.entry? place ≠ some .directory) :
    Stores tree path content (opened.put place (.file content))

theorem stores_iff {content : ByteArray} {stored : FileTree} (hparts : pathParts path = dirs ++ [name]) :
    Stores tree path content stored ↔ path.utf8ByteSize ≤ pathLimit ∧ name ≠ [] ∧ ∃ opened folder place,
      Opens tree (tree.start path) dirs opened folder ∧ opened.step folder name = .ok place ∧
      opened.entry? place ≠ some .directory ∧
        stored = opened.put place (.file content) := by
  constructor
  · intro hstores
    cases hstores with
    | file hlimit hparts' hname hopens hstep hentry =>
      obtain ⟨rfl, hsame⟩ := List.append_inj' (hparts.symm.trans hparts') rfl
      cases hsame
      exact ⟨hlimit, hname, _, _, _, hopens, hstep, hentry, rfl⟩
  · rintro ⟨hlimit, hname, opened, folder, place, hopens, hstep, hentry, rfl⟩
    exact .file hlimit hparts hname hopens hstep hentry

theorem write_iff {content : ByteArray} {stored : FileTree} (hpath : path ≠ "")
    (hparts : pathParts path = dirs ++ [name]) :
    tree.write path content = .ok stored ↔ path.utf8ByteSize ≤ pathLimit ∧ name ≠ [] ∧ ∃ folder place,
      tree.walk (tree.start path) dirs = .ok folder ∧ tree.step folder name = .ok place ∧
      tree.entry? place ≠ some .directory ∧
        stored = tree.put place (.file content) := by
  have hslash := getLast?_eq_slash_iff hpath hparts
  constructor
  · intro hwrite
    obtain ⟨place, hlocate, hwrite⟩ := exists_of_bind_ok hwrite
    split at hwrite
    · cases hwrite
    · rename_i hfree
      cases hwrite
      rw [hslash, not_or, hasDirectory_iff] at hfree
      obtain ⟨hname, hentry⟩ := hfree
      have hlimit : path.utf8ByteSize ≤ pathLimit := by
        refine Nat.not_lt.1 fun hlong => ?_
        rw [locateNamed, locateParts, if_pos hlong] at hlocate
        cases hlocate
      rw [locateNamed_eq_locate tree hparts hname, locate_eq_walk tree hlimit, hparts,
        walk_concat_iff] at hlocate
      obtain ⟨folder, hwalk, hstep⟩ := hlocate
      exact ⟨hlimit, hname, folder, place, hwalk, hstep, hentry, rfl⟩
  · rintro ⟨hlimit, hname, folder, place, hwalk, hstep, hentry, rfl⟩
    have hlocate := locateNamed_eq_locate tree hparts hname
    rw [locate_eq_walk tree hlimit, hparts, walk_concat_iff.2 ⟨folder, hwalk, hstep⟩] at hlocate
    rw [FileTree.write, hlocate]
    exact if_neg (by rw [hslash, not_or, hasDirectory_iff]; exact ⟨hname, hentry⟩)

theorem treeFiles_write (path : String) (content : ByteArray) (tree : FileTree) :
    treeFiles.write path content tree =
    match tree.write path content with
    | .ok stored => (.ok (), stored)
    | .error error => (.error error, tree) := by
  simp only [treeFiles, bind, StateT.bind, get, getThe, MonadStateOf.get, StateT.get, pure]
  cases tree.write path content <;> rfl

/-- Writes a text to a path of which every directory is there. -/
def FileTree.writeText (tree : FileTree) (path text : String) : Except Failure Unit × FileTree :=
  match tree.write path text.toUTF8 with
  | .ok stored => (.ok (), stored)
  | .error error => (.error (.unwrittenFile path error), tree)

theorem writeText_iff {text : String} {stored : FileTree} :
    tree.writeText path text = (.ok (), stored) ↔ tree.write path text.toUTF8 = .ok stored := by
  unfold writeText
  cases tree.write path text.toUTF8 with
  | ok last => simp
  | error error => simp

theorem treeFiles_writeText (path text : String) (tree : FileTree) :
    (do return (← treeFiles.write path text.toUTF8).mapError (.unwrittenFile path) : StateM FileTree
      (Except Failure Unit)) tree =
      tree.writeText path text := by
  have hwrite := treeFiles_write path text.toUTF8 tree
  rw [writeText]
  cases hstored : tree.write path text.toUTF8 with
  | ok stored =>
    rw [hstored] at hwrite
    rw [stateM_bind_apply hwrite]
    rfl
  | error error =>
    rw [hstored] at hwrite
    rw [stateM_bind_apply hwrite]
    rfl

theorem writeFile_apply (path text : String) (tree : FileTree) : writeFile treeFiles path text tree =
    match parentPath? path with
    | none => tree.writeText path text
    | some parent =>
      match treeFiles.makeDirectories (parent.length + 1) parent tree with
      | (.error error, opened) => (.error (.unmadeDirectory parent error), opened)
      | (.ok (), opened) => opened.writeText path text := by
  unfold writeFile
  cases parentPath? path with
  | none => exact treeFiles_writeText path text tree
  | some parent =>
    simp only
    cases hmade : treeFiles.makeDirectories (parent.length + 1) parent tree with
    | mk result opened =>
      rw [stateM_bind_apply hmade]
      cases result with
      | error error => rfl
      | ok _ => exact treeFiles_writeText path text opened

theorem exists_write_of_writeFile {text : String} {stored : FileTree}
    (hwritten : writeFile treeFiles path text tree = (.ok (), stored)) :
    ∃ opened, FileTree.write opened path text.toUTF8 = .ok stored := by
  rw [writeFile_apply] at hwritten
  split at hwritten
  · exact ⟨tree, writeText_iff.1 hwritten⟩
  · split at hwritten
    · cases hwritten
    · exact ⟨_, writeText_iff.1 hwritten⟩

/-- A path that ends with a part that leads nowhere names a directory, if anything. -/
theorem not_stores_of_idle {content : ByteArray} {stored : FileTree}
    (hparts : pathParts path = dirs ++ [name]) (hname : isIdlePart name = true) :
    ¬ Stores tree path content stored := by
  rw [stores_iff hparts]
  rintro ⟨_, _, opened, folder, place, _, hstep, hentry, _⟩
  exact hentry (entry?_of_step_idle hname hstep)

theorem not_written_of_idle {text : String} {stored : FileTree} (hpath : path ≠ "")
    (hparts : pathParts path = dirs ++ [name]) (hname : isIdlePart name = true) :
    writeFile treeFiles path text tree ≠ (.ok (), stored) := by
  intro hwritten
  obtain ⟨opened, hwrite⟩ := exists_write_of_writeFile hwritten
  obtain ⟨_, _, folder, place, _, hstep, hentry, _⟩ := (write_iff hpath hparts).1 hwrite
  exact hentry (entry?_of_step_idle hname hstep)

/-- **A text is written to a file exactly where it can be stored there**, and the tree that is left is
the one with the text stored. -/
theorem writeFile_iff {text : String} {stored : FileTree} (hpath : path ≠ "") :
    writeFile treeFiles path text tree = (.ok (), stored) ↔ Stores tree path text.toUTF8 stored := by
  obtain ⟨dirs, name, hparts⟩ := exists_pathParts path
  cases hname : isIdlePart name with
  -- behind such a part the parent of the path is not what the part is in, but writing fails anyway
  | true => exact iff_of_false (not_written_of_idle hpath hparts hname) (not_stores_of_idle hparts hname)
  | false =>
    have htrimmed : Trimmed dirs name := .inl hname
    obtain ⟨parent, _, hparent, _⟩ := exists_parent hparts htrimmed
    have hopened : path.utf8ByteSize ≤ pathLimit →
        ∀ {opened}, treeFiles.makeDirectories (parent.length + 1) parent tree = (.ok (), opened) ↔
        ∃ folder, Opens tree (tree.start path) dirs opened folder :=
      fun hlimit => makeParent_iff (makesShorter _) hlimit hparts htrimmed hparent (Nat.lt_succ_self _)
    rw [writeFile_apply, stores_iff hparts]
    simp only [hparent]
    constructor
    · intro hwritten
      split at hwritten
      · cases hwritten
      · rename_i opened hmade
        obtain ⟨hlimit, hne, folder, place, hwalk, hstep, hentry, rfl⟩ :=
          (write_iff hpath hparts).1 (writeText_iff.1 hwritten)
        obtain ⟨folder', hopens⟩ := (hopened hlimit).1 hmade
        cases hopens.walk_start.symm.trans hwalk
        exact ⟨hlimit, hne, opened, _, place, hopens, hstep, hentry, rfl⟩
    · rintro ⟨hlimit, hne, opened, folder, place, hopens, hstep, hentry, rfl⟩
      rw [(hopened hlimit).2 ⟨folder, hopens⟩]
      exact writeText_iff.2
        ((write_iff hpath hparts).2 ⟨hlimit, hne, folder, place, hopens.walk_start, hstep, hentry, rfl⟩)

/-- Where a text has been stored its file is read as the text. What stands elsewhere is what stood there,
or a directory where nothing stood. -/
theorem Stores.frame {content : ByteArray} {stored : FileTree}
    (hstores : Stores tree path content stored) :
    stored.read path = .ok content ∧ stored.working = tree.working ∧ ∃ place,
      stored.locate path = .ok place ∧
      ∀ other, other ≠ place →
        stored.entry? other = tree.entry? other ∨ tree.entry? other = none ∧
          stored.entry? other = some .directory := by
  obtain @⟨dirs, name, opened, folder, place, hlimit, hparts, hname, hopens, hstep, hentry⟩ := hstores
  have hroot : place ≠ [] := by
    rintro rfl
    exact hentry opened.entry?_root
  -- no directory on the way is lost, since the file does not take the place of one
  have hkept : ∀ other, opened.entry? other = some .directory →
      FileTree.entry? (opened.put place (.file content)) other = some .directory := by
    intro other hother
    rw [entry?_put_of_ne opened (by rintro rfl; exact hentry hother), hother]
  have hwalk : opened.walk (tree.start path) (dirs ++ [name]) = .ok place :=
    walk_concat_iff.2 ⟨folder, hopens.walk, hstep⟩
  have hlocate : (opened.put place (.file content)).locate path = .ok place := by
    have hstart : (opened.put place (.file content)).start path = tree.start path :=
      hopens.grows.start_eq path
    rw [locate_eq_walk _ hlimit, hparts, hstart]
    exact walk_of_directories hkept hwalk
  refine ⟨?_, hopens.grows.working, place, hlocate, fun other hother => ?_⟩
  · have hstored : FileTree.entry? (opened.put place (.file content)) place = some (.file content) :=
      opened.entry?_put_self hroot _
    rw [FileTree.read, hlocate]
    simp only [bind, Except.bind, hstored]
  · rw [entry?_put_of_ne opened hother]
    exact hopens.grows.entries other

end

end SchemaTyping.Command
