import Mathlib.Data.List.TakeWhile
import SchemaTyping.Command.FileTree
import SchemaTyping.Proofs.Json.Pointer

/-!
# Paths and their parents

A path's text is its parts with slashes between them (`toList_eq_intercalate`). The parent of a path that
ends with a name is the text of the parts before that name, without the idle ones at their end
(`exists_parent`). It is a proper beginning of the path, so a walk from parent to parent ends. Where the
parts of an absolute path before the name lead nowhere, the parent is the root.
-/

namespace SchemaTyping.Command

open Json (splitAt_eq_splitOn not_mem_of_mem_splitAt)
open Text (intercalate_append intercalate_cons)

/-! ### Parts -/

theorem toList_eq_intercalate (path : String) : path.toList = ['/'].intercalate (pathParts path) := by
  rw [pathParts, splitAt_eq_splitOn, List.intercalate_splitOn]

theorem pathParts_ofList {parts : List (List Char)} (hparts : parts ≠ [])
    (hfree : ∀ part ∈ parts, '/' ∉ part) :
    pathParts (String.ofList (['/'].intercalate parts)) = parts := by
  rw [pathParts, splitAt_eq_splitOn, String.toList_ofList, List.splitOn_intercalate '/' hfree hparts]

theorem not_mem_of_mem_pathParts {path : String} {part : List Char} (hpart : part ∈ pathParts path) :
    '/' ∉ part :=
  not_mem_of_mem_splitAt hpart

/-- A path has at least one part. -/
theorem exists_pathParts (path : String) : ∃ dirs name, pathParts path = dirs ++ [name] := by
  have hparts : pathParts path ≠ [] := by
    rw [pathParts, splitAt_eq_splitOn]
    exact List.splitOn_ne_nil _ _
  exact ⟨_, _, (List.dropLast_append_getLast hparts).symm⟩

/-- A path ends with a slash exactly if it ends with an empty part. -/
theorem getLast?_eq_slash_iff {path : String} {dirs : List (List Char)} {name : List Char}
    (hpath : path ≠ "") (hparts : pathParts path = dirs ++ [name]) :
    path.toList.getLast? = some '/' ↔ name = [] := by
  have htext := toList_eq_intercalate path
  have hfree : '/' ∉ name := not_mem_of_mem_pathParts (hparts ▸ List.mem_concat_self)
  rw [hparts] at htext
  cases dirs with
  | nil =>
    rw [List.nil_append, List.intercalate_singleton] at htext
    rw [htext]
    constructor
    · exact fun hlast => absurd (List.mem_of_getLast? hlast) hfree
    · rintro rfl
      exact absurd (String.toList_inj.1 htext) hpath
  | cons first rest =>
    have hsplit : path.toList = ['/'].intercalate (first :: rest) ++ '/' :: name := by
      rw [htext, intercalate_append (List.cons_ne_nil first rest)]
      simp
    rw [hsplit]
    rcases List.eq_nil_or_concat' name with rfl | ⟨before, c, rfl⟩
    · simp
    · have hc : c ≠ '/' := fun heq => hfree (by simp [heq])
      rw [← List.cons_append, ← List.append_assoc, List.getLast?_concat]
      simp [hc]

/-! ### Idle parts -/

def Idle (parts : List (List Char)) : Prop := ∀ part ∈ parts, isIdlePart part = true

theorem exists_trimParts (first : List Char) (rest : List (List Char)) :
    ∃ kept idle, rest = kept ++ idle ∧ Idle idle ∧ trimParts (first :: rest) = first :: kept ∧
      ∀ last ∈ kept.getLast?, isIdlePart last = false := by
  refine ⟨(rest.reverse.dropWhile isIdlePart).reverse, (rest.reverse.takeWhile isIdlePart).reverse, ?_,
    fun part hpart => ?_, rfl,
    fun last hlast => ?_⟩
  · rw [← List.reverse_append, List.takeWhile_append_dropWhile, List.reverse_reverse]
  · exact List.mem_takeWhile_imp (List.mem_reverse.1 hpart)
  · rw [List.getLast?_reverse] at hlast
    have hhead := List.head?_dropWhile_not isIdlePart rest.reverse
    rw [Option.mem_def.1 hlast] at hhead
    simpa using hhead

theorem trimParts_concat (first : List Char) (rest : List (List Char)) {name : List Char}
    (hname : isIdlePart name = false) :
    trimParts (first :: (rest ++ [name])) = first :: (rest ++ [name]) := by
  simp [trimParts, hname]

theorem ne_nil_of_not_idle {part : List Char} (hpart : isIdlePart part = false) : part ≠ [] := by
  rintro rfl
  cases hpart

/-- A path ends with a name, or is one part that is not empty. -/
def Trimmed (dirs : List (List Char)) (name : List Char) : Prop :=
  isIdlePart name = false ∨ dirs = [] ∧ name ≠ []

theorem Trimmed.ne_nil {dirs : List (List Char)} {name : List Char} (htrimmed : Trimmed dirs name) :
    name ≠ [] :=
  htrimmed.elim ne_nil_of_not_idle And.right

/-! ### Parents -/

/-- What the parent of a path stands for, given the parts before the name that the path ends with: the
same parts without the idle ones at their end. Where that would leave nothing, the parent is empty or the
root. -/
inductive ParentOf : List (List Char) → String → Prop
  | name : ParentOf [] ""
  | root {idle : List (List Char)} (hidle : Idle idle) : ParentOf ([] :: idle) "/"
  | trimmed {dirs idle : List (List Char)} {last : List Char} {parent : String}
    (hparts : pathParts parent = dirs ++ [last]) (htrimmed : Trimmed dirs last) (hidle : Idle idle) :
    ParentOf (dirs ++ [last] ++ idle) parent

theorem parentPath?_of_concat {path : String} {first name : List Char} {rest : List (List Char)}
    (hparts : pathParts path = first :: (rest ++ [name])) (hname : isIdlePart name = false) :
    parentPath? path = some (if trimParts (first :: rest) = [[]] then "/"
      else String.ofList (['/'].intercalate (trimParts (first :: rest)))) := by
  rw [parentPath?, hparts, trimParts_concat first rest hname]
  split
  · rename_i heq
    cases heq
  · rename_i heq
    simp at heq
  · rename_i heq
    simp at heq
  · rw [← List.cons_append, List.dropLast_concat]

/-- The parent of a path that ends with a name is a proper beginning of it, and stands for the parts
before the name. -/
theorem exists_parent {path : String} {dirs : List (List Char)} {name : List Char}
    (hparts : pathParts path = dirs ++ [name]) (htrimmed : Trimmed dirs name) :
    ∃ parent rest, parentPath? path = some parent ∧ path.toList = parent.toList ++ rest ∧ rest ≠ [] ∧
      ParentOf dirs parent := by
  have htext := toList_eq_intercalate path
  have hfree : ∀ part ∈ dirs ++ [name], '/' ∉ part :=
    fun part hpart => not_mem_of_mem_pathParts (hparts ▸ hpart)
  rw [hparts] at htext
  cases dirs with
  | nil =>
    refine ⟨"", name, ?_, by simpa using htext, htrimmed.ne_nil, .name⟩
    have hne := htrimmed.ne_nil
    rw [parentPath?, hparts]
    cases name with
    | nil => exact absurd rfl hne
    | cons c cs => rfl
  | cons first rest =>
    have hname : isIdlePart name = false :=
      htrimmed.resolve_right fun h => absurd h.1 (List.cons_ne_nil _ _)
    obtain ⟨kept, idle, rfl, hidle, htrim, hlast⟩ := exists_trimParts first rest
    have hbehind : ((idle ++ [name]).flatMap fun part => ['/'] ++ part) ≠ [] := by simp
    have hsplit : path.toList = ['/'].intercalate (first :: kept) ++ (idle ++ [name]).flatMap fun part =>
        ['/'] ++ part := by
      rw [htext, ← intercalate_append (List.cons_ne_nil first kept)]
      simp
    by_cases hroot : first = [] ∧ kept = []
    · obtain ⟨rfl, rfl⟩ := hroot
      -- all that is left of the parts is the slash that starts the path
      have hslash : path.toList = '/' :: ['/'].intercalate (idle ++ [name]) := by
        cases idle with
        | nil => simpa using hsplit
        | cons part idle => simpa [intercalate_cons] using hsplit
      have hrest : ['/'].intercalate (idle ++ [name]) ≠ [] := by
        cases idle with
        | nil => simpa using ne_nil_of_not_idle hname
        | cons part idle => simp [intercalate_cons]
      refine ⟨"/", _, ?_, hslash, hrest, .root hidle⟩
      rw [parentPath?_of_concat hparts hname, htrim, if_pos rfl]
    · have hkept : first :: kept ≠ [[]] :=
        fun heq => hroot ⟨(List.cons.inj heq).1, (List.cons.inj heq).2⟩
      have hfreeKept : ∀ part ∈ first :: kept, '/' ∉ part := fun part hpart => hfree part (by
        rw [← List.cons_append, List.append_assoc]
        exact List.mem_append_left _ hpart)
      have hparent := pathParts_ofList (List.cons_ne_nil first kept) hfreeKept
      refine ⟨String.ofList (['/'].intercalate (first :: kept)), _, ?_,
        by rw [String.toList_ofList, hsplit], hbehind, ?_⟩
      · rw [parentPath?_of_concat hparts hname, htrim, if_neg hkept]
      · rcases List.eq_nil_or_concat' kept with rfl | ⟨dirs, last, rfl⟩
        · exact @ParentOf.trimmed [] idle first _ hparent (.inr ⟨rfl, fun h => hroot ⟨h, rfl⟩⟩) hidle
        · rw [← List.cons_append] at hparent ⊢
          exact @ParentOf.trimmed (first :: dirs) idle last _ hparent (.inl (hlast last (by simp))) hidle

end SchemaTyping.Command
