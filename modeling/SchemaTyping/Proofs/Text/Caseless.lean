import SchemaTyping.Proofs.Text.Case

/-!
# Characters that capitalising does not bring in

A caseless character is no upper or lower case of another one, so a text without it is still without it
when it is capitalised (`not_mem_capitalize`). The brackets and the characters that end a line are such.
Which characters are is read off the tables: no run of them leads to the character, and it has no part in
a form of several characters.
-/

namespace SchemaTyping.Text

/-- A character that no other has among its case forms. -/
structure Caseless (mark : Char) : Prop where
  /-- A code point that is no character stands for this one. -/
  code : mark.toNat ≠ 0
  runs : ∀ run ∈ lowerRuns ++ upperRuns, (mark.toNat : Int) < run.first + run.offset ∨
    run.last + run.offset < mark.toNat
  expanding : ∀ entry ∈ expandingLower ++ expandingUpper, mark.toNat ∉ entry.2
  digraphs : mark ∉ ['ǅ', 'ǈ', 'ǋ', 'ǲ']

theorem caseless_newline : Caseless '\n' := by
  constructor <;> decide +kernel

theorem caseless_return : Caseless '\r' := by
  constructor <;> decide +kernel

theorem caseless_bracket : Caseless ']' := by
  constructor <;> decide +kernel

section

variable {mark c : Char}

theorem ofNat_ne {code : Nat} (hcode : code ≠ mark.toNat) (hzero : mark.toNat ≠ 0) :
    Char.ofNat code ≠ mark := by
  rintro rfl
  rcases toNat_ofNat_cases code with hsame | hnull
  · exact hcode hsame.symm
  · exact hzero hnull

theorem mapCode_ne {runs : List CaseRun} {code target : Nat} (hzero : target ≠ 0)
    (hruns : ∀ run ∈ runs, (target : Int) < run.first + run.offset ∨ run.last + run.offset < target)
    (hcode : code ≠ target) :
    mapCode runs code ≠ target := by
  unfold mapCode
  cases hrun : runs.find? (·.covers code) with
  | none => exact hcode
  | some run =>
    have himage := hruns run (List.mem_of_find?_eq_some hrun)
    have hcovers := List.find?_some hrun
    simp only [CaseRun.covers, Bool.and_eq_true, decide_eq_true_eq] at hcovers
    simp only
    omega

/-- The forms of one case: several characters from the one table, or the character that the other leads
to. -/
theorem not_mem_forms {runs : List CaseRun} {expanding : List (Nat × List Nat)} (hzero : mark.toNat ≠ 0)
    (hruns : ∀ run ∈ runs, (mark.toNat : Int) < run.first + run.offset ∨
      run.last + run.offset < mark.toNat)
    (hexpanding : ∀ entry ∈ expanding, mark.toNat ∉ entry.2) (hother : c ≠ mark) :
    mark ∉ match expanding.lookup c.toNat with
      | some codes => codes.map Char.ofNat
      | none => [Char.ofNat (mapCode runs c.toNat)] := by
  split
  · rename_i codes hcodes
    intro hmem
    obtain ⟨code, hcode, hmark⟩ := List.mem_map.1 hmem
    obtain ⟨before, after, rfl, _⟩ := List.lookup_eq_some_iff.1 hcodes
    refine ofNat_ne (fun hsame => ?_) hzero hmark
    exact hexpanding _ (List.mem_append_right _ List.mem_cons_self) (hsame ▸ hcode)
  · have hcode : c.toNat ≠ mark.toNat := fun hsame => hother (Char.toNat_inj.1 hsame)
    rw [List.mem_singleton]
    exact (ofNat_ne (mapCode_ne hzero hruns hcode) hzero).symm

namespace Caseless

variable (hcaseless : Caseless mark)

include hcaseless

theorem not_mem_lower (hother : c ≠ mark) : mark ∉ lower c :=
  not_mem_forms hcaseless.code (fun run hrun => hcaseless.runs run (List.mem_append_left _ hrun))
    (fun entry hentry => hcaseless.expanding entry (List.mem_append_left _ hentry)) hother

theorem not_mem_upper (hother : c ≠ mark) : mark ∉ upper c :=
  not_mem_forms hcaseless.code (fun run hrun => hcaseless.runs run (List.mem_append_right _ hrun))
    (fun entry hentry => hcaseless.expanding entry (List.mem_append_right _ hentry)) hother

theorem not_mem_flatMap_lower {text : List Char} (habsent : mark ∉ text) :
    mark ∉ text.flatMap lower := by
  intro hmem
  obtain ⟨c, hc, hmark⟩ := List.mem_flatMap.1 hmem
  refine hcaseless.not_mem_lower ?_ hmark
  rintro rfl
  exact habsent hc

theorem not_mem_title (hother : c ≠ mark) : mark ∉ title c := by
  have hupper := hcaseless.not_mem_upper hother
  unfold title
  split
  · rename_i digraph hdigraph
    have hfamily : digraph ∈ ['ǅ', 'ǈ', 'ǋ', 'ǲ'] := by
      unfold titleDigraph at hdigraph
      repeat' split at hdigraph
      all_goals first | (cases hdigraph; decide) | cases hdigraph
    rw [List.mem_singleton]
    rintro rfl
    exact hcaseless.digraphs hfamily
  · split
    · exact List.not_mem_nil
    · rename_i first more hforms
      rw [hforms, List.mem_cons, not_or] at hupper
      rw [List.mem_cons, not_or]
      exact ⟨hupper.1, hcaseless.not_mem_flatMap_lower hupper.2⟩

end Caseless

/-- Capitalising a text does not bring a caseless character in. -/
theorem not_mem_capitalize (hcaseless : Caseless mark) {text : String} (habsent : mark ∉ text.toList) :
    mark ∉ (capitalize text).toList := by
  rw [capitalize, String.toList_ofList]
  cases htext : text.toList with
  | nil => exact List.not_mem_nil
  | cons c rest =>
    rw [htext, List.mem_cons, not_or] at habsent
    rw [capitalizeChars, List.mem_append, not_or]
    exact ⟨hcaseless.not_mem_title (Ne.symm habsent.1), hcaseless.not_mem_flatMap_lower habsent.2⟩

end

end SchemaTyping.Text
