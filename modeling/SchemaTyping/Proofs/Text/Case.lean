import SchemaTyping.Text.Case

/-!
# Capitals in capitalised names

Lower case has no capital letter of the alphabet, whatever it was lowered from. So in a capitalised name
such a letter can only stand first, and a name that has one further on is no capitalised name.
-/

namespace SchemaTyping.Text

theorem isUpper_eq_false_iff {c : Char} : c.isUpper = false ↔ c.toNat < 65 ∨ 90 < c.toNat := by
  have hcapital : c.isUpper = decide (65 ≤ c.toNat ∧ c.toNat ≤ 90) := rfl
  rw [hcapital, decide_eq_false_iff_not]
  omega

/-- Every run of letters that have a lower case leads behind the capitals, and the capitals themselves
are a run. -/
theorem mapCode_lowerRuns (code : Nat) : mapCode lowerRuns code < 65 ∨ 90 < mapCode lowerRuns code := by
  have himages : ∀ run ∈ lowerRuns, 90 < (run.first : Int) + run.offset := by decide +kernel
  unfold mapCode
  cases hrun : lowerRuns.find? (·.covers code) with
  | none =>
    have hcapitals := List.find?_eq_none.1 hrun ⟨0x41, 0x5A, 1, 32⟩ List.mem_cons_self
    simp only [CaseRun.covers, Bool.and_eq_true, decide_eq_true_eq, Nat.mod_one, beq_self_eq_true,
      and_true] at hcapitals
    simp only
    omega
  | some run =>
    have himage := himages run (List.mem_of_find?_eq_some hrun)
    have hcovers := List.find?_some hrun
    simp only [CaseRun.covers, Bool.and_eq_true, decide_eq_true_eq] at hcovers
    simp only
    omega

theorem toNat_ofNat_cases (code : Nat) :
    (Char.ofNat code).toNat = code ∨ (Char.ofNat code).toNat = 0 := by
  by_cases hvalid : code.isValidChar
  · have hchar : Char.ofNat code = Char.ofNatAux code hvalid := dif_pos hvalid
    exact .inl (congrArg Char.toNat hchar)
  · have hchar : Char.ofNat code = Char.ofNat 0 := dif_neg hvalid
    exact .inr (congrArg Char.toNat hchar)

theorem isUpper_of_mem_lower {c d : Char} (hmem : d ∈ lower c) : d.isUpper = false := by
  unfold lower at hmem
  split at hmem
  · rename_i codes hcodes
    have hdotted : codes = [0x69, 0x307] := by
      unfold expandingLower at hcodes
      rw [List.lookup_cons] at hcodes
      split at hcodes
      · exact (Option.some.inj hcodes).symm
      · cases hcodes
    subst hdotted
    have hclosed : ([0x69, 0x307].map Char.ofNat).all (!·.isUpper) = true := by decide
    simpa using List.all_eq_true.1 hclosed d hmem
  · obtain rfl := List.mem_singleton.1 hmem
    rw [isUpper_eq_false_iff]
    rcases toNat_ofNat_cases (mapCode lowerRuns c.toNat) with hsame | hzero
    · rw [hsame]
      exact mapCode_lowerRuns c.toNat
    · omega

theorem isUpper_of_mem_flatMap_lower {text : List Char} {d : Char} (hmem : d ∈ text.flatMap lower) :
    d.isUpper = false := by
  obtain ⟨c, _, hd⟩ := List.mem_flatMap.1 hmem
  exact isUpper_of_mem_lower hd

theorem isUpper_of_mem_tail_title {c d : Char} (hmem : d ∈ (title c).tail) : d.isUpper = false := by
  unfold title at hmem
  split at hmem
  · cases hmem
  · split at hmem
    · cases hmem
    · exact isUpper_of_mem_flatMap_lower hmem

/-- Behind the first character of a capitalised text there is no capital. -/
theorem isUpper_of_mem_tail_capitalizeChars {text : List Char} {d : Char}
    (hmem : d ∈ (capitalizeChars text).tail) :
    d.isUpper = false := by
  cases text with
  | nil => cases hmem
  | cons c rest =>
    rw [capitalizeChars] at hmem
    cases htitle : title c with
    | nil =>
      rw [htitle, List.nil_append] at hmem
      exact isUpper_of_mem_flatMap_lower (List.mem_of_mem_tail hmem)
    | cons first more =>
      rw [htitle, List.cons_append, List.tail_cons] at hmem
      rcases List.mem_append.1 hmem with hmore | hrest
      · refine isUpper_of_mem_tail_title (c := c) ?_
        rw [htitle]
        exact hmore
      · exact isUpper_of_mem_flatMap_lower hrest

/-- A text with a capital behind its first character is not the capitalised form of any. -/
theorem capitalize_ne {name : String} (hcapital : name.toList.tail.any Char.isUpper = true)
    (text : String) :
    capitalize text ≠ name := by
  rintro rfl
  obtain ⟨d, hmem, hupper⟩ := List.any_eq_true.1 hcapital
  rw [capitalize, String.toList_ofList] at hmem
  rw [isUpper_of_mem_tail_capitalizeChars hmem] at hupper
  cases hupper

end SchemaTyping.Text
