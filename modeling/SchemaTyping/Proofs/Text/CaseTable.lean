import Mathlib.Data.List.Basic
import Mathlib.Data.Nat.ModEq
import SchemaTyping.Proofs.Text.Case

/-!
# Case tables that settle

A table of runs settles if no run leads to a code point that the table moves or expands: what a character
has been mapped to then stays as it is when it is mapped again. Both case tables settle. This is decided
run by run, by the bounds of two runs and the residues that their steps keep, since going through all
code points would take the kernel minutes.
-/

namespace SchemaTyping.Text

/-! ### Runs -/

/-- The run of the code points that a run leads to. -/
def CaseRun.image (run : CaseRun) : CaseRun :=
  ⟨(run.first + run.offset).toNat, (run.last + run.offset).toNat, run.step, 0⟩

/-- Whether two runs may have a code point in common. They have none if one ends before the other starts,
or if the residues in which they start differ and their steps keep them. -/
def CaseRun.meets (run other : CaseRun) : Bool :=
  Nat.ble other.first run.last && Nat.ble run.first other.last &&
    !((run.first == run.last || run.step % other.step == 0) &&
      run.first % other.step != other.first % other.step)

theorem CaseRun.covers_iff {run : CaseRun} {code : Nat} :
    run.covers code = true ↔ run.first ≤ code ∧ code ≤ run.last ∧ (code - run.first) % run.step = 0 := by
  simp only [CaseRun.covers, Bool.and_eq_true, decide_eq_true_eq, beq_iff_eq, and_assoc]

/-- A code point of a run leaves over what the run's first one does. -/
theorem CaseRun.mod_eq_of_covers {run : CaseRun} {code step : Nat} (hcovers : run.covers code = true)
    (hstep : step ∣ run.step) :
    code % step = run.first % step := by
  obtain ⟨hfirst, _, hmod⟩ := CaseRun.covers_iff.1 hcovers
  have hdvd : step ∣ code - run.first := Nat.dvd_trans hstep (Nat.dvd_of_mod_eq_zero hmod)
  exact ((Nat.modEq_iff_dvd' hfirst).2 hdvd).symm

theorem CaseRun.not_covers_of_not_meets {run other : CaseRun} (hapart : run.meets other = false)
    {code : Nat} (hrun : run.covers code = true) : other.covers code = false := by
  by_contra hother
  rw [Bool.not_eq_false] at hother
  obtain ⟨hfirst, hlast, _⟩ := CaseRun.covers_iff.1 hrun
  obtain ⟨hfirst', hlast', _⟩ := CaseRun.covers_iff.1 hother
  have hstart : Nat.ble other.first run.last = true := Nat.ble_eq_true_of_le (Nat.le_trans hfirst' hlast)
  have hend : Nat.ble run.first other.last = true := Nat.ble_eq_true_of_le (Nat.le_trans hfirst hlast')
  simp only [CaseRun.meets, hstart, hend, Bool.true_and, Bool.not_eq_false', Bool.and_eq_true,
    Bool.or_eq_true, beq_iff_eq, bne_iff_ne] at hapart
  obtain ⟨hresidue, hne⟩ := hapart
  have hsame : code % other.step = run.first % other.step := by
    rcases hresidue with hsingle | hdvd
    · have hcode : code = run.first := by omega
      rw [hcode]
    · exact CaseRun.mod_eq_of_covers hrun (Nat.dvd_of_mod_eq_zero hdvd)
  exact hne (hsame.symm.trans (CaseRun.mod_eq_of_covers hother (Nat.dvd_refl _)))

theorem CaseRun.covers_image {run : CaseRun} (hpositive : 0 ≤ run.first + run.offset) {code : Nat}
    (hcovers : run.covers code = true) :
    run.image.covers (code + run.offset).toNat = true := by
  obtain ⟨hfirst, hlast, hmod⟩ := CaseRun.covers_iff.1 hcovers
  have hdistance : (code + run.offset).toNat - run.image.first = code - run.first := by
    simp only [CaseRun.image]
    omega
  rw [CaseRun.covers_iff, hdistance]
  refine ⟨?_, ?_, hmod⟩
  · simp only [CaseRun.image]
    omega
  · simp only [CaseRun.image]
    omega

/-! ### Tables -/

theorem mapCode_cases (runs : List CaseRun) (code : Nat) :
    (mapCode runs code = code ∧ ∀ run ∈ runs, run.covers code = false) ∨
      ∃ run ∈ runs, run.covers code = true ∧ mapCode runs code = (code + run.offset).toNat := by
  unfold mapCode
  cases hrun : runs.find? (·.covers code) with
  | none => exact .inl ⟨rfl, fun run hmem => Bool.eq_false_iff.2 (List.find?_eq_none.1 hrun run hmem)⟩
  | some run =>
    have hcovers := List.find?_some hrun
    exact .inr ⟨run, List.mem_of_find?_eq_some hrun, hcovers, rfl⟩

/-- The forms of a character under a table of runs and one of expansions. -/
def forms (runs : List CaseRun) (expanding : List (Nat × List Nat)) (c : Char) : List Char :=
  match expanding.lookup c.toNat with
  | some codes => codes.map Char.ofNat
  | none => [Char.ofNat (mapCode runs c.toNat)]

theorem lower_eq_forms (c : Char) : lower c = forms lowerRuns expandingLower c := rfl

theorem upper_eq_forms (c : Char) : upper c = forms upperRuns expandingUpper c := rfl

/-- The runs of the code points that a table moves. An expanding one is a run of its own. -/
def movedRuns (runs : List CaseRun) (expanding : List (Nat × List Nat)) : List CaseRun :=
  runs ++ expanding.map fun entry => ⟨entry.1, entry.1, 1, 0⟩

/-- Code points that a table leaves as they are. -/
def Untouched (runs : List CaseRun) (expanding : List (Nat × List Nat)) (code : Nat) : Prop :=
  ∀ run ∈ movedRuns runs expanding, run.covers code = false

instance (runs : List CaseRun) (expanding : List (Nat × List Nat)) (code : Nat) :
    Decidable (Untouched runs expanding code) :=
  inferInstanceAs (Decidable (∀ run ∈ movedRuns runs expanding, run.covers code = false))

/-- Tables whose runs lead to code points that the table leaves as they are. -/
structure Settles (runs : List CaseRun) (expanding : List (Nat × List Nat)) : Prop where
  positive : ∀ run ∈ runs, 0 ≤ run.first + run.offset
  apart : (runs.any fun run => (movedRuns runs expanding).any fun other => run.image.meets other) = false
  /-- A code point that is no character stands for this one. -/
  null : Untouched runs expanding 0

theorem settles_lower : Settles lowerRuns expandingLower := by
  constructor <;> decide +kernel

theorem settles_upper : Settles upperRuns expandingUpper := by
  constructor <;> decide +kernel

section

variable {runs : List CaseRun} {expanding : List (Nat × List Nat)}

theorem untouched_iff {code : Nat} :
    Untouched runs expanding code ↔ (∀ run ∈ runs, run.covers code = false) ∧ ∀ entry ∈ expanding,
      entry.1 ≠ code := by
  have hsingle : ∀ entry : Nat × List Nat, CaseRun.covers ⟨entry.1, entry.1, 1, 0⟩ code = false ↔
      entry.1 ≠ code := by
    intro entry
    rw [← not_iff_not, Bool.not_eq_false, not_not, CaseRun.covers_iff]
    simp only [Nat.mod_one, and_true]
    omega
  rw [Untouched, movedRuns, List.forall_mem_append, List.forall_mem_map]
  exact and_congr_right' (forall₂_congr fun entry _ => hsingle entry)

theorem lookup_eq_none {code : Nat} (hother : ∀ entry ∈ expanding, entry.1 ≠ code) :
    expanding.lookup code = none := by
  rw [List.lookup_eq_none_iff]
  intro entry hentry
  exact bne_iff_ne.2 (Ne.symm (hother entry hentry))

/-- A character expands, or has one form. -/
theorem forms_cases (runs : List CaseRun) (expanding : List (Nat × List Nat)) (c : Char) :
    (∃ entry ∈ expanding, entry.1 = c.toNat ∧ forms runs expanding c = entry.2.map Char.ofNat) ∨
      (∀ entry ∈ expanding, entry.1 ≠ c.toNat) ∧
        forms runs expanding c = [Char.ofNat (mapCode runs c.toNat)] := by
  unfold forms
  cases hlookup : expanding.lookup c.toNat with
  | none =>
    have hother := List.lookup_eq_none_iff.1 hlookup
    exact .inr ⟨fun entry hentry => Ne.symm (bne_iff_ne.1 (hother entry hentry)), rfl⟩
  | some codes =>
    obtain ⟨before, after, htable, _⟩ := List.lookup_eq_some_iff.1 hlookup
    exact .inl ⟨(c.toNat, codes), htable ▸ List.mem_append_right _ List.mem_cons_self, rfl, rfl⟩

theorem mapCode_of_uncovered {code : Nat} (huncovered : ∀ run ∈ runs, run.covers code = false) :
    mapCode runs code = code := by
  rcases mapCode_cases runs code with ⟨hsame, _⟩ | ⟨run, hrun, hcovers, _⟩
  · exact hsame
  · rw [huncovered run hrun] at hcovers
    cases hcovers

theorem forms_of_untouched {c : Char} (huntouched : Untouched runs expanding c.toNat) :
    forms runs expanding c = [c] := by
  obtain ⟨huncovered, hsingle⟩ := untouched_iff.1 huntouched
  rw [forms, lookup_eq_none hsingle]
  simp only [mapCode_of_uncovered huncovered, Char.ofNat_toNat]

namespace Settles

variable (hsettles : Settles runs expanding)

include hsettles

theorem untouched_image {run : CaseRun} (hrun : run ∈ runs) {code : Nat}
    (hcovers : run.covers code = true) :
    Untouched runs expanding (code + run.offset).toNat := by
  intro other hother
  have hapart := Bool.eq_false_iff.2 (List.any_eq_false.1 hsettles.apart run hrun)
  have hmeets := Bool.eq_false_iff.2 (List.any_eq_false.1 hapart other hother)
  exact CaseRun.not_covers_of_not_meets hmeets
    (CaseRun.covers_image (hsettles.positive run hrun) hcovers)

/-- The form of a character that does not expand is left as it is. -/
theorem untouched_form {c : Char} (hsingle : ∀ entry ∈ expanding, entry.1 ≠ c.toNat) :
    Untouched runs expanding (Char.ofNat (mapCode runs c.toNat)).toNat := by
  rcases toNat_ofNat_cases (mapCode runs c.toNat) with hvalid | hnull
  · rw [hvalid]
    rcases mapCode_cases runs c.toNat with ⟨hsame, huncovered⟩ | ⟨run, hrun, hcovers, himage⟩
    · rw [hsame]
      exact untouched_iff.2 ⟨huncovered, hsingle⟩
    · rw [himage]
      exact hsettles.untouched_image hrun hcovers
  · rw [hnull]
    exact hsettles.null

end Settles

end

end SchemaTyping.Text
