import Mathlib.Data.Bool.AllAny
import SchemaTyping.Proofs.Text.CaseTable

/-!
# Capitalised names are stable

A capitalised text is its own capitalised form, and two ASCII texts have the same capitalised form
exactly when they differ in case only (`capitalize_stable`). Both tables settle, so what is in lower case
is lowered to itself, and the first character of a title form is its own title form.
-/

namespace SchemaTyping.Text

/-! ### Lower case -/

/-- What is in lower case is lowered to itself. -/
theorem lower_of_mem_lower {c d : Char} (hmem : d ∈ lower c) : lower d = [d] := by
  have hexpanded : ∀ entry ∈ expandingLower, ∀ code ∈ entry.2,
      Untouched lowerRuns expandingLower (Char.ofNat code).toNat := by
    decide +kernel
  rw [lower_eq_forms] at hmem
  rw [lower_eq_forms]
  refine forms_of_untouched ?_
  rcases forms_cases lowerRuns expandingLower c with ⟨entry, hentry, _, hforms⟩ | ⟨hsingle, hforms⟩
  · rw [hforms] at hmem
    obtain ⟨code, hcode, rfl⟩ := List.mem_map.1 hmem
    exact hexpanded entry hentry code hcode
  · rw [hforms] at hmem
    obtain rfl := List.mem_singleton.1 hmem
    exact settles_lower.untouched_form hsingle

/-- Characters that are in lower case stay as they are. -/
theorem flatMap_lower_eq_self {text : List Char} (hlowered : ∀ d ∈ text, lower d = [d]) :
    text.flatMap lower = text := by
  rw [List.flatMap_congr hlowered]
  exact List.flatMap_singleton' text

theorem lower_of_mem_flatMap_lower {text : List Char} {d : Char} (hmem : d ∈ text.flatMap lower) :
    lower d = [d] := by
  obtain ⟨c, _, hd⟩ := List.mem_flatMap.1 hmem
  exact lower_of_mem_lower hd

/-! ### Title forms -/

/-- The characters with a title form of their own. -/
def digraphs : List Char := ['Ǆ', 'ǅ', 'ǆ', 'Ǉ', 'ǈ', 'ǉ', 'Ǌ', 'ǋ', 'ǌ', 'Ǳ', 'ǲ', 'ǳ']

theorem titleDigraph_eq_none {c : Char} (hother : c ∉ digraphs) : titleDigraph c = none := by
  simp only [digraphs, List.mem_cons, List.not_mem_nil, or_false, not_or] at hother
  simp only [titleDigraph, List.mem_cons, List.not_mem_nil, or_false, hother, if_false]

/-- A case form with all but its first character lowered. -/
def lowerTail : List Char → List Char
  | [] => []
  | first :: more => first :: more.flatMap lower

theorem title_eq_lowerTail {c : Char} (hother : c ∉ digraphs) : title c = lowerTail (upper c) := by
  rw [title, titleDigraph_eq_none hother]
  cases upper c <;> rfl

theorem title_of_untouched {c : Char} (hother : c ∉ digraphs)
    (huntouched : Untouched upperRuns expandingUpper c.toNat) :
    title c = [c] := by
  have hupper : upper c = [c] := forms_of_untouched huntouched
  rw [title_eq_lowerTail hother, hupper]
  rfl

/-- Only a digraph has a digraph for its upper case. -/
theorem ofNat_mapCode_not_mem_digraphs {c : Char} (hother : c ∉ digraphs) :
    Char.ofNat (mapCode upperRuns c.toNat) ∉ digraphs := by
  have hruns : ∀ run ∈ upperRuns, (run.first = run.last ∧ Char.ofNat run.first ∈ digraphs) ∨
      ∀ code ∈ digraphs.map Char.toNat, run.image.meets ⟨code, code, 1, 0⟩ = false := by decide +kernel
  have hnull : Char.ofNat 0 ∉ digraphs := by decide
  intro hdigraph
  rcases mapCode_cases upperRuns c.toNat with ⟨hsame, _⟩ | ⟨run, hrun, hcovers, himage⟩
  · rw [hsame, Char.ofNat_toNat] at hdigraph
    exact hother hdigraph
  · obtain ⟨hfirst, hlast, _⟩ := CaseRun.covers_iff.1 hcovers
    rcases hruns run hrun with ⟨hsingle, hsource⟩ | hapart
    · have hcode : run.first = c.toNat := by omega
      rw [hcode, Char.ofNat_toNat] at hsource
      exact hother hsource
    · have hcoversImage := CaseRun.covers_image (settles_upper.positive run hrun) hcovers
      rw [← himage] at hcoversImage
      have huncovered :=
        CaseRun.not_covers_of_not_meets (hapart _ (List.mem_map_of_mem hdigraph)) hcoversImage
      rcases toNat_ofNat_cases (mapCode upperRuns c.toNat) with hvalid | hzero
      · rw [hvalid, ← Bool.not_eq_true, CaseRun.covers_iff] at huncovered
        exact huncovered ⟨Nat.le_refl _, Nat.le_refl _, Nat.mod_one _⟩
      · have hsame : Char.ofNat (mapCode upperRuns c.toNat) = Char.ofNat 0 := Char.toNat_inj.1 hzero
        rw [hsame] at hdigraph
        exact hnull hdigraph

/-- A title form starts with a character that is its own title form, and goes on in lower case. -/
theorem exists_title (c : Char) :
    ∃ first more, title c = first :: more ∧ title first = [first] ∧ ∀ d ∈ more, lower d = [d] := by
  have hdigraphs : ∀ d ∈ digraphs, (titleDigraph d).any (fun t => titleDigraph t = some t) = true :=
    List.all_iff_forall_prop.1 (by decide +kernel)
  have hexpanded : ∀ entry ∈ expandingUpper, ∃ code ∈ entry.2.head?,
      Char.ofNat code ∉ digraphs ∧ Untouched upperRuns expandingUpper (Char.ofNat code).toNat := by
    decide +kernel
  by_cases hdigraph : c ∈ digraphs
  · obtain ⟨t, htitle, hfixed⟩ := (Option.any_eq_true _ _).1 (hdigraphs c hdigraph)
    rw [decide_eq_true_iff] at hfixed
    refine ⟨t, [], ?_, ?_, List.forall_mem_nil _⟩
    · rw [title, htitle]
    · rw [title, hfixed]
  · rw [title_eq_lowerTail hdigraph, upper_eq_forms]
    rcases forms_cases upperRuns expandingUpper c with ⟨entry, hentry, _, hforms⟩ | ⟨hsingle, hforms⟩
    · obtain ⟨code, hcode, hother, huntouched⟩ := hexpanded entry hentry
      obtain ⟨more, hcodes⟩ : ∃ more, entry.2 = code :: more := List.head?_eq_some_iff.1 hcode
      refine ⟨Char.ofNat code, (more.map Char.ofNat).flatMap lower, ?_,
        title_of_untouched hother huntouched, ?_⟩
      · rw [hforms, hcodes, List.map_cons, lowerTail]
      · exact fun d hd => lower_of_mem_flatMap_lower hd
    · refine ⟨Char.ofNat (mapCode upperRuns c.toNat), [], ?_, ?_, List.forall_mem_nil _⟩
      · rw [hforms, lowerTail, List.flatMap_nil]
      · exact title_of_untouched (ofNat_mapCode_not_mem_digraphs hdigraph)
          (settles_upper.untouched_form hsingle)

/-- Capitalising twice is capitalising once. -/
theorem capitalizeChars_idem (text : List Char) :
    capitalizeChars (capitalizeChars text) = capitalizeChars text := by
  cases text with
  | nil => rfl
  | cons c rest =>
    obtain ⟨first, more, htitle, hfirst, hmore⟩ := exists_title c
    have hlowered : ∀ d ∈ more ++ rest.flatMap lower, lower d = [d] := by
      intro d hd
      rcases List.mem_append.1 hd with hd | hd
      · exact hmore d hd
      · exact lower_of_mem_flatMap_lower hd
    rw [capitalizeChars, htitle, List.cons_append, capitalizeChars, hfirst,
      flatMap_lower_eq_self hlowered, List.singleton_append]

/-! ### ASCII texts -/

/-- A property of the ASCII characters, by their code points. -/
theorem forall_ascii {p : Char → Prop} (hcodes : ∀ code < 128, p (Char.ofNat code)) {c : Char}
    (hascii : c.toNat < 128) : p c := by
  have hc := hcodes c.toNat hascii
  rwa [Char.ofNat_toNat] at hc

/-- The character that a run makes of a character, itself if the run does not cover it. -/
def CaseRun.form (run : CaseRun) (c : Char) : Char :=
  Char.ofNat (if run.covers c.toNat then (c.toNat + run.offset).toNat else c.toNat)

/-- If all that a table moves by anything but its first run lies behind ASCII, that run makes the form of
an ASCII character. -/
theorem forms_ascii {run : CaseRun} {runs : List CaseRun} {expanding : List (Nat × List Nat)}
    (hbehind : ∀ other ∈ movedRuns runs expanding, 128 ≤ other.first) {c : Char}
    (hascii : c.toNat < 128) :
    forms (run :: runs) expanding c = [run.form c] := by
  have huntouched : Untouched runs expanding c.toNat := by
    intro other hother
    have hfirst := hbehind other hother
    rw [← Bool.not_eq_true, CaseRun.covers_iff]
    omega
  obtain ⟨huncovered, hsingle⟩ := untouched_iff.1 huntouched
  rw [forms, lookup_eq_none hsingle, CaseRun.form]
  cases hcovers : run.covers c.toNat with
  | true => simp only [mapCode, List.find?_cons, hcovers, if_true]
  | false =>
    have hrest : mapCode (run :: runs) c.toNat = mapCode runs c.toNat := by
      simp only [mapCode, List.find?_cons, hcovers]
    simp only [hrest, mapCode_of_uncovered huncovered, Bool.false_eq_true, if_false]

theorem lower_ascii {c : Char} (hascii : c.toNat < 128) : lower c = [c.toLower] := by
  have hletters : ∀ code < 128,
      CaseRun.form ⟨0x41, 0x5A, 1, 32⟩ (Char.ofNat code) = (Char.ofNat code).toLower := by decide
  have hforms : lower c = _ := forms_ascii (by decide +kernel) hascii
  rw [hforms, forall_ascii (p := fun c => CaseRun.form ⟨0x41, 0x5A, 1, 32⟩ c = c.toLower)
    hletters hascii]

theorem title_ascii {c : Char} (hascii : c.toNat < 128) : title c = [c.toUpper] := by
  have hletters : ∀ code < 128,
      CaseRun.form ⟨0x61, 0x7A, 1, -32⟩ (Char.ofNat code) = (Char.ofNat code).toUpper := by decide
  have hbehind : ∀ d ∈ digraphs, 128 ≤ d.toNat := List.all_iff_forall_prop.1 (by decide)
  have hother : c ∉ digraphs := fun hmem => Nat.not_lt.2 (hbehind c hmem) hascii
  have hforms : upper c = _ := forms_ascii (by decide +kernel) hascii
  rw [title_eq_lowerTail hother, hforms,
    forall_ascii (p := fun c => CaseRun.form ⟨0x61, 0x7A, 1, -32⟩ c = c.toUpper) hletters hascii]
  rfl

/-- Two ASCII characters have the same capital exactly when they have the same small letter. -/
theorem toUpper_eq_toUpper_iff {c d : Char} (hc : c.toNat < 128) (hd : d.toNat < 128) :
    c.toUpper = d.toUpper ↔ c.toLower = d.toLower := by
  have hlower : ∀ {c : Char}, c.toNat < 128 → c.toUpper.toLower = c.toLower :=
    forall_ascii (p := fun c => c.toUpper.toLower = c.toLower) (by decide)
  have hupper : ∀ {c : Char}, c.toNat < 128 → c.toLower.toUpper = c.toUpper :=
    forall_ascii (p := fun c => c.toLower.toUpper = c.toUpper) (by decide)
  constructor
  · intro hsame
    rw [← hlower hc, ← hlower hd, hsame]
  · intro hsame
    rw [← hupper hc, ← hupper hd, hsame]

theorem flatMap_lower_ascii {text : List Char} (hascii : ∀ c ∈ text, c.toNat < 128) :
    text.flatMap lower = text.map Char.toLower := by
  rw [List.map_eq_flatMap]
  exact List.flatMap_congr fun c hc => lower_ascii (hascii c hc)

theorem capitalizeChars_eq_iff {first second : List Char} (hfirst : ∀ c ∈ first, c.toNat < 128)
    (hsecond : ∀ c ∈ second, c.toNat < 128) :
    capitalizeChars first = capitalizeChars second ↔
      first.map Char.toLower = second.map Char.toLower := by
  cases first with
  | nil => cases second with
    | nil => exact Iff.rfl
    | cons d second =>
      obtain ⟨hd, _⟩ := List.forall_mem_cons.1 hsecond
      rw [capitalizeChars, capitalizeChars, title_ascii hd]
      constructor <;> intro hsame <;> cases hsame
  | cons c first =>
    obtain ⟨hc, hfirst⟩ := List.forall_mem_cons.1 hfirst
    cases second with
    | nil =>
      rw [capitalizeChars, capitalizeChars, title_ascii hc]
      constructor <;> intro hsame <;> cases hsame
    | cons d second =>
      obtain ⟨hd, hsecond⟩ := List.forall_mem_cons.1 hsecond
      rw [capitalizeChars, capitalizeChars, title_ascii hc, title_ascii hd, flatMap_lower_ascii hfirst,
        flatMap_lower_ascii hsecond, List.singleton_append, List.singleton_append, List.map_cons,
        List.map_cons, List.cons.injEq, List.cons.injEq, toUpper_eq_toUpper_iff hc hd]

/-- **Capitalised names are stable, and collide on case alone.** The capitalised form of a text is its
own capitalised form. Two ASCII texts have the same capitalised form exactly when they are equal up to
the case of their letters. -/
theorem capitalize_stable :
    (∀ text, capitalize (capitalize text) = capitalize text) ∧
    ∀ first second : String, (∀ c ∈ first.toList, c.toNat < 128) → (∀ c ∈ second.toList, c.toNat < 128) →
      (capitalize first = capitalize second ↔
        first.toList.map Char.toLower = second.toList.map Char.toLower) := by
  constructor
  · intro text
    rw [capitalize, capitalize, String.toList_ofList, capitalizeChars_idem]
  · intro first second hfirst hsecond
    rw [capitalize, capitalize, String.ofList_inj]
    exact capitalizeChars_eq_iff hfirst hsecond

theorem capitalize_stable_petName :
    (∀ c ∈ "petName".toList, c.toNat < 128) ∧ (∀ c ∈ "PETNAME".toList, c.toNat < 128) ∧
      capitalize "petName" = capitalize "PETNAME" := by
  have hfirst : ∀ c ∈ "petName".toList, c.toNat < 128 := List.all_iff_forall_prop.1 (by decide)
  have hsecond : ∀ c ∈ "PETNAME".toList, c.toNat < 128 := List.all_iff_forall_prop.1 (by decide)
  exact ⟨hfirst, hsecond, (capitalize_stable.2 "petName" "PETNAME" hfirst hsecond).2 (by decide)⟩

end SchemaTyping.Text
