import SchemaTyping.Proofs.Text.Capitalized
import SchemaTyping.Proofs.Text.FinalSigma

/-!
# Title case and the capitalised form

The title case of the Unicode character database is the form of a letter that starts a word: `ǆ` becomes
`ǅ`, a Georgian letter stays small, and a Greek letter keeps its iota as a mark. A text is capitalised by
it if its first character is in title case and the rest in the lower case of the text, where a sigma at
the end of a word is final. `capitalize` makes do with upper case for the first character and lowers one
character at a time. The two agree exactly on the texts that do not start with one of the letters of
`irregularRanges` and have no capital sigma at the end of a word behind their first character
(`capitalize_eq_capitalizeWord_iff`).
-/

namespace SchemaTyping.Text

/-! ### Title case -/

/-- Code points whose title case is another character than their upper case, or one character where that
takes more. -/
def titleRuns : List CaseRun := [
  ⟨0x1C4, 0x1C4, 1, 1⟩, ⟨0x1C5, 0x1C5, 1, 0⟩, ⟨0x1C6, 0x1C6, 1, -1⟩, ⟨0x1C7, 0x1C7, 1, 1⟩,
  ⟨0x1C8, 0x1C8, 1, 0⟩, ⟨0x1C9, 0x1C9, 1, -1⟩, ⟨0x1CA, 0x1CA, 1, 1⟩, ⟨0x1CB, 0x1CB, 1, 0⟩,
  ⟨0x1CC, 0x1CC, 1, -1⟩, ⟨0x1F1, 0x1F1, 1, 1⟩, ⟨0x1F2, 0x1F2, 1, 0⟩, ⟨0x1F3, 0x1F3, 1, -1⟩,
  ⟨0x10D0, 0x10FA, 1, 0⟩, ⟨0x10FD, 0x10FF, 1, 0⟩, ⟨0x1F80, 0x1F87, 1, 8⟩,
  ⟨0x1F90, 0x1F97, 1, 8⟩, ⟨0x1FA0, 0x1FA7, 1, 8⟩, ⟨0x1FB3, 0x1FB3, 1, 9⟩, ⟨0x1FC3, 0x1FC3, 1, 9⟩,
  ⟨0x1FF3, 0x1FF3, 1, 9⟩]

/-- Code points whose title case takes two or three characters. -/
def expandingTitle : List (Nat × List Nat) := [
  (0xDF, [0x53, 0x73]), (0x149, [0x2BC, 0x4E]), (0x1F0, [0x4A, 0x30C]), (0x390, [0x399, 0x308, 0x301]),
  (0x3B0, [0x3A5, 0x308, 0x301]), (0x587, [0x535, 0x582]), (0x1E96, [0x48, 0x331]),
  (0x1E97, [0x54, 0x308]), (0x1E98, [0x57, 0x30A]), (0x1E99, [0x59, 0x30A]), (0x1E9A, [0x41, 0x2BE]),
  (0x1F50, [0x3A5, 0x313]), (0x1F52, [0x3A5, 0x313, 0x300]), (0x1F54, [0x3A5, 0x313, 0x301]),
  (0x1F56, [0x3A5, 0x313, 0x342]), (0x1FB2, [0x1FBA, 0x345]), (0x1FB4, [0x386, 0x345]),
  (0x1FB6, [0x391, 0x342]), (0x1FB7, [0x391, 0x342, 0x345]), (0x1FC2, [0x1FCA, 0x345]),
  (0x1FC4, [0x389, 0x345]), (0x1FC6, [0x397, 0x342]), (0x1FC7, [0x397, 0x342, 0x345]),
  (0x1FD2, [0x399, 0x308, 0x300]), (0x1FD3, [0x399, 0x308, 0x301]), (0x1FD6, [0x399, 0x342]),
  (0x1FD7, [0x399, 0x308, 0x342]), (0x1FE2, [0x3A5, 0x308, 0x300]), (0x1FE3, [0x3A5, 0x308, 0x301]),
  (0x1FE4, [0x3A1, 0x313]), (0x1FE6, [0x3A5, 0x342]), (0x1FE7, [0x3A5, 0x308, 0x342]),
  (0x1FF2, [0x1FFA, 0x345]), (0x1FF4, [0x38F, 0x345]), (0x1FF6, [0x3A9, 0x342]),
  (0x1FF7, [0x3A9, 0x342, 0x345]), (0xFB00, [0x46, 0x66]), (0xFB01, [0x46, 0x69]),
  (0xFB02, [0x46, 0x6C]), (0xFB03, [0x46, 0x66, 0x69]), (0xFB04, [0x46, 0x66, 0x6C]),
  (0xFB05, [0x53, 0x74]), (0xFB06, [0x53, 0x74]), (0xFB13, [0x544, 0x576]),
  (0xFB14, [0x544, 0x565]), (0xFB15, [0x544, 0x56B]), (0xFB16, [0x54E, 0x576]), (0xFB17, [0x544, 0x56D])]

/-- The full title case of a character. -/
def titleCase (c : Char) : List Char :=
  forms (titleRuns ++ upperRuns) expandingTitle c

/-- The code points, by ranges, whose title form is not their title case: the n with an apostrophe, the
Georgian letters, and the Greek letters with an iota. -/
def irregularRanges : List (Nat × Nat) := [
  (0x149, 0x149), (0x10D0, 0x10FA), (0x10FD, 0x10FF), (0x1F80, 0x1FAF), (0x1FB2, 0x1FB4),
  (0x1FB7, 0x1FB7), (0x1FBC, 0x1FBC), (0x1FC2, 0x1FC4), (0x1FC7, 0x1FC7), (0x1FCC, 0x1FCC),
  (0x1FF2, 0x1FF4), (0x1FF7, 0x1FF7), (0x1FFC, 0x1FFC)]

/-- Characters whose title form is their title case. -/
def Regular (c : Char) : Prop := ∀ range ∈ irregularRanges, c.toNat < range.1 ∨ range.2 < c.toNat

instance (c : Char) : Decidable (Regular c) :=
  inferInstanceAs (Decidable (∀ range ∈ irregularRanges, c.toNat < range.1 ∨ range.2 < c.toNat))

/-- Lists of which neither starts with the other. -/
def Clash (first second : List Char) : Prop := ¬ first <+: second ∧ ¬ second <+: first

instance (first second : List Char) : Decidable (Clash first second) :=
  inferInstanceAs (Decidable (_ ∧ _))

theorem Clash.append_ne {first second : List Char} (hclash : Clash first second)
    (rest rest' : List Char) :
    first ++ rest ≠ second ++ rest' := by
  intro hsame
  have hfirst : first <+: second ++ rest' := hsame ▸ List.prefix_append first rest
  rcases List.prefix_or_prefix_of_prefix hfirst (List.prefix_append second rest') with hprefix | hprefix
  · exact hclash.1 hprefix
  · exact hclash.2 hprefix

/-- What the title form of a character is: its title case, or for irregular ones something that clashes
with it. -/
def Judged (c : Char) : Prop :=
  if Regular c then title c = titleCase c else Clash (title c) (titleCase c)

instance (c : Char) : Decidable (Judged c) :=
  inferInstanceAs
    (Decidable (if Regular c then title c = titleCase c else Clash (title c) (titleCase c)))

theorem judged_of_expanding {c : Char} (hexpanding : ∃ entry ∈ expandingUpper, entry.1 = c.toNat) :
    Judged c := by
  have htable : ∀ entry ∈ expandingUpper, Judged (Char.ofNat entry.1) := by decide +kernel
  obtain ⟨entry, hentry, hcode⟩ := hexpanding
  have hjudged := htable entry hentry
  rwa [hcode, Char.ofNat_toNat] at hjudged

theorem judged_of_titleRuns {c : Char} (hcovered : ∃ run ∈ titleRuns, run.covers c.toNat = true) :
    Judged c := by
  have hruns : ∀ run ∈ titleRuns, ∀ distance < run.last + 1 - run.first,
      Judged (Char.ofNat (run.first + distance)) := by
    decide +kernel
  obtain ⟨run, hrun, hcovers⟩ := hcovered
  obtain ⟨hfirst, hlast, _⟩ := CaseRun.covers_iff.1 hcovers
  have hjudged := hruns run hrun (c.toNat - run.first) (by omega)
  have hcode : run.first + (c.toNat - run.first) = c.toNat := by omega
  rwa [hcode, Char.ofNat_toNat] at hjudged

/-- What neither expands nor has a title case of its own has its upper case for both. -/
theorem title_eq_titleCase {c : Char} (hsingle : ∀ entry ∈ expandingUpper, entry.1 ≠ c.toNat)
    (huncovered : ∀ run ∈ titleRuns, run.covers c.toNat = false) : title c = titleCase c := by
  have hdigraphs : ∀ code ∈ digraphs.map Char.toNat, ∃ run ∈ titleRuns, run.covers code = true := by
    decide +kernel
  have hkeys : ∀ entry ∈ expandingTitle, ∃ other ∈ expandingUpper, other.1 = entry.1 := by decide +kernel
  have hother : c ∉ digraphs := by
    intro hdigraph
    obtain ⟨run, hrun, hcovers⟩ := hdigraphs _ (List.mem_map_of_mem hdigraph)
    rw [huncovered run hrun] at hcovers
    cases hcovers
  have hsingleTitle : ∀ entry ∈ expandingTitle, entry.1 ≠ c.toNat := by
    intro entry hentry hcode
    obtain ⟨other, hmem, hsame⟩ := hkeys entry hentry
    exact hsingle other hmem (hsame.trans hcode)
  have hruns : mapCode (titleRuns ++ upperRuns) c.toNat = mapCode upperRuns c.toNat := by
    have hnone : titleRuns.find? (·.covers c.toNat) = none :=
      List.find?_eq_none.2 fun run hrun => Bool.eq_false_iff.1 (huncovered run hrun)
    rw [mapCode, List.find?_append, hnone, Option.none_or, mapCode]
  have hupper : upper c = [Char.ofNat (mapCode upperRuns c.toNat)] := by
    rw [upper_eq_forms, forms, lookup_eq_none hsingle]
  rw [title_eq_lowerTail hother, hupper, titleCase, forms, lookup_eq_none hsingleTitle]
  simp only [lowerTail, List.flatMap_nil, hruns]

theorem judged (c : Char) : Judged c := by
  have hirregular : ∀ range ∈ irregularRanges, ∀ distance < range.2 + 1 - range.1,
      (∃ entry ∈ expandingUpper, entry.1 = range.1 + distance) ∨ ∃ run ∈ titleRuns,
        run.covers (range.1 + distance) = true := by
    decide +kernel
  by_cases hexpanding : ∃ entry ∈ expandingUpper, entry.1 = c.toNat
  · exact judged_of_expanding hexpanding
  by_cases hcovered : ∃ run ∈ titleRuns, run.covers c.toNat = true
  · exact judged_of_titleRuns hcovered
  have hregular : Regular c := by
    intro range hrange
    by_contra hinside
    obtain ⟨hfirst, hlast⟩ : range.1 ≤ c.toNat ∧ c.toNat ≤ range.2 := by omega
    have hlisted := hirregular range hrange (c.toNat - range.1) (by omega)
    have hcode : range.1 + (c.toNat - range.1) = c.toNat := by omega
    rw [hcode] at hlisted
    exact hlisted.elim hexpanding hcovered
  rw [Judged, if_pos hregular]
  refine title_eq_titleCase (fun entry hentry hcode => hexpanding ⟨entry, hentry, hcode⟩) fun run hrun =>
    ?_
  exact Bool.eq_false_iff.2 fun hcovers => hcovered ⟨run, hrun, hcovers⟩

/-! ### Capitalising a word -/

/-- The first character of a text in title case, the rest in lower case behind it. -/
def capitalizeWordChars : List Char → List Char
  | [] => []
  | c :: rest => titleCase c ++ lowerBehind [c] rest

/-- A text in title case at its start, and in the lower case of the text behind it. -/
def capitalizeWord (text : String) : String :=
  String.ofList (capitalizeWordChars text.toList)

theorem capitalizeChars_eq_iff_regular {c : Char} {rest : List Char} :
    capitalizeChars (c :: rest) = capitalizeWordChars (c :: rest) ↔
      Regular c ∧ lowerBehind [c] rest = rest.flatMap lower := by
  have hjudged := judged c
  rw [capitalizeChars, capitalizeWordChars]
  by_cases hregular : Regular c
  · rw [Judged, if_pos hregular] at hjudged
    rw [hjudged, List.append_cancel_left_eq]
    exact ⟨fun hsame => ⟨hregular, hsame.symm⟩, fun hsame => hsame.2.symm⟩
  · rw [Judged, if_neg hregular] at hjudged
    exact ⟨fun hsame => absurd hsame (hjudged.append_ne _ _), fun hsame => absurd hsame.1 hregular⟩

/-- **Where capitalising agrees with title case and the lower case of the text.** The capitalised form of
a text has title case at its start and the lower case of the text behind it exactly when the first
character is regular and no capital sigma behind it ends a word. -/
theorem capitalize_eq_capitalizeWord_iff (text : String) :
    capitalize text = capitalizeWord text ↔
      (∀ c ∈ text.toList.head?, Regular c) ∧
      ∀ before after, text.toList = before ++ 'Σ' :: after → before ≠ [] →
        endsWord before.reverse after = false := by
  rw [capitalize, capitalizeWord, String.ofList_inj]
  cases text.toList with
  | nil =>
    refine ⟨fun _ => ⟨by simp, fun before after htext _ => ?_⟩, fun _ => rfl⟩
    cases before <;> cases htext
  | cons c rest =>
    rw [capitalizeChars_eq_iff_regular, lowerBehind_eq_flatMap_iff]
    constructor
    · rintro ⟨hregular, hsigma⟩
      refine ⟨fun d hd => Option.some.inj hd ▸ hregular, fun before after htext hbefore => ?_⟩
      cases before with
      | nil => exact absurd rfl hbefore
      | cons d before =>
        have htail : rest = before ++ 'Σ' :: after := (List.cons.inj htext).2
        obtain rfl : c = d := (List.cons.inj htext).1
        rw [List.reverse_cons]
        exact hsigma before after htail
    · rintro ⟨hregular, hsigma⟩
      refine ⟨hregular c rfl, fun before after htail => ?_⟩
      have hword := hsigma (c :: before) after (congrArg (List.cons c) htail) (List.cons_ne_nil c before)
      rwa [List.reverse_cons] at hword

/-- A capital sigma at the end of a word, an n with an apostrophe, a Greek letter with an iota, and a
Georgian letter. -/
theorem capitalize_differs :
    (capitalize "ΟΔΟΣ" = "Οδοσ" ∧ capitalizeWord "ΟΔΟΣ" = "Οδος") ∧
    (capitalize "ŉame" = "ʼname" ∧ capitalizeWord "ŉame" = "ʼName") ∧
    (capitalize "ᾳδης" = "Αιδης" ∧ capitalizeWord "ᾳδης" = "ᾼδης") ∧
    (capitalize "აბა" = "Აბა" ∧ capitalizeWord "აბა" = "აბა") := by
  decide +kernel

end SchemaTyping.Text
