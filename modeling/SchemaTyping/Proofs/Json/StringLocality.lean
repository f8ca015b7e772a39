import SchemaTyping.Proofs.Json.Alike
import SchemaTyping.Proofs.Json.StringBody

/-!
# Reading a string is local

A string is read without looking further than where the reading stops. Only an escape by number takes
more than one look: its four bytes are read before they are judged, so it is told from the whole of them
whether they are there and whether they are digits.
-/

namespace SchemaTyping.Json

open Text (byteLength byteLength_append utf8Size_of_ascii)

variable {n : Nat}

/-! ### Escapes by number -/

theorem utf8Size_of_hexDigit {c : Char} {d : Nat} (hdigit : hexDigit? c = some d) : c.utf8Size = 1 := by
  have hbound : ∀ last : Char, last.toNat ≤ 127 → c ≤ last → c.utf8Size = 1 := fun last hlast hle =>
    utf8Size_of_ascii (Nat.le_trans (UInt32.le_iff_toNat_le.1 hle) hlast)
  unfold hexDigit? at hdigit
  split at hdigit
  · exact hbound '9' (by decide) (by tauto)
  · split at hdigit
    · exact hbound 'f' (by decide) (by tauto)
    · split at hdigit
      · exact hbound 'F' (by decide) (by tauto)
      · cases hdigit

/-- Four hexadecimal digits take four bytes. -/
theorem byteLength_of_hexUnit {digits : List Char} {unit : Nat} (hunit : hexUnit? digits = some unit) :
    digits.length = 4 ∧ byteLength digits = 4 := by
  unfold hexUnit? at hunit
  split at hunit
  · rename_i a b c d
    simp only [Option.bind_eq_bind, Option.bind_eq_some_iff] at hunit
    obtain ⟨_, ha, _, hb, _, hc, _, hd, _⟩ := hunit
    refine ⟨rfl, ?_⟩
    simp only [byteLength, utf8Size_of_hexDigit ha, utf8Size_of_hexDigit hb, utf8Size_of_hexDigit hc,
      utf8Size_of_hexDigit hd]
  · cases hunit

/-- What four bytes can come to: the text ends among them, they are digits, or they are not. -/
theorem readUnit_cases (cursor : Cursor) :
    (cursor.finish < cursor.offset + 4 ∧ readUnit cursor = .error ⟨.endInString, cursor.finish⟩) ∨
      (∃ digits unit, cursor.rest = digits ++ cursor.rest.drop 4 ∧ hexUnit? digits = some unit) ∨
      (cursor.offset + 4 ≤ cursor.finish ∧
        (∀ digits rest, cursor.rest = digits ++ rest → hexUnit? digits = none) ∧
        readUnit cursor = .error ⟨.invalidEscape, cursor.offset + 4⟩) := by
  obtain ⟨text, offset⟩ := cursor
  have hparts := byteLength_append (text.take 4) (text.drop 4)
  rw [List.take_append_drop] at hparts
  simp only [Cursor.finish]
  by_cases hshort : byteLength (text.take 4) < 4
  · have hlength := length_le_byteLength (text.take 4)
    rw [List.length_take] at hlength
    have hall : text.take 4 = text := List.take_of_length_le (by omega)
    rw [hall] at hshort
    refine .inl ⟨by omega, ?_⟩
    simp only [readUnit, hall, if_pos hshort]
  · cases hunit : hexUnit? (text.take 4) with
    | some unit => exact .inr (.inl ⟨_, unit, (List.take_append_drop 4 text).symm, hunit⟩)
    | none =>
      refine .inr (.inr ⟨by omega, fun digits rest htext => ?_, ?_⟩)
      · cases hdigits : hexUnit? digits with
        | none => rfl
        | some unit =>
          have htext : text = digits ++ rest := htext
          have htake : text.take 4 = digits := by
            rw [htext, ← (byteLength_of_hexUnit hdigits).1, List.take_left]
          rw [htake, hdigits] at hunit
          cases hunit
      · simp only [readUnit, if_neg hshort, hunit]

theorem local_readUnit : Local readUnit := by
  refine ⟨fun {n cursor other} halike => ?_⟩
  rcases readUnit_cases cursor with ⟨_, hread⟩ | ⟨digits, unit, hrest, hunit⟩ | ⟨hlong, hnone, hread⟩
  · rw [hread]
    have hwithin : Within cursor (.error ⟨.endInString, cursor.finish⟩ : Except Fault (Nat × Cursor)) :=
      .fault (Nat.le_add_right _ _) (Nat.le_refl _)
    rcases Nat.lt_or_ge cursor.finish n with hlt | hlate
    · rw [halike.eq_of_finish_lt hlt, hread]
      exact .fault (Nat.le_add_right _ _) (Nat.le_refl _)
    · exact .late hwithin hlate
  · obtain ⟨text, offset⟩ := cursor
    generalize text.drop 4 = rest at hrest
    obtain rfl : text = digits ++ rest := hrest
    obtain ⟨hbound, hspells⟩ := hexUnit?_eq_some_iff.1 hunit
    have hreaches := reaches_append digits rest offset
    rw [(byteLength_of_hexUnit hunit).2] at hreaches
    rw [readUnit_append hbound hspells]
    rcases Nat.lt_or_ge (offset + byteLength digits) n with hlt | hlate
    · obtain ⟨rest', rfl, hmore⟩ := halike.exists_append hlt
      rw [readUnit_append hbound hspells]
      rw [(byteLength_of_hexUnit hunit).2] at hmore
      exact .ok unit hreaches hmore
    · rw [(byteLength_of_hexUnit hunit).2] at hlate
      exact .late (.ok hreaches) hlate
  · rw [hread]
    have hle : cursor.offset ≤ cursor.offset + 4 := Nat.le_add_right _ _
    rcases Nat.lt_or_ge (cursor.offset + 4) n with hlt | hlate
    · -- what holds of the other text holds of this one, so the other is not short and no digits either
      have hoffset : other.offset = cursor.offset := by
        rcases halike.behind_or_head with hbehind | hhead
        · omega
        · exact hhead.offset_eq
      have hother := halike.symm hoffset
      rcases readUnit_cases other with ⟨hshort, _⟩ | ⟨digits, unit, hrest, hunit⟩ | ⟨_, _, hread'⟩
      · have hsame := hother.eq_of_finish_lt (by omega)
        rw [hsame] at hlong
        omega
      · obtain ⟨text, offset⟩ := other
        generalize text.drop 4 = rest at hrest
        obtain rfl : text = digits ++ rest := hrest
        obtain rfl : offset = cursor.offset := hoffset
        obtain ⟨more, hcursor, _⟩ :=
          hother.exists_append (by rw [(byteLength_of_hexUnit hunit).2]; exact hlt)
        have hdigits := hnone digits more (by rw [hcursor])
        rw [hunit] at hdigits
        cases hdigits
      · rw [hread', hoffset]
        exact .fault hle hlong
    · exact .late (.fault hle hlong) hlate

/-- The low surrogate behind a backslash. -/
def readLowUnit (high : Nat) (cursor : Cursor) : Except Fault (Char × Cursor) :=
  match cursor.rest with
  | [] => .error (cursor.fault .endInString)
  | 'u' :: rest => do
    let (low, after) ← readUnit ⟨rest, cursor.offset + 1⟩
    if isLowSurrogate low then .ok (surrogatePair high low, after)
      else .error (after.fault .loneSurrogate)
  | _ => .error (cursor.lookedFault .missingLowSurrogate)

theorem readLowSurrogate_backslash (high : Nat) (rest : List Char) (offset : Nat) :
    readLowSurrogate high ⟨'\\' :: rest, offset⟩ = readLowUnit high ⟨rest, offset + 1⟩ := by
  rcases rest with _ | ⟨c, rest⟩
  · rfl
  · by_cases hc : c = 'u'
    · rw [hc]
      rfl
    · simp [readLowSurrogate, readLowUnit, hc]

theorem local_readLowUnit (high : Nat) : Local (readLowUnit high) := by
  refine local_of_special (· = 'u') _ ?_ (fun _ => .atCursor .endInString) ?_
    (local_looked .missingLowSurrogate) ?_
  · rintro _ rfl
    rfl
  · rintro _ rfl n offset rest rest' hrest
    refine (local_readUnit.follows hrest).next fun low => ?_
    by_cases hlow : isLowSurrogate low = true
    · simp only [if_pos hlow]
      exact local_ok _
    · simp only [if_neg hlow]
      exact local_fault _
  · intro c hc rest offset
    simp [readLowUnit, hc]

theorem local_readLowSurrogate (high : Nat) : Local (readLowSurrogate high) := by
  refine local_of_special (· = '\\') _ ?_ (fun _ => .atCursor .endInString) ?_
    (local_looked .missingLowSurrogate) ?_
  · rintro _ rfl
    rfl
  · rintro _ rfl n offset rest rest' hrest
    rw [readLowSurrogate_backslash, readLowSurrogate_backslash]
    exact (local_readLowUnit high).follows hrest
  · intro c hc rest offset
    simp [readLowSurrogate, hc]

theorem local_readUnicodeEscape : Local readUnicodeEscape := by
  refine ⟨fun {n cursor other} halike => (local_readUnit.follows halike).next fun unit => ?_⟩
  by_cases hlow : isLowSurrogate unit = true
  · simp only [if_pos hlow]
    exact local_fault _
  · by_cases hhigh : isHighSurrogate unit = true
    · simp only [if_neg hlow, if_pos hhigh]
      exact local_readLowSurrogate unit
    · simp only [if_neg hlow, if_neg hhigh]
      exact local_ok _

/-! ### Escapes by letter -/

theorem utf8Size_of_escapedBy {letter c : Char} (hescape : escapedBy? letter = some c) :
    letter.utf8Size = 1 := by
  have hletters : ∀ escape ∈ letterEscapes, escape.1.utf8Size = 1 := by decide
  exact hletters (letter, c) (escapedBy?_eq_some_iff.1 hescape)

theorem readEscape_letter {letter c : Char} (hescape : escapedBy? letter = some c) (rest : List Char)
    (offset : Nat) :
    readEscape ⟨letter :: rest, offset⟩ = .ok (c, ⟨rest, offset + 1⟩) := by
  have hnumber : letter ≠ 'u' := by
    rintro rfl
    cases hescape
  simp [readEscape, hescape]

theorem local_readEscape : Local readEscape := by
  refine local_of_special (fun letter => letter = 'u' ∨ ∃ c, escapedBy? letter = some c) _ ?_
    (fun _ => .atCursor .endInString) ?_
    (local_looked .invalidEscape) ?_
  · rintro letter (rfl | ⟨c, hescape⟩)
    · rfl
    · exact utf8Size_of_escapedBy hescape
  · rintro letter (rfl | ⟨c, hescape⟩) n offset rest rest' hrest
    · exact local_readUnicodeEscape.follows hrest
    · rw [readEscape_letter hescape, readEscape_letter hescape]
      exact .ok c (.refl _) hrest
  · intro letter hother rest offset
    obtain ⟨hnumber, hescape⟩ := not_or.1 hother
    have hnone : escapedBy? letter = none :=
      Option.eq_none_iff_forall_ne_some.2 fun c hc => hescape ⟨c, hc⟩
    simp [readEscape, hnone]

/-! ### Strings -/

/-- One character of a string, or its closing quote. -/
def readStringChar (_ : Unit) (cursor : Cursor) : Except Fault (Round Unit (List Char) × Cursor) :=
  match cursor.rest with
  | [] => .error (cursor.fault .endInString)
  | '"' :: rest => .ok (.done [], ⟨rest, cursor.offset + 1⟩)
  | '\\' :: rest => do
    let (c, after) ← readEscape ⟨rest, cursor.offset + 1⟩
    .ok (.more () (c :: ·), after)
  | c :: rest =>
    if c.toNat < 0x20 then .error (cursor.lookedFault .controlCharacter)
    else .ok (.more () (c :: ·), ⟨rest, cursor.offset + c.utf8Size⟩)

/-- A character that stands for itself. -/
def readPlain (cursor : Cursor) : Except Fault (Round Unit (List Char) × Cursor) :=
  match cursor.rest with
  | [] => .error (cursor.fault .endInString)
  | c :: rest =>
    if c.toNat < 0x20 then .error (cursor.lookedFault .controlCharacter)
    else .ok (.more () (c :: ·), ⟨rest, cursor.offset + c.utf8Size⟩)

theorem not_control_of_wide {c : Char} (hc : 1 < c.utf8Size) : ¬ c.toNat < 0x20 := by
  intro hcontrol
  have hsize : c.utf8Size = 1 := utf8Size_of_ascii (by omega)
  omega

theorem local_readPlain : Local readPlain := by
  refine local_of_head fun hhead => ?_
  cases hhead with
  | ended offset => exact .atCursor .endInString
  | @same c rest rest' offset hrest =>
    simp only [readPlain]
    split
    · exact .looked c c rest rest' offset _
    · exact .ok _ (reaches_cons c rest offset) hrest
  | @cut c d rest rest' offset hc hd hn hn' =>
    -- such a character is read, and what is behind it is behind the shared bytes
    simp only [readPlain, if_neg (not_control_of_wide hc)]
    exact .late (.ok (reaches_cons c rest offset)) (Nat.le_of_lt hn)

theorem local_readStringChar (state : Unit) : Local (readStringChar state) := by
  refine local_of_special (fun c => c = '"' ∨ c = '\\') _ ?_
    (fun _ => .atCursor .endInString) ?_ local_readPlain ?_
  · rintro c (rfl | rfl) <;> rfl
  · rintro c (rfl | rfl) n offset rest rest' hrest
    · exact .ok _ (.refl _) hrest
    · exact (local_readEscape.follows hrest).next fun c => local_ok _
  · intro c hc rest offset
    obtain ⟨hquote, hbackslash⟩ := not_or.1 hc
    simp [readStringChar, readPlain]

theorem length_of_readEscape {cursor after : Cursor} {c : Char}
    (hescape : readEscape cursor = .ok (c, after)) :
    after.rest.length ≤ cursor.rest.length := by
  obtain ⟨escape, hrest, _⟩ := exists_escape_of_readEscape hescape
  rw [hrest, List.length_append]
  exact Nat.le_add_left _ _

theorem readChars_succ (budget : Nat) (cursor : Cursor) :
    readChars (budget + 1) cursor = readStringChar () cursor >>= Round.rest fun _ =>
      readChars budget := by
  obtain ⟨_ | ⟨c, rest⟩, offset⟩ := cursor
  · rfl
  · by_cases hquote : c = '"'
    · subst hquote
      rfl
    · by_cases hbackslash : c = '\\'
      · subst hbackslash
        simp only [readChars, readStringChar]
        rcases readEscape ⟨rest, offset + 1⟩ with fault | ⟨c, after⟩ <;> rfl
      · simp only [readChars, readStringChar]
        split <;> rfl

theorem loop_readChars : LoopOf (fun budget _ => readChars budget) readStringChar .endInString where
  ended budget _ offset := by cases budget <;> rfl
  succ budget _ cursor := readChars_succ budget cursor
  shrinks {_ cursor state' finish after} hround := by
    unfold readStringChar at hround
    split at hround
    · cases hround
    · cases hround
    · rename_i rest hrest
      obtain ⟨⟨c, afterEscape⟩, hescape, hround⟩ := exists_of_bind_ok hround
      cases hround
      rw [hrest]
      exact Nat.lt_succ_of_le (length_of_readEscape hescape)
    · rename_i c rest _ _ hrest
      split at hround
      · cases hround
      · cases hround
        rw [hrest]
        exact Nat.lt_succ_self _
  isLocal := local_readStringChar

theorem local_readString : Local readString :=
  ⟨fun halike => (loop_readChars.follows () (Nat.le_refl _) (Nat.le_refl _) halike).next fun cs =>
    local_ok (String.ofList cs)⟩

end SchemaTyping.Json
