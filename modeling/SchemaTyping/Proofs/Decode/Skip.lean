import SchemaTyping.Decode.Skip
import SchemaTyping.Proofs.Json.ValueReading

/-!
# Every spelling of a value is passed over

What is passed over is not built, and open brackets are kept on a stack instead of the recursion of the
reader. So the statement about one value says what happens behind it: passing over its text comes to
going on behind it, within the brackets that were open before (`passes_spelling`). From the outside,
passing over a value moves to where its text ends (`reading_skipValue`).
-/

namespace SchemaTyping.Decode

open Json
open Text (StartsWith)

/-! ### Strings -/

theorem skipChars_plain {c : Char} (hcontrol : 0x20 ≤ c.toNat) (hquote : c ≠ '"') (hbackslash : c ≠ '\\')
    (budget : Nat) (rest : List Char) (offset : Nat) :
    skipChars (budget + 1) ⟨c :: rest, offset⟩ = skipChars budget ⟨rest, offset + c.utf8Size⟩ := by
  simp [skipChars, hbackslash, Nat.not_lt.2 hcontrol]

theorem skipChars_letter {letter c : Char} (hletter : (letter, c) ∈ letterEscapes) (budget : Nat)
    (rest : List Char) (offset : Nat) :
    skipChars (budget + 1) ⟨'\\' :: letter :: rest, offset⟩ = skipChars budget ⟨rest, offset + 2⟩ := by
  have hescape : (escapedBy? letter).isSome = true := by rw [escapedBy?_eq_some_iff.2 hletter]; rfl
  have hnumber : letter ≠ 'u' := by
    rintro rfl
    cases hescape
  simp [skipChars, hescape]

theorem skipChars_unit {unit : Nat} {digits : List Char} (hbound : unit < 0x10000)
    (hdigits : SpellsUnit unit digits) (budget : Nat) (rest : List Char) (offset : Nat) :
    skipChars (budget + 1) ⟨'\\' :: 'u' :: (digits ++ rest), offset⟩ =
      skipChars budget ⟨rest, offset + 2 + 4⟩ := by
  rw [skipChars]
  simp only [readUnit_append hbound hdigits]
  rfl

/-- A character is passed over in one or two rounds, one for each escape in its spelling. -/
theorem skipChars_spelling {c : Char} {spelling : List Char} (hspelling : SpellsChar c spelling)
    (rest : List Char) (offset : Nat) :
    ∃ rounds offset', rounds ≤ spelling.length ∧
      ∀ budget, skipChars (budget + rounds) ⟨spelling ++ rest, offset⟩ =
        skipChars budget ⟨rest, offset'⟩ := by
  cases hspelling with
  | plain hcontrol hquote hbackslash =>
    exact ⟨1, _, by simp, fun budget => skipChars_plain hcontrol hquote hbackslash budget rest offset⟩
  | letter hletter => exact ⟨1, _, by simp, fun budget => skipChars_letter hletter budget rest offset⟩
  | unit hsmall hdigits =>
    exact ⟨1, _, by simp, fun budget => skipChars_unit hsmall hdigits budget rest offset⟩
  | @pair high low hlarge hhigh hlow =>
    have hhighBound := highUnit_bounds c
    have hlowBound := lowUnit_bounds c
    have hsplit : '\\' :: 'u' :: (high ++ '\\' :: 'u' :: low) ++ rest =
        '\\' :: 'u' :: (high ++ '\\' :: 'u' :: (low ++ rest)) := by
      simp
    refine ⟨2, offset + 2 + 4 + 2 + 4, by simp, fun budget => ?_⟩
    rw [hsplit, skipChars_unit (by omega) hhigh (budget + 1), skipChars_unit (by omega) hlow]

theorem reading_skipChars {cs body : List Char} (hbody : SpellsChars cs body) (rest : List Char)
    {budget : Nat} (hbudget : body.length < budget) (offset : Nat) :
    reading (skipChars budget ⟨body ++ '"' :: rest, offset⟩) = some ((), rest) := by
  induction hbody generalizing budget offset with
  | nil =>
    cases budget with
    | zero => omega
    | succ budget => rfl
  | @cons c cs spelling body hc hcs ih =>
    rw [List.length_append] at hbudget
    obtain ⟨rounds, offset', hrounds, hskip⟩ := skipChars_spelling hc (body ++ '"' :: rest) offset
    obtain ⟨fewer, rfl⟩ : ∃ fewer, budget = fewer + rounds := ⟨budget - rounds, by omega⟩
    rw [List.append_assoc, hskip]
    exact ih (by omega) offset'

theorem reading_skipString {cs body : List Char} (hbody : SpellsChars cs body) (rest : List Char)
    (offset : Nat) :
    reading (skipString ⟨body ++ '"' :: rest, offset⟩) = some ((), rest) := by
  refine reading_skipChars hbody rest ?_ offset
  rw [List.length_append, List.length_cons]
  omega

/-! ### Numbers -/

theorem reading_skipExponent (numeral : Numeral) {rest : List Char} (hends : numeral.EndsBefore rest)
    (offset : Nat) :
    reading (skipExponent ⟨numeral.exponentChars ++ rest, offset⟩) = some ((), rest) := by
  unfold Numeral.exponentChars
  cases hexponent : numeral.exponent with
  | none =>
    have hletter := hends.exponent hexponent
    cases rest with
    | nil => rfl
    | cons c rest =>
      obtain ⟨hlower, hupper⟩ := hletter c rfl
      simp [skipExponent, hlower, hupper]
  | some exponent =>
    obtain ⟨letter, sign, digits, hletter, hsign, hnonempty, hdigits⟩ := exponent
    cases digits with
    | nil => exact absurd rfl hnonempty
    | cons d digits =>
      have hd : (digit? d).isSome = true := by rw [digit?_of_isDigit (hdigits d List.mem_cons_self)]; rfl
      have hplus : d ≠ '+' := by
        rintro rfl
        cases hd
      have hminus : d ≠ '-' := by
        rintro rfl
        cases hd
      have hskip := skipDigits_append hdigits.tail hends.digits 0
      rw [Option.map_some, Option.getD_some, Exponent.chars]
      rcases hletter with rfl | rfl <;> rcases hsign with rfl | rfl | rfl <;>
        simp [skipExponent, skipDigit, hplus, hminus, hd, hskip, Bind.bind, Except.bind]

theorem reading_skipNumber (numeral : Numeral) {rest : List Char} (hends : numeral.EndsBefore rest)
    (offset : Nat) :
    reading (skipNumber
      ⟨numeral.whole ++ (numeral.fractionChars ++ (numeral.exponentChars ++ rest)), offset⟩) =
      some ((), rest) := by
  have hafter : EndsDigits (numeral.fractionChars ++ (numeral.exponentChars ++ rest)) := by
    unfold Numeral.fractionChars
    split
    · exact numeral.exponentChars_append hends
    · exact endsDigits_cons (by decide) _
  have hwhole := numeral.allDigits_whole
  have hzero := numeral.noLeadingZero
  cases hdigits : numeral.whole with
  | nil => exact absurd hdigits numeral.nonempty
  | cons d digits =>
    rw [hdigits] at hwhole hzero
    have hd : (digit? d).isSome = true := by rw [digit?_of_isDigit (hwhole d List.mem_cons_self)]; rfl
    have hfirst : skipDigit
        ⟨d :: (digits ++ (numeral.fractionChars ++ (numeral.exponentChars ++ rest))), offset⟩ =
        .ok ((), ⟨digits ++ (numeral.fractionChars ++ (numeral.exponentChars ++ rest)), offset + 1⟩) :=
      if_pos hd
    have hleading : ¬ (d = '0' ∧ digits.length ≠ 0) := by
      rintro ⟨rfl, hmore⟩
      exact hmore (congrArg List.length (List.cons.inj (hzero rfl)).2)
    unfold skipNumber
    rw [List.cons_append, hfirst]
    simp only [Bind.bind, Except.bind, skipDigits_append hwhole.tail hafter, List.head?_cons,
      Option.some.injEq, Nat.zero_add, if_neg hleading]
    by_cases hfraction : numeral.fraction = []
    · have hskip := reading_skipExponent numeral hends (offset + 1 + digits.length)
      have hpoint : ∀ after, numeral.exponentChars ++ rest ≠ '.' :: after := by
        intro after hsame
        unfold Numeral.exponentChars at hsame
        cases hexponent : numeral.exponent with
        | none =>
          rw [hexponent] at hsame
          have hrest : rest = '.' :: after := hsame
          exact hends.point hexponent hfraction '.' (by rw [hrest]; rfl) rfl
        | some exponent =>
          rw [hexponent] at hsame
          have hletter : exponent.letter = '.' := (List.cons.inj hsame).1
          rcases exponent.isLetter with hother | hother <;> rw [hother] at hletter <;> cases hletter
      rw [Numeral.fractionChars, if_pos hfraction, List.nil_append]
      split
      · rename_i after hsame
        exact absurd hsame (hpoint after)
      · exact hskip
    · have hcount : numeral.fraction.length ≠ 0 :=
        fun hnull => hfraction (List.length_eq_zero_iff.1 hnull)
      rw [Numeral.fractionChars, if_neg hfraction, List.cons_append]
      simp only [skipDigits_append numeral.allDigits_fraction (numeral.exponentChars_append hends),
        Nat.zero_add, if_neg hcount]
      exact reading_skipExponent numeral hends _

theorem reading_skipSigned {numeral : Numeral} {c : Char} {tail : List Char}
    (hchars : numeral.chars = c :: tail) {rest : List Char} (hends : numeral.EndsBefore rest)
    (offset : Nat) :
    reading (if c = '-' then skipNumber ⟨tail ++ rest, offset + 1⟩
      else skipNumber ⟨c :: (tail ++ rest), offset⟩) = some ((), rest) := by
  have hunsigned := reading_skipNumber numeral hends
  cases hdigits : numeral.whole with
  | nil => exact absurd hdigits numeral.nonempty
  | cons d digits =>
    have hd : d.isDigit = true := numeral.allDigits_whole d (by rw [hdigits]; exact List.mem_cons_self)
    rw [hdigits] at hunsigned
    cases hnegative : numeral.negative with
    | true =>
      simp only [Numeral.chars, hnegative, if_true, hdigits, List.cons_append, List.nil_append,
        List.cons.injEq] at hchars
      obtain ⟨rfl, rfl⟩ := hchars
      simpa using hunsigned (offset + 1)
    | false =>
      simp only [Numeral.chars, hnegative, Bool.false_eq_true, if_false, hdigits, List.cons_append,
        List.nil_append, List.cons.injEq] at hchars
      obtain ⟨rfl, rfl⟩ := hchars
      have hminus : d ≠ '-' := by
        rintro rfl
        cases hd
      simpa [hminus] using hunsigned offset

/-! ### Going on behind a value -/

/-- What a round does with the brackets that it leaves open. -/
def goOn (budget : Nat) : List Bracket × Cursor → Except Fault (Unit × Cursor)
  | ([], cursor) => .ok ((), cursor)
  | (outer, cursor) => skipWithin budget outer cursor

theorem skipWithin_succ (budget : Nat) (outer : List Bracket) (cursor : Cursor) :
    skipWithin (budget + 1) outer cursor = skipStart outer cursor >>= goOn budget := rfl

/-- Goes on behind a value within open brackets. -/
def resume (budget : Nat) (outer : List Bracket) (cursor : Cursor) : Except Fault (Unit × Cursor) :=
  skipToNext outer cursor >>= goOn budget

/-- What leads to a value within a bracket: nothing in a list, the key in an object. -/
def Bracket.lead : Bracket → Cursor → Except Fault (Unit × Cursor)
  | .list, cursor => .ok ((), cursor)
  | .object, cursor => skipKey cursor

/-- Passing over a text comes to going on behind it, with a round spent for each of its characters at
most. -/
def Passes (bracket : Bracket) (text : List Char) : Prop :=
  ∀ {blank rest final : List Char} {budget : Nat} {outer : List Bracket}, IsBlank blank →
    EndsValue rest → text.length ≤ budget →
    (∀ fewer, budget ≤ fewer + text.length → ∀ offset,
      reading (resume fewer outer ⟨rest, offset⟩) = some ((), final)) →
    ∀ offset, reading
      (bracket.lead ⟨blank ++ (text ++ rest), offset⟩ >>= fun (_, cursor) =>
        skipWithin budget outer cursor) =
      some ((), final)

theorem skipToNext_skipBlanks {blank : List Char} (hblank : IsBlank blank) {c : Char}
    (hc : c ∉ blankChars) (rest : List Char) (bracket : Bracket) (outer : List Bracket) (offset : Nat) :
    ∃ offset',
      skipToNext (bracket :: outer) ⟨blank ++ c :: rest, offset⟩ =
        skipToNext (bracket :: outer) ⟨c :: rest, offset'⟩ := by
  obtain ⟨offset', hskip⟩ := skipBlanks_append_cons hblank hc rest offset
  have hstart : StartsWith (· ∉ blankChars) (c :: rest) := startsWith_cons_iff.2 hc
  refine ⟨offset', ?_⟩
  rw [skipToNext, hskip, skipToNext, skipBlanks_of_startsWith hstart]

theorem skipToNext_comma (bracket : Bracket) (outer : List Bracket) (rest : List Char) (offset : Nat) :
    skipToNext (bracket :: outer) ⟨',' :: rest, offset⟩ =
      (bracket.lead ⟨rest, offset + 1⟩ >>= fun (_, cursor) => .ok (bracket :: outer, cursor)) := by
  cases bracket <;> rfl

theorem skipToNext_close (bracket : Bracket) (outer : List Bracket) (rest : List Char) (offset : Nat) :
    skipToNext (bracket :: outer) ⟨bracket.closing :: rest, offset⟩ =
      skipToNext outer ⟨rest, offset + 1⟩ := by
  cases bracket <;> rfl

theorem closing_not_blank (bracket : Bracket) : bracket.closing ∉ blankChars := by
  cases bracket <;> decide

theorem closing_endsValue (bracket : Bracket) : EndsValue [bracket.closing] := by
  cases bracket <;> exact startsWith_cons_iff.2 (by decide)

/-- Behind an item the rest of a sequence is passed over if each of its items is. -/
theorem reading_resume {α : Type} {spells : α → List Char → Prop} {bracket : Bracket} {xs : List α}
    {text : List Char} (hspells : SpellsSequence spells bracket.closing false xs text)
    (hitem : ∀ x ∈ xs, ∀ text, spells x text → Passes bracket text) {rest final : List Char}
    {budget : Nat} {outer : List Bracket} (hbudget : text.length ≤ budget)
    (hresume : ∀ fewer, budget ≤ fewer + text.length → ∀ offset,
      reading (resume fewer outer ⟨rest, offset⟩) = some ((), final))
    (offset : Nat) :
    reading (resume budget (bracket :: outer) ⟨text ++ rest, offset⟩) = some ((), final) := by
  generalize hfirst : false = first at hspells
  induction hspells generalizing budget offset with
  | @close first blank hblank =>
    obtain ⟨offset', hskip⟩ :=
      skipToNext_skipBlanks hblank (closing_not_blank bracket) rest bracket outer offset
    rw [List.append_assoc, List.singleton_append, resume, hskip, skipToNext_close]
    exact hresume budget (by omega) (offset' + 1)
  | @item first x xs lead text more hlead hx hxs ih =>
    subst hfirst
    obtain ⟨hhere, hlater⟩ := List.forall_mem_cons.1 hitem
    cases hlead with
    | @next blank blank' hblank hblank' =>
      simp only [List.length_append, List.length_cons] at hbudget hresume
      have hsplit : blank ++ ',' :: blank' ++ (text ++ more) ++ rest =
          blank ++ ',' :: (blank' ++ (text ++ (more ++ rest))) := by simp
      obtain ⟨offset', hskip⟩ :=
        skipToNext_skipBlanks hblank (c := ',') (by decide)
          (blank' ++ (text ++ (more ++ rest))) bracket outer offset
      rw [hsplit, resume, hskip, skipToNext_comma, bind_assoc]
      refine hhere text hx hblank' (hxs.endsValue (closing_endsValue bracket) rest) (by omega)
        (fun fewer hfewer offset => ?_) _
      exact ih hlater (by omega) (fun fewest hfewest => hresume fewest (by omega)) offset rfl

/-- A sequence is passed over from behind its opening bracket if each of its items is. -/
theorem reading_skipOpening {α : Type} {spells : α → List Char → Prop} {bracket : Bracket} {xs : List α}
    {text : List Char} (hspells : SpellsSequence spells bracket.closing true xs text)
    (hstart : ∀ x text, spells x text → ∃ c rest, text = c :: rest ∧ c ∉ blankChars ∧
      c ≠ bracket.closing)
    (hitem : ∀ x ∈ xs, ∀ text, spells x text → Passes bracket text)
    {rest final : List Char} {budget : Nat} {outer : List Bracket} (hbudget : text.length ≤ budget)
    (hresume : ∀ fewer, budget ≤ fewer + text.length → ∀ offset,
      reading (resume fewer outer ⟨rest, offset⟩) = some ((), final))
    (offset : Nat) :
    reading (skipOpening bracket outer ⟨text ++ rest, offset⟩ >>= goOn budget) = some ((), final) := by
  cases hspells with
  | @close _ blank hblank =>
    obtain ⟨offset', hskip⟩ := skipBlanks_append_cons hblank (closing_not_blank bracket) rest offset
    have hopening : skipOpening bracket outer ⟨blank ++ [bracket.closing] ++ rest, offset⟩ =
        skipToNext outer ⟨rest, offset' + 1⟩ := by
      rw [List.append_assoc, List.singleton_append]
      unfold skipOpening
      rw [hskip]
      exact if_pos rfl
    rw [hopening]
    exact hresume budget (by omega) (offset' + 1)
  | @item _ x xs lead text more hlead hx hxs =>
    obtain ⟨hhere, hlater⟩ := List.forall_mem_cons.1 hitem
    obtain ⟨c, tail, rfl, hc, hclose⟩ := hstart x text hx
    cases hlead with
    | first hblank =>
      simp only [List.length_append] at hbudget hresume
      obtain ⟨offset', hskip⟩ := skipBlanks_append_cons hblank hc (tail ++ (more ++ rest)) offset
      have hopening : skipOpening bracket outer ⟨lead ++ (c :: tail ++ more) ++ rest, offset⟩ =
          (bracket.lead ⟨c :: (tail ++ (more ++ rest)), offset'⟩ >>= fun (_, cursor) =>
            .ok (bracket :: outer, cursor)) := by
        have hsplit : lead ++ (c :: tail ++ more) ++ rest = lead ++ c :: (tail ++ (more ++ rest)) := by
          simp
        rw [hsplit]
        unfold skipOpening
        rw [hskip]
        simp only [if_neg hclose]
        cases bracket <;> rfl
      rw [hopening, bind_assoc]
      refine hhere (c :: tail) hx isBlank_nil (hxs.endsValue (closing_endsValue bracket) rest) (by omega)
        (fun fewer hfewer offset => ?_) _
      exact reading_resume hxs hlater (by omega) (fun fewest hfewest => hresume fewest (by omega)) offset

/-! ### Values -/

theorem skipStart_skipBlanks (outer : List Bracket) (cursor : Cursor) :
    skipStart outer cursor.skipBlanks = skipStart outer cursor := by
  obtain ⟨blank, _, _, hstart⟩ := exists_blank_skipBlanks cursor
  rw [skipStart, skipBlanks_of_startsWith hstart, skipStart]

theorem skipStart_numeral {c : Char} (hc : StartsNumeral c) (rest : List Char) (outer : List Bracket)
    (offset : Nat) :
    skipStart outer ⟨c :: rest, offset⟩ =
      (if c = '-' then skipNumber ⟨rest, offset + 1⟩ else skipNumber ⟨c :: rest, offset⟩) >>=
        fun (_, cursor) => skipToNext outer cursor := by
  have hbounds := hc.bounds
  have hstart : StartsWith (· ∉ blankChars) (c :: rest) := by
    refine startsWith_cons_iff.2 fun hblank => ?_
    obtain rfl | rfl | rfl | rfl := mem_blankChars.1 hblank
    all_goals exact absurd hbounds (by decide)
  rw [skipStart, skipBlanks_of_startsWith hstart]
  rcases hc with rfl | hdigit
  · rfl
  · have hminus : c ≠ '-' := by
      rintro rfl
      cases hdigit
    have hsome : (digit? c).isSome = true := by rw [digit?_of_isDigit hdigit]; rfl
    rw [if_neg hminus]
    split
    · rename_i hfirst
      cases hfirst
    iterate 7
      · rename_i hfirst
        obtain ⟨rfl, _⟩ := List.cons.inj hfirst
        first | exact absurd hbounds (by decide) | exact absurd rfl hminus
    · rename_i hfirst
      obtain ⟨rfl, rfl⟩ := List.cons.inj hfirst
      rw [if_pos hsome]

theorem reading_skipWithin_scalar {outer : List Bracket} {cursor : Cursor}
    {scan : Except Fault (Unit × Cursor)} {rest final : List Char}
    (hstart : skipStart outer cursor = scan >>= fun (_, cursor) => skipToNext outer cursor)
    (hscan : reading scan = some ((), rest)) {budget : Nat}
    (hresume : ∀ offset, reading (resume budget outer ⟨rest, offset⟩) = some ((), final)) :
    reading (skipWithin (budget + 1) outer cursor) = some ((), final) := by
  rw [skipWithin_succ, hstart, bind_assoc]
  exact reading_bind hscan hresume

theorem passes_member {key : String} {value : Value} {text : List Char}
    (hvalue : ∀ text, Spells value text → Passes .list text)
    (hmember : SpellsMember Spells (key, value) text) : Passes .object text := by
  intro blank rest final budget outer hblank hends hbudget hresume offset
  cases hmember with
  | @mk _ _ body before after text hkey hbefore hafter htext =>
    have hsplit : '"' :: (body ++ '"' :: (before ++ ':' :: (after ++ text))) ++ rest =
        '"' :: (body ++ '"' :: (before ++ ':' :: (after ++ (text ++ rest)))) := by simp
    obtain ⟨offset', hskip⟩ := skipBlanks_append_cons hblank (c := '"') (by decide)
      (body ++ '"' :: (before ++ ':' :: (after ++ (text ++ rest)))) offset
    have hlead : Bracket.object.lead
        ⟨blank ++ ('"' :: (body ++ '"' :: (before ++ ':' :: (after ++ text))) ++ rest), offset⟩ =
        (skipString ⟨body ++ '"' :: (before ++ ':' :: (after ++ (text ++ rest))), offset' + 1⟩ >>=
          fun (_, cursor) => readColon cursor) := by
      rw [hsplit, Bracket.lead, skipKey, hskip]
      rfl
    simp only [List.length_append, List.length_cons] at hbudget hresume
    rw [hlead, bind_assoc]
    refine reading_bind (reading_skipString hkey _ _) fun offset => ?_
    refine reading_bind (reading_readColon hbefore _ _) fun offset => ?_
    exact hvalue text htext hafter hends (by omega) (fun fewer hfewer => hresume fewer (by omega)) offset

/-- Every spelling of a value is passed over. -/
theorem passes_spelling {value : Value} {text : List Char} (hspells : Spells value text) :
    Passes .list text := by
  induction value using Value.induction generalizing text with
  | step value ih =>
    intro blank rest final budget outer hblank hends hbudget hresume offset
    obtain ⟨offset', hskip⟩ := rest_skipBlanks_append hblank (hspells.startsWith rest) offset
    have hwithin : (Bracket.list.lead ⟨blank ++ (text ++ rest), offset⟩ >>= fun (_, cursor) =>
        skipWithin budget outer cursor) =
        skipWithin budget outer ⟨blank ++ (text ++ rest), offset⟩ := rfl
    -- a value costs one of the budget, and its text has a character to pay with
    have hpositive : 0 < text.length := by
      obtain ⟨c, tail, rfl, _⟩ := hspells.exists_cons
      exact Nat.succ_pos _
    obtain ⟨budget, rfl⟩ : ∃ fewer, budget = fewer + 1 := ⟨budget - 1, by omega⟩
    have hscalar := hresume budget (by omega)
    rw [hwithin, skipWithin_succ, ← skipStart_skipBlanks, hskip, ← skipWithin_succ]
    cases hspells with
    | null =>
      exact reading_skipWithin_scalar rfl (reading_readWord ['u', 'l', 'l'] rest (offset' + 1)) hscalar
    | true =>
      exact reading_skipWithin_scalar rfl (reading_readWord ['r', 'u', 'e'] rest (offset' + 1)) hscalar
    | false =>
      exact reading_skipWithin_scalar rfl
        (reading_readWord ['a', 'l', 's', 'e'] rest (offset' + 1)) hscalar
    | @string string body hbody =>
      have htext : '"' :: (body ++ ['"']) ++ rest = '"' :: (body ++ '"' :: rest) := by simp
      rw [htext]
      exact reading_skipWithin_scalar rfl (reading_skipString hbody rest (offset' + 1)) hscalar
    | @number numeral n hnumber =>
      have hnumeral : numeral.EndsBefore rest := hends.endsBefore numeral
      obtain ⟨c, tail, hchars, hc⟩ := numeral.exists_chars_cons
      rw [hchars, List.cons_append]
      exact reading_skipWithin_scalar (skipStart_numeral hc _ outer offset')
        (reading_skipSigned hchars hnumeral offset') hscalar
    | @array items body hitems =>
      rw [List.length_cons] at hbudget hresume
      refine reading_skipOpening hitems (fun _ _ => Spells.exists_cons)
        (fun item hmem text => ih item hmem) (Nat.le_of_succ_le_succ hbudget)
        (fun fewer hfewer => hresume fewer (by omega)) (offset' + 1)
    | @object members body hmembers =>
      rw [List.length_cons] at hbudget hresume
      have hstart : ∀ member text, SpellsMember Spells member text → ∃ c rest, text = c :: rest ∧
          c ∉ blankChars ∧ c ≠ Bracket.object.closing := by
        rintro _ _ ⟨⟩
        exact ⟨_, _, rfl, by decide, by decide⟩
      have hmember : ∀ member ∈ members, ∀ text, SpellsMember Spells member text → Passes .object text :=
        fun member hmem text => passes_member fun text => ih member.2 (List.mem_map_of_mem hmem)
      refine reading_skipOpening hmembers hstart hmember (Nat.le_of_succ_le_succ hbudget)
        (fun fewer hfewer => hresume fewer (by omega)) (offset' + 1)

/-- Passing over a value moves to where its text ends. -/
theorem reading_skipValue {value : Value} {text : List Char} (hspells : Spells value text)
    {blank : List Char} (hblank : IsBlank blank) {rest : List Char} (hends : EndsValue rest)
    (offset : Nat) :
    reading (skipValue ⟨blank ++ (text ++ rest), offset⟩) = some ((), rest) := by
  have hbudget : text.length ≤ (blank ++ (text ++ rest)).length + 1 := by
    simp only [List.length_append]
    omega
  exact passes_spelling hspells hblank hends hbudget (fun _ _ _ => rfl) offset

end SchemaTyping.Decode
