import SchemaTyping.Proofs.Json.Numeral

/-!
# Reading numerals

The reader of numbers takes a numeral to where it ends and gives the number that the numeral stands for
(`readNumber_chars`), and it takes nothing but numerals (`exists_numeral_of_readNumber`). Both rest on
one equation for each part of a numeral, with whatever follows the part as a variable.
-/

namespace SchemaTyping.Json

open Text (StartsWith startsWith_nil)

/-! ### Reading digits -/

theorem skipDigits_append {digits rest : List Char} (hdigits : AllDigits digits)
    (hrest : EndsDigits rest) (skipped offset : Nat) :
    skipDigits skipped (digits ++ rest) offset =
      (skipped + digits.length, ⟨rest, offset + digits.length⟩) := by
  induction digits generalizing skipped offset with
  | nil =>
    cases rest with
    | nil => rfl
    | cons c rest => simp [skipDigits, digit?_of_not_isDigit (hrest c rfl)]
  | cons c digits ih =>
    have hc : (digit? c).isSome = true := by simp [digit?_of_isDigit (hdigits c List.mem_cons_self)]
    rw [List.cons_append, skipDigits, if_pos hc, ih hdigits.tail]
    simp only [List.length_cons, Prod.mk.injEq, Cursor.mk.injEq, true_and]
    omega

/-- Digits that the significand has room for are gathered, and those left over are skipped. -/
theorem gatherDigits_append {digits rest : List Char} (hdigits : AllDigits digits)
    (hrest : EndsDigits rest) (significand taken offset : Nat) :
    ∃ cursor : Cursor,
      gatherDigits significand taken (digits ++ rest) offset =
          ((absorb significand digits).1, taken + (digits.length - (absorb significand digits).2),
            cursor) ∧
        skipDigits 0 cursor.rest cursor.offset =
          ((absorb significand digits).2, ⟨rest, offset + digits.length⟩) := by
  induction digits generalizing significand taken offset with
  | nil =>
    refine ⟨⟨rest, offset⟩, ?_, ?_⟩
    · cases rest with
      | nil => rfl
      | cons c rest => simp [gatherDigits, digit?_of_not_isDigit (hrest c rfl), absorb]
    · have hskip := skipDigits_append hdigits hrest 0 offset
      simpa [absorb] using hskip
  | cons c digits ih =>
    have hc := digit?_of_isDigit (hdigits c List.mem_cons_self)
    rw [List.cons_append, gatherDigits, absorb, hc]
    simp only
    split
    · obtain ⟨cursor, hgather, hskip⟩ :=
        ih hdigits.tail (significand * 10 + (c.toNat - '0'.toNat)) (taken + 1) (offset + 1)
      refine ⟨cursor, ?_, ?_⟩
      · have hleft := absorb_le_length digits (significand * 10 + (c.toNat - '0'.toNat))
        rw [hgather, List.length_cons]
        simp only [Prod.mk.injEq, true_and, and_true]
        omega
      · rw [hskip, List.length_cons]
        simp only [Prod.mk.injEq, Cursor.mk.injEq, true_and]
        omega
    · refine ⟨⟨c :: (digits ++ rest), offset⟩, ?_, ?_⟩
      · simp
      · have hskip := skipDigits_append hdigits hrest 0 offset
        simpa using hskip


/-! ### Reading the parts of a numeral -/

theorem reading_floatAt (negative : Bool) (significand : Nat) (exponent : Int) (cursor : Cursor) :
    reading (floatAt negative significand exponent cursor) =
      (scale? significand exponent).map fun x => (.float (if negative then -x else x), cursor.rest) := by
  unfold floatAt
  cases scale? significand exponent <;> rfl

/-- An exponent's digits are added up until there are too many for 31 bits. -/
theorem reading_exponentDigits {digits rest : List Char} (hdigits : AllDigits digits)
    (hrest : EndsDigits rest) (negative : Bool) (significand : Nat) (base : Int) (down : Bool)
    {exponent : Nat} (hexponent : exponent < exponentBound) (offset : Nat) :
    reading (exponentDigits negative significand base down exponent (digits ++ rest) offset) =
      (if Nat.ofDigitChars 10 digits exponent < exponentBound then
        scale? significand (if down then base - (Nat.ofDigitChars 10 digits exponent : Nat) else
          base + (Nat.ofDigitChars 10 digits exponent : Nat))
      else if significand ≠ 0 ∧ ¬ down then none
      else some 0.0).map fun x => (.float (if negative then -x else x), rest) := by
  induction digits generalizing exponent offset with
  | nil =>
    rw [Nat.ofDigitChars_nil, if_pos hexponent]
    cases rest with
    | nil => exact reading_floatAt _ _ _ _
    | cons c rest =>
      rw [List.nil_append, exponentDigits, digit?_of_not_isDigit (hrest c rfl)]
      exact reading_floatAt _ _ _ _
  | cons c digits ih =>
    rw [List.cons_append, exponentDigits, digit?_of_isDigit (hdigits c List.mem_cons_self),
      Nat.ofDigitChars_cons, Nat.mul_comm 10 exponent]
    simp only
    by_cases hnext : exponent * 10 + (c.toNat - '0'.toNat) < exponentBound
    · rw [if_pos hnext]
      exact ih hdigits.tail hnext (offset + 1)
    · have hlarge := le_ofDigitChars digits (exponent * 10 + (c.toNat - '0'.toNat))
      have hover : ¬ Nat.ofDigitChars 10 digits (exponent * 10 + (c.toNat - '0'.toNat)) <
          exponentBound := by omega
      rw [if_neg hnext, if_neg hover]
      by_cases hfault : significand ≠ 0 ∧ ¬ down = true
      · rw [if_pos hfault, if_pos hfault]
        rfl
      · rw [if_neg hfault, if_neg hfault, skipDigits_append hdigits.tail hrest]
        rfl

def exponentSign (cursor : Cursor) : Bool × Cursor :=
  match cursor.rest with
  | '-' :: rest => (true, ⟨rest, cursor.offset + 1⟩)
  | '+' :: rest => (false, ⟨rest, cursor.offset + 1⟩)
  | _ => (false, cursor)

theorem exponentPart_eq (negative : Bool) (significand : Nat) (base : Int) (cursor : Cursor) :
    exponentPart negative significand base cursor =
      match (exponentSign cursor).2.rest with
      | [] => .error ((exponentSign cursor).2.fault .endInValue)
      | c :: rest =>
        match digit? c with
        | some d =>
          exponentDigits negative significand base (exponentSign cursor).1 d rest
            ((exponentSign cursor).2.offset + 1)
        | none => .error ((exponentSign cursor).2.lookedFault .invalidNumber) := rfl


theorem exponentSign_append {sign digits : List Char} (hsign : sign = [] ∨ sign = ['+'] ∨ sign = ['-'])
    (hdigits : AllDigits digits) (hnonempty : digits ≠ []) (rest : List Char) (offset : Nat) :
    exponentSign ⟨sign ++ (digits ++ rest), offset⟩ =
      (decide (sign = ['-']), ⟨digits ++ rest, offset + sign.length⟩) := by
  rcases hsign with rfl | rfl | rfl
  · cases digits with
    | nil => exact absurd rfl hnonempty
    | cons c digits =>
      have hc := hdigits c List.mem_cons_self
      have hminus : c ≠ '-' := by
        rintro rfl
        cases hc
      have hplus : c ≠ '+' := by
        rintro rfl
        cases hc
      simp [exponentSign, hminus, hplus]
  · rfl
  · rfl

theorem reading_exponentPart (exponent : Exponent) {rest : List Char}
    (hrest : EndsDigits rest) (negative : Bool) (significand : Nat) (base : Int) (offset : Nat) :
    reading (exponentPart negative significand base
      ⟨exponent.sign ++ (exponent.digits ++ rest), offset⟩) =
      (scaled? significand base (some exponent)).map fun x =>
        (.float (if negative then -x else x), rest) := by
  obtain ⟨letter, sign, digits, hletter, hsign, hnonempty, hdigits⟩ := exponent
  rw [exponentPart_eq, exponentSign_append hsign hdigits hnonempty]
  cases digits with
  | nil => exact absurd rfl hnonempty
  | cons c digits =>
    have hc := digit?_of_isDigit (hdigits c List.mem_cons_self)
    have hbounds := Char.isDigit_iff_toNat.1 (hdigits c List.mem_cons_self)
    have hsmall : c.toNat - '0'.toNat < exponentBound := by
      have hnine : '9'.toNat = 57 := rfl
      unfold exponentBound
      omega
    have hvalue : digitsValue (c :: digits) = Nat.ofDigitChars 10 digits (c.toNat - '0'.toNat) := by
      rw [digitsValue, Nat.ofDigitChars_cons, Nat.mul_zero, Nat.zero_add]
    simp only [List.cons_append, hc]
    rw [reading_exponentDigits hdigits.tail hrest _ _ _ _ hsmall]
    by_cases hminus : sign = ['-']
    · simp [scaled?, Exponent.shift, hminus, hvalue, Int.sub_eq_add_neg]
    · simp [scaled?, Exponent.shift, hminus, hvalue]

theorem exponentSign_rest (text : List Char) (offset : Nat) :
    ∃ sign, (sign = [] ∨ sign = ['+'] ∨ sign = ['-']) ∧
      text = sign ++ (exponentSign ⟨text, offset⟩).2.rest := by
  unfold exponentSign
  split
  · rename_i rest hrest
    exact ⟨['-'], .inr (.inr rfl), hrest⟩
  · rename_i rest hrest
    exact ⟨['+'], .inr (.inl rfl), hrest⟩
  · exact ⟨[], .inl rfl, rfl⟩

theorem exists_exponent {negative : Bool} {significand : Nat} {base : Int} {text : List Char}
    {offset : Nat} {result : Number × Cursor}
    (hread : exponentPart negative significand base ⟨text, offset⟩ = .ok result) {letter : Char}
    (hletter : letter = 'e' ∨ letter = 'E') :
    ∃ (exponent : Exponent) (rest : List Char), letter :: text = exponent.chars ++ rest ∧
      EndsDigits rest := by
  obtain ⟨sign, hsign, htext⟩ := exponentSign_rest text offset
  obtain ⟨digits, rest, hdigits, hall, hrest⟩ := exists_digits (exponentSign ⟨text, offset⟩).2.rest
  rw [exponentPart_eq, hdigits] at hread
  have hnonempty : digits ≠ [] := by
    rintro rfl
    cases rest with
    | nil => cases hread
    | cons c rest =>
      simp only [List.nil_append, digit?_of_not_isDigit (hrest c rfl)] at hread
      cases hread
  refine ⟨⟨letter, sign, digits, hletter, hsign, hnonempty, hall⟩, rest, ?_, hrest⟩
  rw [hdigits] at htext
  rw [htext, Exponent.chars, List.cons_append, List.append_assoc]

/-! ### Reading numerals -/

theorem reading_afterDigits (exponent? : Option Exponent) {rest : List Char}
    (hdigits : EndsDigits rest)
    (hends : exponent? = none → StartsWith (fun c => c ≠ 'e' ∧ c ≠ 'E') rest)
    (negative : Bool) (significand : Nat) (power : Int) (offset : Nat) :
    reading (afterDigits negative significand power
      ⟨(exponent?.map Exponent.chars).getD [] ++ rest, offset⟩) =
      (scaled? significand power exponent?).map fun x =>
        (.float (if negative then -x else x), rest) := by
  cases exponent? with
  | none =>
    have hplain : afterDigits negative significand power ⟨rest, offset⟩ =
        floatAt negative significand power ⟨rest, offset⟩ := by
      cases rest with
      | nil => rfl
      | cons c rest =>
        obtain ⟨hlower, hupper⟩ := hends rfl c rfl
        simp [afterDigits, hlower, hupper]
    show reading (afterDigits negative significand power ⟨rest, offset⟩) = _
    rw [hplain, reading_floatAt]
    rfl
  | some exponent =>
    have hpart : afterDigits negative significand power ⟨exponent.chars ++ rest, offset⟩ =
        exponentPart negative significand power
          ⟨exponent.sign ++ (exponent.digits ++ rest), offset + 1⟩ := by
      rw [Exponent.chars, List.cons_append, List.append_assoc]
      rcases exponent.isLetter with hletter | hletter <;> rw [hletter] <;> rfl
    show reading (afterDigits negative significand power ⟨exponent.chars ++ rest, offset⟩) = _
    rw [hpart, reading_exponentPart exponent hdigits]

theorem fractionPart_append {digits rest : List Char} (hdigits : AllDigits digits)
    (hrest : EndsDigits rest) (hnonempty : digits ≠ []) (negative : Bool)
    (significand dropped offset : Nat) :
    fractionPart negative significand dropped ⟨digits ++ rest, offset⟩ =
      afterDigits negative (absorb significand digits).1
        ((dropped : Int) - ((digits.length - (absorb significand digits).2 : Nat) : Int))
        ⟨rest, offset + digits.length⟩ := by
  obtain ⟨cursor, hgather, hskip⟩ := gatherDigits_append hdigits hrest significand 0 offset
  have hsome : ¬ 0 + (digits.length - (absorb significand digits).2) +
      (absorb significand digits).2 = 0 := by
    have hleft := absorb_le_length digits significand
    have hlength := List.length_pos_of_ne_nil hnonempty
    omega
  unfold fractionPart
  simp only [hgather, hskip]
  rw [if_neg hsome, Nat.zero_add]

def afterWhole (negative : Bool) (significand dropped : Nat) (cursor : Cursor) :
    Except Fault (Number × Cursor) :=
  match cursor.rest with
  | '.' :: rest => fractionPart negative significand dropped ⟨rest, cursor.offset + 1⟩
  | 'e' :: rest => exponentPart negative significand dropped ⟨rest, cursor.offset + 1⟩
  | 'E' :: rest => exponentPart negative significand dropped ⟨rest, cursor.offset + 1⟩
  | _ =>
    if dropped = 0 then .ok (wholeNumber negative significand, cursor)
    else floatAt negative significand dropped cursor

theorem unsignedNumber_append {digits rest : List Char} (hdigits : AllDigits digits)
    (hrest : EndsDigits rest) (negative : Bool) (offset : Nat) :
    unsignedNumber negative ⟨digits ++ rest, offset⟩ =
      afterWhole negative (absorb 0 digits).1 (absorb 0 digits).2 ⟨rest, offset + digits.length⟩ := by
  obtain ⟨cursor, hgather, hskip⟩ := gatherDigits_append hdigits hrest 0 0 offset
  unfold unsignedNumber
  simp only [hgather, hskip]
  rfl

theorem readMagnitude_append {digits rest : List Char} (hdigits : AllDigits digits)
    (hrest : EndsDigits rest) (hnonempty : digits ≠ [])
    (hzero : digits.head? = some '0' → digits = ['0']) (negative : Bool) (offset : Nat) :
    readMagnitude negative ⟨digits ++ rest, offset⟩ =
      afterWhole negative (absorb 0 digits).1 (absorb 0 digits).2 ⟨rest, offset + digits.length⟩ := by
  rw [← unsignedNumber_append hdigits hrest]
  cases digits with
  | nil => exact absurd rfl hnonempty
  | cons c digits =>
    have hc := digit?_of_isDigit (hdigits c List.mem_cons_self)
    rw [List.cons_append]
    cases hvalue : c.toNat - '0'.toNat with
    | succ value =>
      rw [hvalue] at hc
      simp only [readMagnitude, hc]
      cases digits ++ rest <;> rfl
    | zero =>
      -- a leading zero is the only digit
      have hbounds := Char.isDigit_iff_toNat.1 (hdigits c List.mem_cons_self)
      have hcode : c.toNat = '0'.toNat := by omega
      obtain rfl : c = '0' := Char.toNat_inj.1 hcode
      obtain ⟨_, rfl⟩ := List.cons.inj (hzero rfl)
      cases rest with
      | nil => rfl
      | cons next rest => simp [readMagnitude, hc, digit?_of_not_isDigit (hrest next rfl)]

theorem Numeral.exponentChars_append (numeral : Numeral) {rest : List Char}
    (hends : numeral.EndsBefore rest) :
    EndsDigits (numeral.exponentChars ++ rest) := by
  unfold Numeral.exponentChars
  cases numeral.exponent with
  | none => exact hends.digits
  | some exponent =>
    have hletter : exponent.letter.isDigit = false := by
      rcases exponent.isLetter with hletter | hletter <;> rw [hletter] <;> rfl
    exact endsDigits_cons hletter _

theorem afterWhole_plain (numeral : Numeral) {rest : List Char} (hends : numeral.EndsBefore rest)
    (hfraction : numeral.fraction = []) (hexponent : numeral.exponent = none) (negative : Bool)
    (significand dropped offset : Nat) :
    afterWhole negative significand dropped ⟨numeral.exponentChars ++ rest, offset⟩ =
      if dropped = 0 then .ok (wholeNumber negative significand, ⟨rest, offset⟩)
      else floatAt negative significand dropped ⟨rest, offset⟩ := by
  rw [Numeral.exponentChars, hexponent]
  cases rest with
  | nil => rfl
  | cons c rest =>
    obtain ⟨hlower, hupper⟩ := hends.exponent hexponent c rfl
    have hpoint := hends.point hexponent hfraction c rfl
    simp [afterWhole, hlower, hupper, hpoint]

theorem afterWhole_exponent {numeral : Numeral} {exponent : Exponent}
    (hexponent : numeral.exponent = some exponent) (rest : List Char) (negative : Bool)
    (significand dropped offset : Nat) :
    afterWhole negative significand dropped ⟨numeral.exponentChars ++ rest, offset⟩ =
      exponentPart negative significand dropped
        ⟨exponent.sign ++ (exponent.digits ++ rest), offset + 1⟩ := by
  rw [Numeral.exponentChars, hexponent, Option.map_some, Option.getD_some, Exponent.chars,
    List.cons_append, List.append_assoc]
  obtain hletter | hletter := exponent.isLetter <;> rw [hletter] <;> rfl

theorem afterWhole_fraction (numeral : Numeral) {rest : List Char} (hends : numeral.EndsBefore rest)
    (hfraction : numeral.fraction ≠ []) (offset : Nat) :
    afterWhole numeral.negative numeral.absorbedWhole.1 numeral.absorbedWhole.2
        ⟨numeral.fractionChars ++ (numeral.exponentChars ++ rest), offset⟩ =
      afterDigits numeral.negative numeral.absorbed.1 numeral.power
        ⟨numeral.exponentChars ++ rest, offset + 1 + numeral.fraction.length⟩ := by
  rw [Numeral.fractionChars, if_neg hfraction]
  exact fractionPart_append numeral.allDigits_fraction
    (numeral.exponentChars_append hends) hfraction _ _ _ _

theorem reading_afterWhole (numeral : Numeral) {rest : List Char} (hends : numeral.EndsBefore rest)
    (offset : Nat) :
    reading (afterWhole numeral.negative numeral.absorbedWhole.1 numeral.absorbedWhole.2
        ⟨numeral.fractionChars ++ (numeral.exponentChars ++ rest), offset⟩) =
      numeral.number?.map fun n => (n, rest) := by
  by_cases hfraction : numeral.fraction = []
  · rw [Numeral.fractionChars, if_pos hfraction, List.nil_append]
    cases hexponent : numeral.exponent with
    | none =>
      rw [afterWhole_plain numeral hends hfraction hexponent,
        Numeral.number?_of_plain hfraction hexponent]
      split
      · rfl
      · rw [reading_floatAt, Option.map_map]
        rfl
    | some exponent =>
      rw [afterWhole_exponent hexponent, reading_exponentPart exponent hends.digits,
        Numeral.number?_of_not_plain (by simp [hexponent]), Numeral.double?,
        if_neg (by simp [hexponent]), hexponent, Numeral.absorbed_of_no_fraction hfraction,
        Numeral.power_of_no_fraction hfraction, Option.map_map, Option.map_map]
      rfl
  · rw [afterWhole_fraction numeral hends hfraction, Numeral.exponentChars,
      reading_afterDigits numeral.exponent hends.digits hends.exponent,
      Numeral.number?_of_not_plain fun hplain => hfraction hplain.1, Numeral.double?,
      if_neg fun hplain => hfraction hplain.1, Option.map_map, Option.map_map]
    rfl

/-- A numeral is read to its end, and gives the number that it stands for. -/
theorem readNumber_chars (numeral : Numeral) {rest : List Char} (hends : numeral.EndsBefore rest)
    (offset : Nat) :
    reading (readNumber ⟨numeral.chars ++ rest, offset⟩) = numeral.number?.map fun n => (n, rest) := by
  have hstart : EndsDigits (numeral.fractionChars ++ (numeral.exponentChars ++ rest)) := by
    unfold Numeral.fractionChars
    split
    · exact numeral.exponentChars_append hends
    · exact endsDigits_cons rfl _
  have hmagnitude :=
    readMagnitude_append numeral.allDigits_whole hstart numeral.nonempty numeral.noLeadingZero
    numeral.negative
  have hread : ∃ offset', readNumber ⟨numeral.chars ++ rest, offset⟩ =
      readMagnitude numeral.negative
        ⟨numeral.whole ++ (numeral.fractionChars ++ (numeral.exponentChars ++ rest)), offset'⟩ := by
    cases hnegative : numeral.negative with
    | true =>
      refine ⟨offset + 1, ?_⟩
      simp only [Numeral.chars, hnegative, if_true, List.append_assoc]
      rfl
    | false =>
      refine ⟨offset, ?_⟩
      simp only [Numeral.chars, hnegative, List.append_assoc]
      cases hwhole : numeral.whole with
      | nil => exact absurd hwhole numeral.nonempty
      | cons c digits =>
        have hc : c.isDigit = true :=
          numeral.allDigits_whole c (by rw [hwhole]; exact List.mem_cons_self)
        have hminus : c ≠ '-' := by
          rintro rfl
          cases hc
        simp [readNumber, hminus]
  obtain ⟨offset', hread⟩ := hread
  rw [hread, hmagnitude]
  exact reading_afterWhole numeral hends _

/-! ### What is read is a numeral -/

theorem exists_fraction {negative : Bool} {significand dropped : Nat} {text : List Char} {offset : Nat}
    {result : Number × Cursor}
    (hread : fractionPart negative significand dropped ⟨text, offset⟩ = .ok result) :
    ∃ digits rest, text = digits ++ rest ∧ AllDigits digits ∧ digits ≠ [] ∧ EndsDigits rest ∧
      ∃ power offset', afterDigits negative (absorb significand digits).1 power ⟨rest, offset'⟩ =
        .ok result := by
  obtain ⟨digits, rest, rfl, hdigits, hrest⟩ := exists_digits text
  by_cases hnonempty : digits = []
  · subst hnonempty
    obtain ⟨cursor, hgather, hskip⟩ := gatherDigits_append hdigits hrest significand 0 offset
    simp only [fractionPart, hgather, hskip, absorb, List.length_nil] at hread
    cases rest <;> cases hread
  · rw [fractionPart_append hdigits hrest hnonempty] at hread
    exact ⟨digits, rest, rfl, hdigits, hnonempty, hrest, _, _, hread⟩

theorem exists_exponent? {negative : Bool} {significand : Nat} {power : Int} {text : List Char}
    {offset : Nat} {result : Number × Cursor} (hstart : EndsDigits text)
    (hread : afterDigits negative significand power ⟨text, offset⟩ = .ok result) :
    ∃ (exponent? : Option Exponent) (rest : List Char),
      text = (exponent?.map Exponent.chars).getD [] ++ rest ∧
      EndsDigits rest ∧
      (exponent? = none → StartsWith (fun c => c ≠ 'e' ∧ c ≠ 'E') rest) := by
  have hexponent : ∀ {letter : Char} {rest : List Char}, letter = 'e' ∨ letter = 'E' →
      text = letter :: rest →
      exponentPart negative significand power ⟨rest, offset + 1⟩ = .ok result →
      ∃ (exponent? : Option Exponent) (rest : List Char),
        text = (exponent?.map Exponent.chars).getD [] ++ rest ∧
        EndsDigits rest ∧
        (exponent? = none → StartsWith (fun c => c ≠ 'e' ∧ c ≠ 'E') rest) := by
    intro letter rest hletter htext hread
    obtain ⟨exponent, rest', hchars, hrest'⟩ := exists_exponent hread hletter
    refine ⟨some exponent, rest', htext.trans hchars, hrest', fun hnone => ?_⟩
    cases hnone
  cases text with
  | nil => exact ⟨none, [], rfl, startsWith_nil _, fun _ => startsWith_nil _⟩
  | cons c rest =>
    by_cases hlower : c = 'e'
    · subst hlower
      exact hexponent (.inl rfl) rfl hread
    · by_cases hupper : c = 'E'
      · subst hupper
        exact hexponent (.inr rfl) rfl hread
      · exact ⟨none, c :: rest, rfl, hstart, fun _ => startsWith_cons_iff.2 ⟨hlower, hupper⟩⟩


/-- The whole part of a numeral and what follows it. -/
theorem exists_whole {negative : Bool} {text : List Char} {offset : Nat} {result : Number × Cursor}
    (hread : readMagnitude negative ⟨text, offset⟩ = .ok result) :
    ∃ digits rest, text = digits ++ rest ∧ AllDigits digits ∧ digits ≠ [] ∧
      (digits.head? = some '0' → digits = ['0']) ∧
      EndsDigits rest ∧ ∃ offset',
      afterWhole negative (absorb 0 digits).1 (absorb 0 digits).2 ⟨rest, offset'⟩ = .ok result := by
  obtain ⟨digits, rest, rfl, hdigits, hrest⟩ := exists_digits text
  have hnonempty : digits ≠ [] := by
    rintro rfl
    cases rest with
    | nil => cases hread
    | cons c rest =>
      simp only [List.nil_append, readMagnitude, digit?_of_not_isDigit (hrest c rfl)] at hread
      cases hread
  have hzero : digits.head? = some '0' → digits = ['0'] := by
    intro hhead
    cases digits with
    | nil => cases hhead
    | cons c digits =>
      obtain rfl := Option.some.inj hhead
      cases digits with
      | nil => rfl
      | cons next digits =>
        -- a digit behind a leading zero is refused
        have hnext := digit?_of_isDigit (hdigits.tail next List.mem_cons_self)
        have hfault : readMagnitude negative ⟨'0' :: next :: (digits ++ rest), offset⟩ =
            .error (Cursor.lookedFault ⟨next :: (digits ++ rest), offset + 1⟩ .invalidNumber) := by
          have hcode : digit? '0' = some 0 := rfl
          simp [readMagnitude, hcode, hnext]
        rw [List.cons_append, List.cons_append, hfault] at hread
        cases hread
  rw [readMagnitude_append hdigits hrest hnonempty hzero] at hread
  exact ⟨digits, rest, rfl, hdigits, hnonempty, hzero, hrest, _, hread⟩

theorem exists_numeral_of_readMagnitude {negative : Bool} {text : List Char} {offset : Nat}
    {result : Number × Cursor} (hread : readMagnitude negative ⟨text, offset⟩ = .ok result) :
    ∃ (numeral : Numeral) (rest : List Char), numeral.negative = negative ∧
      text = numeral.whole ++ (numeral.fractionChars ++ (numeral.exponentChars ++ rest)) ∧
      numeral.EndsBefore rest := by
  obtain ⟨whole, rest, rfl, hwhole, hnonempty, hzero, hrest, offset', hread⟩ := exists_whole hread
  have hexponent : ∀ {letter : Char} {after : List Char}, letter = 'e' ∨ letter = 'E' →
      rest = letter :: after →
      exponentPart negative (absorb 0 whole).1 (absorb 0 whole).2 ⟨after, offset' + 1⟩ = .ok result →
      ∃ (numeral : Numeral) (rest' : List Char), numeral.negative = negative ∧
        whole ++ rest = numeral.whole ++ (numeral.fractionChars ++ (numeral.exponentChars ++ rest')) ∧
        numeral.EndsBefore rest' := by
    intro letter after hletter hafter hread
    obtain ⟨exponent, rest', hchars, hrest'⟩ := exists_exponent hread hletter
    refine ⟨⟨negative, whole, [], some exponent, hnonempty, hwhole, hzero,
      fun c hc => absurd hc List.not_mem_nil⟩, rest', rfl, ?_, hrest', nofun, nofun⟩
    rw [hafter, hchars]
    rfl
  cases rest with
  | nil =>
    exact ⟨⟨negative, whole, [], none, hnonempty, hwhole, hzero, fun c hc => absurd hc List.not_mem_nil⟩,
      [], rfl, rfl, hrest, fun _ => startsWith_nil _, fun _ _ => startsWith_nil _⟩
  | cons c rest =>
    by_cases hpoint : c = '.'
    · subst hpoint
      obtain ⟨fraction, rest', rfl, hfraction, hsome, hrest', power, offset'', hread⟩ :=
        exists_fraction hread
      obtain ⟨exponent?, rest, rfl, hdigits, hends⟩ := exists_exponent? hrest' hread
      refine ⟨⟨negative, whole, fraction, exponent?, hnonempty, hwhole, hzero, hfraction⟩, rest, rfl, ?_,
        hdigits, hends,
        fun _ hnone => absurd hnone hsome⟩
      simp only [Numeral.fractionChars, if_neg hsome]
      rfl
    · by_cases hlower : c = 'e'
      · subst hlower
        exact hexponent (.inl rfl) rfl hread
      · by_cases hupper : c = 'E'
        · subst hupper
          exact hexponent (.inr rfl) rfl hread
        · exact ⟨⟨negative, whole, [], none, hnonempty, hwhole, hzero,
            fun c hc => absurd hc List.not_mem_nil⟩, c :: rest, rfl, rfl, hrest,
              fun _ => startsWith_cons_iff.2 ⟨hlower, hupper⟩,
            fun _ _ => startsWith_cons_iff.2 hpoint⟩

/-- What is read as a number is a numeral, and the number is the one that it stands for. -/
theorem exists_numeral_of_readNumber {cursor after : Cursor} {n : Number}
    (hread : readNumber cursor = .ok (n, after)) :
    ∃ numeral : Numeral, cursor.rest = numeral.chars ++ after.rest ∧ numeral.number? = some n := by
  obtain ⟨text, offset⟩ := cursor
  have hnumeral : ∃ (numeral : Numeral) (rest : List Char), text = numeral.chars ++ rest ∧
      numeral.EndsBefore rest := by
    have hmagnitude : ∀ (negative : Bool) (digits : List Char) {offset' : Nat},
        text = (if negative then ['-'] else []) ++ digits →
          readMagnitude negative ⟨digits, offset'⟩ = .ok (n, after) →
        ∃ (numeral : Numeral) (rest : List Char), text = numeral.chars ++ rest ∧
          numeral.EndsBefore rest := by
      intro negative digits offset' htext hread
      obtain ⟨numeral, rest, rfl, hdigits, hends⟩ := exists_numeral_of_readMagnitude hread
      refine ⟨numeral, rest, ?_, hends⟩
      rw [htext, hdigits, Numeral.chars]
      simp only [List.append_assoc]
    unfold readNumber at hread
    split at hread
    · rename_i rest hrest
      exact hmagnitude true rest hrest hread
    · exact hmagnitude false text rfl hread
  obtain ⟨numeral, rest, rfl, hends⟩ := hnumeral
  have hreading := readNumber_chars numeral hends offset
  rw [hread] at hreading
  cases hnumber : numeral.number? with
  | none =>
    rw [hnumber] at hreading
    cases hreading
  | some m =>
    rw [hnumber] at hreading
    obtain ⟨rfl, hrest⟩ := Prod.mk.inj (Option.some.inj hreading)
    exact ⟨numeral, by rw [hrest], hnumber⟩

end SchemaTyping.Json
