import SchemaTyping.Proofs.Json.NumeralReading
import SchemaTyping.Proofs.Json.Alike

/-!
# Reading a numeral is local

Digits are read up to the first character that is none, and that character is looked at. So each part of
a numeral is given as what is done at the end of its digits: if that is local, it is local behind the
digits too (`local_gathered`, `local_skipped`).
-/

namespace SchemaTyping.Json

variable {α : Type} {n : Nat}

theorem utf8Size_of_digit {c : Char} {d : Nat} (hdigit : digit? c = some d) : c.utf8Size = 1 := by
  unfold digit? at hdigit
  split at hdigit
  · rename_i hbounds
    exact Text.utf8Size_of_ascii (Nat.le_trans (UInt32.le_iff_toNat_le.1 hbounds.2) (by decide))
  · cases hdigit

theorem digit?_of_wide {c : Char} (hc : 1 < c.utf8Size) : digit? c = none := by
  cases hdigit : digit? c with
  | none => rfl
  | some d =>
    have hsize := utf8Size_of_digit hdigit
    omega

theorem digit_lt {c : Char} {d : Nat} (hdigit : digit? c = some d) : d < 10 := by
  unfold digit? at hdigit
  split at hdigit
  · rename_i hbounds
    have hnine : c.toNat ≤ 57 := UInt32.le_iff_toNat_le.1 hbounds.2
    have hvalue : c.toNat - 48 = d := Option.some.inj hdigit
    omega
  · cases hdigit

/-! ### Behind digits -/

/-- What is done behind the digits that are gathered. -/
def gathered (next : Nat → Nat → Cursor → Except Fault (α × Cursor)) (state : Nat × Nat)
    (cursor : Cursor) : Except Fault (α × Cursor) :=
  let (significand, taken, after) := gatherDigits state.1 state.2 cursor.rest cursor.offset
  next significand taken after

/-- What is done behind the digits that are skipped. -/
def skipped (next : Nat → Cursor → Except Fault (α × Cursor)) (count : Nat) (cursor : Cursor) :
    Except Fault (α × Cursor) :=
  let (count, after) := skipDigits count cursor.rest cursor.offset
  next count after

section

variable {next : Nat → Nat → Cursor → Except Fault (α × Cursor)} {c : Char}

theorem gathered_digit {d : Nat} (hdigit : digit? c = some d) {state : Nat × Nat}
    (hroom : state.1 * 10 + d < significandBound) (rest : List Char) (offset : Nat) :
    gathered next state ⟨c :: rest, offset⟩ = gathered next (state.1 * 10 + d, state.2 + 1)
      ⟨rest, offset + c.utf8Size⟩ := by
  simp only [gathered, gatherDigits, hdigit, if_pos hroom, utf8Size_of_digit hdigit]

theorem gathered_stop {state : Nat × Nat}
    (hstop : ∀ d, digit? c = some d → ¬ state.1 * 10 + d < significandBound) (rest : List Char)
    (offset : Nat) :
    gathered next state ⟨c :: rest, offset⟩ = next state.1 state.2 ⟨c :: rest, offset⟩ := by
  cases hdigit : digit? c with
  | none => simp only [gathered, gatherDigits, hdigit]
  | some d => simp only [gathered, gatherDigits, hdigit, if_neg (hstop d hdigit)]

theorem local_gathered (hnext : ∀ significand taken, Local (next significand taken))
    (state : Nat × Nat) : Local (gathered next state) := by
  refine local_of_tail (fun {state n offset} => ?_)
    (fun {c rest} hrest {state n offset other} hhead => ?_) state
  · exact (hnext state.1 state.2).follows (.ended offset)
  by_cases hroom : ∃ d, digit? c = some d ∧ state.1 * 10 + d < significandBound
  · obtain ⟨d, hdigit, hroom⟩ := hroom
    cases hhead with
    | same _ hrest' =>
      rw [gathered_digit hdigit hroom, gathered_digit hdigit hroom]
      exact (hrest hrest').behind (reaches_cons c rest offset)
    | cut _ rest' hc =>
      -- a digit is one byte, so it is not cut
      have hsize := utf8Size_of_digit hdigit
      omega
  · have hstop : ∀ d, digit? c = some d → ¬ state.1 * 10 + d < significandBound :=
      fun d hdigit hlt => hroom ⟨d, hdigit, hlt⟩
    rw [gathered_stop hstop]
    cases hhead with
    | same _ hrest' =>
      rw [gathered_stop hstop]
      exact (hnext _ _).follows (.same c hrest')
    | @cut _ d _ rest' _ hc hd hn hn' =>
      rw [gathered_stop fun e hdigit => absurd hdigit (by rw [digit?_of_wide hd]; nofun)]
      exact (hnext _ _).follows (.cut rest rest' hc hd hn hn')

end

section

variable {next : Nat → Cursor → Except Fault (α × Cursor)} {c : Char}

theorem skipped_digit (hdigit : (digit? c).isSome = true) (count : Nat) (rest : List Char)
    (offset : Nat) :
    skipped next count ⟨c :: rest, offset⟩ = skipped next (count + 1) ⟨rest, offset + c.utf8Size⟩ := by
  obtain ⟨d, hd⟩ := Option.isSome_iff_exists.1 hdigit
  simp only [skipped, skipDigits, if_pos hdigit, utf8Size_of_digit hd]

theorem skipped_stop (hdigit : ¬ (digit? c).isSome = true) (count : Nat) (rest : List Char)
    (offset : Nat) :
    skipped next count ⟨c :: rest, offset⟩ = next count ⟨c :: rest, offset⟩ := by
  simp only [skipped, skipDigits, if_neg hdigit]

theorem local_skipped (hnext : ∀ count, Local (next count)) (count : Nat) :
    Local (skipped next count) := by
  refine local_of_tail (fun {count n offset} => ?_)
    (fun {c rest} hrest {count n offset other} hhead => ?_) count
  · exact (hnext count).follows (.ended offset)
  cases hhead with
  | same _ hrest' =>
    by_cases hdigit : (digit? c).isSome = true
    · rw [skipped_digit hdigit, skipped_digit hdigit]
      exact (hrest hrest').behind (reaches_cons c rest offset)
    · rw [skipped_stop hdigit, skipped_stop hdigit]
      exact (hnext count).follows (.same c hrest')
  | @cut _ d _ rest' _ hc hd hn hn' =>
    rw [skipped_stop (by rw [digit?_of_wide hc]; nofun), skipped_stop (by rw [digit?_of_wide hd]; nofun)]
    exact (hnext count).follows (.cut rest rest' hc hd hn hn')

end

/-! ### Exponents -/

theorem local_floatAt (negative : Bool) (significand : Nat) (exponent : Int) :
    Local (floatAt negative significand exponent) := by
  unfold floatAt
  cases scale? significand exponent with
  | some x => exact local_ok _
  | none => exact local_fault _

/-- The further digits of an exponent, as a reader. -/
def exponentFrom (negative : Bool) (significand : Nat) (base : Int) (down : Bool) (exponent : Nat)
    (cursor : Cursor) :
    Except Fault (Number × Cursor) :=
  exponentDigits negative significand base down exponent cursor.rest cursor.offset

section

variable (negative : Bool) (significand : Nat) (base : Int) (down : Bool)

theorem exponentFrom_stop {c : Char} (hdigit : digit? c = none) (exponent : Nat) (rest : List Char)
    (offset : Nat) :
    exponentFrom negative significand base down exponent ⟨c :: rest, offset⟩ =
      floatAt negative significand (if down then base - exponent else base + exponent)
        ⟨c :: rest, offset⟩ := by
  simp only [exponentFrom, exponentDigits, hdigit]

theorem local_exponentFrom (exponent : Nat) :
    Local (exponentFrom negative significand base down exponent) := by
  refine local_of_tail (fun {exponent n offset} => ?_)
    (fun {c rest} hrest {exponent n offset other} hhead => ?_) exponent
  · exact (local_floatAt _ _ _).follows (.ended offset)
  cases hhead with
  | @same _ _ rest' _ hrest' =>
    cases hdigit : digit? c with
    | none =>
      rw [exponentFrom_stop _ _ _ _ hdigit, exponentFrom_stop _ _ _ _ hdigit]
      exact (local_floatAt _ _ _).follows (.same c hrest')
    | some d =>
      have hreaches := reaches_cons c rest offset
      rw [utf8Size_of_digit hdigit] at hreaches hrest'
      refine Follows.behind hreaches ?_
      simp only [exponentFrom, exponentDigits, hdigit]
      split
      · exact hrest hrest'
      · split
        · exact .atCursor .numberOutOfRange
        · have hzero : ∀ count,
              Local ((fun _ after => .ok (.float (if negative then -0.0 else 0.0), after) :
              Nat → Cursor → Except Fault (Number × Cursor)) count) := fun _ => local_ok _
          exact (local_skipped hzero 0).follows hrest'
  | @cut _ d _ rest' _ hc hd hn hn' =>
    rw [exponentFrom_stop _ _ _ _ (digit?_of_wide hc), exponentFrom_stop _ _ _ _ (digit?_of_wide hd)]
    exact (local_floatAt _ _ _).follows (.cut rest rest' hc hd hn hn')

def exponentUnsigned (cursor : Cursor) : Except Fault (Number × Cursor) :=
  match cursor.rest with
  | [] => .error (cursor.fault .endInValue)
  | c :: rest =>
    match digit? c with
    | some d => exponentDigits negative significand base down d rest (cursor.offset + 1)
    | none => .error (cursor.lookedFault .invalidNumber)

theorem local_exponentUnsigned : Local (exponentUnsigned negative significand base down) := by
  refine local_of_special (fun c => ∃ d, digit? c = some d) _ ?_ (fun _ => .atCursor .endInValue) ?_
    (local_looked .invalidNumber) ?_
  · rintro c ⟨d, hdigit⟩
    exact utf8Size_of_digit hdigit
  · rintro c ⟨d, hdigit⟩ n offset rest rest' hrest
    simp only [exponentUnsigned, hdigit]
    exact (local_exponentFrom negative significand base down d).follows hrest
  · intro c hc rest offset
    have hdigit : digit? c = none := Option.eq_none_iff_forall_ne_some.2 fun d hd => hc ⟨d, hd⟩
    simp only [exponentUnsigned, hdigit]

theorem local_exponentPart : Local (exponentPart negative significand base) := by
  refine local_of_special (fun c => c = '-' ∨ c = '+') _ ?_ (fun _ => .atCursor .endInValue) ?_
    (local_exponentUnsigned negative significand base false) ?_
  · rintro c (rfl | rfl) <;> rfl
  · rintro c (rfl | rfl) n offset rest rest' hrest
    · exact (local_exponentUnsigned negative significand base true).follows hrest
    · exact (local_exponentUnsigned negative significand base false).follows hrest
  · intro c hc rest offset
    obtain ⟨hminus, hplus⟩ := not_or.1 hc
    have hsign : exponentSign ⟨c :: rest, offset⟩ = (false, ⟨c :: rest, offset⟩) := by
      simp [exponentSign, hminus, hplus]
    rw [exponentPart_eq, hsign]
    rfl

end

/-! ### Numerals -/

section

variable (negative : Bool) (significand : Nat)

theorem local_afterDigits (exponent : Int) : Local (afterDigits negative significand exponent) := by
  refine local_of_special (fun c => c = 'e' ∨ c = 'E') _ ?_
    (fun _ => (local_floatAt negative significand exponent).follows (.ended _)) ?_
    (local_floatAt negative significand exponent) ?_
  · rintro c (rfl | rfl) <;> rfl
  · rintro c (rfl | rfl) n offset rest rest' hrest
      <;> exact (local_exponentPart negative significand exponent).follows hrest
  · intro c hc rest offset
    obtain ⟨hlower, hupper⟩ := not_or.1 hc
    simp [afterDigits, hlower, hupper]

/-- What is done behind the digits of a fraction. There has to be one. -/
def afterFraction (dropped taken skipped : Nat) (cursor : Cursor) : Except Fault (Number × Cursor) :=
  if taken + skipped = 0 then
    match cursor.rest with
    | [] => .error (cursor.lookedFault .endInValue)
    | _ :: _ => .error (cursor.lookedFault .invalidNumber)
  else afterDigits negative significand ((dropped : Int) - taken) cursor

theorem local_afterFraction (dropped taken skipped : Nat) :
    Local (afterFraction negative significand dropped taken skipped) := by
  by_cases hnone : taken + skipped = 0
  -- no digit follows the point: all characters are looked at alike, and only the end of the text differs
  · refine local_of_special (fun _ => False) _ nofun (fun _ => ?_) nofun
      (local_looked .invalidNumber) fun c _ rest offset => if_pos hnone
    rw [afterFraction, if_pos hnone]
    exact .atCursor .endInValue
  · have hsame : afterFraction negative significand dropped taken skipped =
        afterDigits negative significand ((dropped : Int) - taken) :=
      funext fun cursor => if_neg hnone
    rw [hsame]
    exact local_afterDigits _ _ _

theorem fractionPart_eq_gathered (dropped : Nat) :
    fractionPart negative significand dropped =
      gathered (fun significand taken => skipped (afterFraction negative significand dropped taken) 0)
        (significand, 0) := rfl

theorem local_fractionPart (dropped : Nat) : Local (fractionPart negative significand dropped) := by
  rw [fractionPart_eq_gathered]
  exact local_gathered
    (fun significand taken => local_skipped (local_afterFraction negative significand dropped taken) 0) _

/-- A number without a fraction and without an exponent. -/
def wholeAt (dropped : Nat) (cursor : Cursor) : Except Fault (Number × Cursor) :=
  if dropped = 0 then .ok (wholeNumber negative significand, cursor)
    else floatAt negative significand dropped cursor

theorem local_wholeAt (dropped : Nat) : Local (wholeAt negative significand dropped) := by
  unfold wholeAt
  by_cases hnone : dropped = 0
  · simp only [if_pos hnone]
    exact local_ok _
  · simp only [if_neg hnone]
    exact local_floatAt _ _ _

theorem local_afterWhole (dropped : Nat) : Local (afterWhole negative significand dropped) := by
  refine local_of_special (fun c => c = '.' ∨ c = 'e' ∨ c = 'E') _ ?_
    (fun _ => (local_wholeAt negative significand dropped).follows (.ended _)) ?_
    (local_wholeAt negative significand dropped) ?_
  · rintro c (rfl | rfl | rfl) <;> rfl
  · rintro c (rfl | rfl | rfl) n offset rest rest' hrest
    · exact (local_fractionPart negative significand dropped).follows hrest
    · exact (local_exponentPart negative significand dropped).follows hrest
    · exact (local_exponentPart negative significand dropped).follows hrest
  · intro c hc rest offset
    simp only [not_or] at hc
    obtain ⟨hpoint, hlower, hupper⟩ := hc
    simp [afterWhole, wholeAt, hpoint, hlower, hupper]

end

def numberFrom (negative : Bool) : Nat × Nat → Cursor → Except Fault (Number × Cursor) :=
  gathered fun significand _ => skipped (afterWhole negative significand) 0

theorem local_numberFrom (negative : Bool) (state : Nat × Nat) : Local (numberFrom negative state) :=
  local_gathered (fun significand _ => local_skipped (local_afterWhole negative significand) 0) state

theorem unsignedNumber_eq_numberFrom (negative : Bool) (cursor : Cursor) :
    unsignedNumber negative cursor = numberFrom negative (0, 0) cursor := rfl

theorem unsignedNumber_digit (negative : Bool) {c : Char} {d : Nat} (hdigit : digit? c = some d)
    (rest : List Char) (offset : Nat) :
    unsignedNumber negative ⟨c :: rest, offset⟩ = numberFrom negative (d, 1) ⟨rest, offset + 1⟩ := by
  have hvalue : ((0, 0) : Nat × Nat).1 * 10 + d = d := by rw [Nat.zero_mul, Nat.zero_add]
  have hroom : ((0, 0) : Nat × Nat).1 * 10 + d < significandBound := by
    rw [hvalue]
    exact Nat.lt_of_lt_of_le (digit_lt hdigit) (by decide)
  rw [unsignedNumber_eq_numberFrom, numberFrom, gathered_digit hdigit hroom, hvalue,
    utf8Size_of_digit hdigit]

/-- What is done behind a leading zero. No digit may follow it. -/
def afterZero (negative : Bool) (cursor : Cursor) : Except Fault (Number × Cursor) :=
  match cursor.rest with
  | next :: _ =>
    if (digit? next).isSome then .error (cursor.lookedFault .invalidNumber)
      else numberFrom negative (0, 1) cursor
  | [] => numberFrom negative (0, 1) cursor

theorem local_afterZero (negative : Bool) : Local (afterZero negative) := by
  refine local_of_special (fun c => (digit? c).isSome = true) _ ?_
    (fun _ => (local_numberFrom negative (0, 1)).follows (.ended _)) ?_
    (local_numberFrom negative (0, 1)) ?_
  · intro c hdigit
    obtain ⟨d, hdigit⟩ := Option.isSome_iff_exists.1 hdigit
    exact utf8Size_of_digit hdigit
  · intro c hdigit n offset rest rest' hrest
    simp only [afterZero, if_pos hdigit]
    exact .fault (Nat.le_refl _) (Reaches.refl ⟨rest, offset + 1⟩).le_finish
  · intro c hdigit rest offset
    simp only [afterZero, if_neg hdigit]

theorem readMagnitude_digit (negative : Bool) {c : Char} {d : Nat} (hdigit : digit? c = some d)
    (rest : List Char) (offset : Nat) :
    readMagnitude negative ⟨c :: rest, offset⟩ =
      if d = 0 then afterZero negative ⟨rest, offset + 1⟩
        else numberFrom negative (d, 1) ⟨rest, offset + 1⟩ := by
  have hunsigned := unsignedNumber_digit negative hdigit rest offset
  by_cases hzero : d = 0
  · subst hzero
    rw [if_pos rfl]
    cases rest with
    | nil => simp only [readMagnitude, hdigit, afterZero, hunsigned]
    | cons next rest => simp only [readMagnitude, hdigit, afterZero, hunsigned]
  · obtain ⟨d, rfl⟩ : ∃ less, d = less + 1 := ⟨d - 1, by omega⟩
    rw [if_neg hzero, ← hunsigned]
    simp only [readMagnitude, hdigit]

theorem local_readMagnitude (negative : Bool) : Local (readMagnitude negative) := by
  refine local_of_special (fun c => ∃ d, digit? c = some d) _ ?_ (fun _ => .atCursor .endInValue) ?_
    (local_looked .invalidNumber) ?_
  · rintro c ⟨d, hdigit⟩
    exact utf8Size_of_digit hdigit
  · rintro c ⟨d, hdigit⟩ n offset rest rest' hrest
    rw [readMagnitude_digit negative hdigit, readMagnitude_digit negative hdigit]
    split
    · exact (local_afterZero negative).follows hrest
    · exact (local_numberFrom negative _).follows hrest
  · intro c hc rest offset
    have hdigit : digit? c = none := Option.eq_none_iff_forall_ne_some.2 fun d hd => hc ⟨d, hd⟩
    simp [readMagnitude, hdigit]

theorem local_readNumber : Local readNumber := by
  refine local_of_special (· = '-') _ ?_ (fun _ => .atCursor .endInValue) ?_
    (local_readMagnitude false) ?_
  · rintro _ rfl
    rfl
  · rintro _ rfl n offset rest rest' hrest
    exact (local_readMagnitude true).follows hrest
  · intro c hc rest offset
    simp [readNumber, hc]

end SchemaTyping.Json
