import Mathlib
import SchemaTyping.Decimal.Layout
import SchemaTyping.Json.Numeral
import SchemaTyping.Proofs.Json.Reading

/-!
# Numerals

The grammar of JSON's numbers, and what each numeral stands for. A numeral is an integer if it has no
fraction and no exponent, is not minus zero, and fits 64 bits (`Numeral.integer?`). Any other is a
double, made from as many of its digits as a significand of 64 bits has room for, and a few are too large
even for that.
-/

namespace SchemaTyping.Json

open Text (StartsWith startsWith_nil)

/-! ### The grammar -/

def AllDigits (digits : List Char) : Prop := ∀ c ∈ digits, c.isDigit = true

def EndsDigits (rest : List Char) : Prop := StartsWith (fun c => c.isDigit = false) rest

/-- The part of a numeral from its `e` on. -/
structure Exponent where
  letter : Char
  sign : List Char
  digits : List Char
  isLetter : letter = 'e' ∨ letter = 'E'
  isSign : sign = [] ∨ sign = ['+'] ∨ sign = ['-']
  nonempty : digits ≠ []
  allDigits : AllDigits digits

/-- A numeral of the grammar. It has a fraction if there are digits in it. -/
structure Numeral where
  negative : Bool
  whole : List Char
  fraction : List Char
  exponent : Option Exponent
  nonempty : whole ≠ []
  allDigits_whole : AllDigits whole
  noLeadingZero : whole.head? = some '0' → whole = ['0']
  allDigits_fraction : AllDigits fraction

def Exponent.chars (exponent : Exponent) : List Char :=
  exponent.letter :: (exponent.sign ++ exponent.digits)

def Numeral.fractionChars (numeral : Numeral) : List Char :=
  if numeral.fraction = [] then [] else '.' :: numeral.fraction

def Numeral.exponentChars (numeral : Numeral) : List Char :=
  (numeral.exponent.map Exponent.chars).getD []

def Numeral.chars (numeral : Numeral) : List Char :=
  (if numeral.negative then ['-'] else []) ++
    (numeral.whole ++ (numeral.fractionChars ++ numeral.exponentChars))

/-! ### What a numeral stands for -/

def digitsValue (digits : List Char) : Nat := Nat.ofDigitChars 10 digits 0

/-- The integer in front of a numeral's fraction and exponent. -/
def Numeral.signedWhole (numeral : Numeral) : Int :=
  if numeral.negative then -(digitsValue numeral.whole : Int) else digitsValue numeral.whole

/-- The integer that a numeral is: it has no fraction and no exponent, is not minus zero, and fits 64
bits. -/
def Numeral.integer? (numeral : Numeral) : Option Int :=
  if numeral.fraction = [] ∧ numeral.exponent = none ∧
    ¬ (numeral.negative = true ∧ digitsValue numeral.whole = 0) ∧
      -2 ^ 63 ≤ numeral.signedWhole ∧ numeral.signedWhole < 2 ^ 64 then
    some numeral.signedWhole
  else none

/-- A significand of 64 bits with as many further digits as it has room for, and the number of those left
over. -/
def absorb (significand : Nat) : List Char → Nat × Nat
  | [] => (significand, 0)
  | c :: rest =>
    if significand * 10 + (c.toNat - '0'.toNat) < significandBound then
      absorb (significand * 10 + (c.toNat - '0'.toNat)) rest
    else (significand, rest.length + 1)

def Numeral.absorbedWhole (numeral : Numeral) : Nat × Nat := absorb 0 numeral.whole

def Numeral.absorbed (numeral : Numeral) : Nat × Nat := absorb numeral.absorbedWhole.1 numeral.fraction

/-- The power of ten to the significand, apart from the exponent: digits of the whole part that were left
over count up, digits of the fraction that were not count down. -/
def Numeral.power (numeral : Numeral) : Int :=
  (numeral.absorbedWhole.2 : Int) - ((numeral.fraction.length - numeral.absorbed.2 : Nat) : Int)

def Exponent.shift (exponent : Exponent) : Int :=
  if exponent.sign = ['-'] then -(digitsValue exponent.digits : Int) else digitsValue exponent.digits

def Numeral.signed (numeral : Numeral) (x : Float) : Float := if numeral.negative then -x else x

/-- A significand with a power of ten and perhaps an exponent, as a double if it is not too large for
one. An exponent of more than 31 bits makes it zero or too large, whatever the digits are. -/
def scaled? (significand : Nat) (power : Int) : Option Exponent → Option Float
  | none => scale? significand power
  | some exponent =>
    if digitsValue exponent.digits < exponentBound then scale? significand (power + exponent.shift)
    else if significand ≠ 0 ∧ exponent.sign ≠ ['-'] then none
    else some 0.0

def Numeral.double? (numeral : Numeral) : Option Float :=
  if numeral.fraction = [] ∧ numeral.exponent = none ∧ numeral.absorbedWhole.2 = 0 then
    some (numeral.signed numeral.absorbed.1.toUInt64.toFloat)
  else (scaled? numeral.absorbed.1 numeral.power numeral.exponent).map numeral.signed

/-- The number that a numeral stands for, unless it is too large. -/
def Numeral.number? (numeral : Numeral) : Option Number :=
  match numeral.integer? with
  | some i => some (.int i)
  | none => numeral.double?.map .float

/-- What follows a numeral does not go on with it. -/
structure Numeral.EndsBefore (numeral : Numeral) (rest : List Char) : Prop where
  digits : EndsDigits rest
  exponent : numeral.exponent = none → StartsWith (fun c => c ≠ 'e' ∧ c ≠ 'E') rest
  point : numeral.exponent = none → numeral.fraction = [] → StartsWith (· ≠ '.') rest

/-! ### Digits -/

theorem digit?_of_isDigit {c : Char} (hc : c.isDigit = true) :
    digit? c = some (c.toNat - '0'.toNat) := by
  have hbounds := Char.isDigit_iff_toNat.1 hc
  exact if_pos hbounds

theorem digit?_of_not_isDigit {c : Char} (hc : c.isDigit = false) : digit? c = none := by
  refine if_neg fun hbounds => ?_
  have hdigit := Char.isDigit_iff_toNat.2 hbounds
  rw [hc] at hdigit
  cases hdigit

theorem AllDigits.tail {c : Char} {digits : List Char} (hdigits : AllDigits (c :: digits)) :
    AllDigits digits :=
  fun c hc => hdigits c (List.mem_cons_of_mem _ hc)

theorem endsDigits_cons {c : Char} (hc : c.isDigit = false) (rest : List Char) :
    EndsDigits (c :: rest) :=
  startsWith_cons_iff.2 hc

theorem le_ofDigitChars (digits : List Char) (init : Nat) : init ≤ Nat.ofDigitChars 10 digits init := by
  induction digits generalizing init with
  | nil => exact Nat.le_refl _
  | cons c digits ih =>
    rw [Nat.ofDigitChars_cons]
    have hrest := ih (10 * init + (c.toNat - '0'.toNat))
    omega

theorem exists_digits (text : List Char) :
    ∃ digits rest, text = digits ++ rest ∧ AllDigits digits ∧ EndsDigits rest := by
  induction text with
  | nil => exact ⟨[], [], rfl, fun c hc => absurd hc List.not_mem_nil, startsWith_nil _⟩
  | cons c text ih =>
    cases hc : c.isDigit with
    | false =>
      exact ⟨[], c :: text, rfl, fun c hc => absurd hc List.not_mem_nil, endsDigits_cons hc text⟩
    | true =>
      obtain ⟨digits, rest, rfl, hdigits, hrest⟩ := ih
      exact ⟨c :: digits, rest, rfl, List.forall_mem_cons.2 ⟨hc, hdigits⟩, hrest⟩

theorem absorb_of_lt {digits : List Char} {significand : Nat}
    (hfits : Nat.ofDigitChars 10 digits significand < significandBound) :
    absorb significand digits = (Nat.ofDigitChars 10 digits significand, 0) := by
  induction digits generalizing significand with
  | nil => rfl
  | cons c digits ih =>
    rw [Nat.ofDigitChars_cons, Nat.mul_comm] at hfits ⊢
    have hnext := Nat.lt_of_le_of_lt (le_ofDigitChars digits _) hfits
    rw [absorb, if_pos hnext, ih hfits]

theorem absorb_of_le {digits : List Char} {significand : Nat}
    (hsignificand : significand < significandBound)
    (hlarge : significandBound ≤ Nat.ofDigitChars 10 digits significand) :
    (absorb significand digits).2 ≠ 0 := by
  induction digits generalizing significand with
  | nil =>
    rw [Nat.ofDigitChars_nil] at hlarge
    omega
  | cons c digits ih =>
    rw [Nat.ofDigitChars_cons, Nat.mul_comm] at hlarge
    rw [absorb]
    split
    · rename_i hnext
      exact ih hnext hlarge
    · simp

theorem absorb_le_length (digits : List Char) (significand : Nat) :
    (absorb significand digits).2 ≤ digits.length := by
  induction digits generalizing significand with
  | nil => exact Nat.le_refl _
  | cons c digits ih =>
    rw [absorb]
    split
    · exact Nat.le_succ_of_le (ih _)
    · exact Nat.le_refl _

/-! ### Numerals without fraction and exponent -/

theorem Numeral.number?_of_not_plain {numeral : Numeral}
    (hplain : ¬ (numeral.fraction = [] ∧ numeral.exponent = none)) :
    numeral.number? = numeral.double?.map .float := by
  have hinteger : numeral.integer? = none := if_neg fun h => hplain ⟨h.1, h.2.1⟩
  rw [Numeral.number?, hinteger]

theorem Numeral.absorbed_of_no_fraction {numeral : Numeral} (hfraction : numeral.fraction = []) :
    numeral.absorbed.1 = numeral.absorbedWhole.1 := by
  rw [Numeral.absorbed, hfraction, absorb]

theorem Numeral.power_of_no_fraction {numeral : Numeral} (hfraction : numeral.fraction = []) :
    numeral.power = numeral.absorbedWhole.2 := by
  simp [Numeral.power, hfraction]

theorem Numeral.double?_of_plain {numeral : Numeral} (hfraction : numeral.fraction = [])
    (hexponent : numeral.exponent = none) :
    numeral.double? =
      if numeral.absorbedWhole.2 = 0 then some (numeral.signed numeral.absorbedWhole.1.toUInt64.toFloat)
      else (scale? numeral.absorbedWhole.1 numeral.absorbedWhole.2).map numeral.signed := by
  simp only [Numeral.double?, hexponent, hfraction, absorbed_of_no_fraction hfraction,
    power_of_no_fraction hfraction, true_and, scaled?]

/-- A numeral whose digits fit 64 bits is the whole number that they and its sign make. -/
theorem Numeral.number?_of_lt {numeral : Numeral} (hfraction : numeral.fraction = [])
    (hexponent : numeral.exponent = none) (hfits : digitsValue numeral.whole < significandBound) :
    numeral.number? = some (wholeNumber numeral.negative (digitsValue numeral.whole)) := by
  have hwhole : numeral.absorbedWhole = (digitsValue numeral.whole, 0) := absorb_of_lt hfits
  unfold significandBound at hfits
  cases hnegative : numeral.negative with
  | false =>
    have hsigned : numeral.signedWhole = digitsValue numeral.whole := by
      simp [Numeral.signedWhole, hnegative]
    have hinteger : numeral.integer? = some (digitsValue numeral.whole : Int) := by
      rw [Numeral.integer?, hsigned]
      exact if_pos ⟨hfraction, hexponent, by simp [hnegative], by omega, by omega⟩
    rw [Numeral.number?, hinteger]
    rfl
  | true =>
    have hsigned : numeral.signedWhole = -(digitsValue numeral.whole : Int) := by
      simp [Numeral.signedWhole, hnegative]
    by_cases hout : digitsValue numeral.whole = 0 ∨ 0x8000000000000000 < digitsValue numeral.whole
    · have hinteger : numeral.integer? = none := by
        refine if_neg fun ⟨_, _, hzero, hlow, _⟩ => ?_
        rw [hsigned] at hlow
        obtain hnull | hlarge := hout
        · exact hzero ⟨hnegative, hnull⟩
        · omega
      rw [Numeral.number?, hinteger, double?_of_plain hfraction hexponent, hwhole, wholeNumber,
        if_pos rfl, if_pos rfl, if_pos hout]
      simp [Numeral.signed, hnegative]
    · have hinteger : numeral.integer? = some (-(digitsValue numeral.whole : Int)) := by
        rw [Numeral.integer?, hsigned]
        exact if_pos ⟨hfraction, hexponent, fun hzero => hout (.inl hzero.2), by omega, by omega⟩
      rw [Numeral.number?, hinteger, wholeNumber, if_pos rfl, if_neg hout]

theorem Numeral.integer?_of_le {numeral : Numeral}
    (hlarge : significandBound ≤ digitsValue numeral.whole) : numeral.integer? = none := by
  have hsigned : numeral.signedWhole = digitsValue numeral.whole ∨
      numeral.signedWhole = -(digitsValue numeral.whole : Int) := by
    unfold Numeral.signedWhole
    split
    · exact .inr rfl
    · exact .inl rfl
  refine if_neg fun ⟨_, _, _, hlow, hhigh⟩ => ?_
  unfold significandBound at hlarge
  omega

/-- A numeral without fraction and exponent is the whole number that its significand and sign make, if
all digits went into the significand. -/
theorem Numeral.number?_of_plain {numeral : Numeral} (hfraction : numeral.fraction = [])
    (hexponent : numeral.exponent = none) :
    numeral.number? =
      if numeral.absorbedWhole.2 = 0 then some (wholeNumber numeral.negative numeral.absorbedWhole.1)
      else (scale? numeral.absorbedWhole.1 numeral.absorbedWhole.2).map fun x =>
        .float (numeral.signed x) := by
  by_cases hfits : digitsValue numeral.whole < significandBound
  · have hwhole : numeral.absorbedWhole = (digitsValue numeral.whole, 0) := absorb_of_lt hfits
    rw [number?_of_lt hfraction hexponent hfits, hwhole, if_pos rfl]
  · have hlarge := Nat.le_of_not_lt hfits
    have hleft : numeral.absorbedWhole.2 ≠ 0 := absorb_of_le (by decide) hlarge
    rw [Numeral.number?, integer?_of_le hlarge, double?_of_plain hfraction hexponent, if_neg hleft,
      if_neg hleft, Option.map_map]
    rfl

/-! ### Canonical decimals -/

theorem head?_toDigits {n : Nat} (hzero : (Nat.toDigits 10 n).head? = some '0') :
    Nat.toDigits 10 n = ['0'] := by
  induction n using Nat.strongRecOn with
  | ind n ih =>
    rw [Nat.toDigits_eq_if (by decide)] at hzero ⊢
    by_cases hsmall : n < 10
    · rw [if_pos hsmall] at hzero ⊢
      exact congrArg (fun c => [c]) (Option.some.inj hzero)
    · -- the digits in front of the last one would write zero
      rw [if_neg hsmall, List.head?_append_of_ne_nil _ Nat.toDigits_ne_nil] at hzero
      have hfront := ih (n / 10) (by omega) hzero
      have hvalue : n / 10 = Nat.ofDigitChars 10 ['0'] 0 := by
        rw [← hfront]
        exact (Nat.ofDigitChars_toDigits (by decide) (by decide)).symm
      have hnull : Nat.ofDigitChars 10 ['0'] 0 = 0 := rfl
      omega

/-- An integer of 64 bits in canonical decimal is a numeral, and stands for itself. -/
theorem exists_numeral_of_int {i : Int} (hlow : -2 ^ 63 ≤ i) (hhigh : i < 2 ^ 64) :
    ∃ numeral : Numeral, numeral.chars = Decimal.intChars i ∧ numeral.number? = some (.int i) := by
  let numeral : Numeral :=
    { negative := decide (i < 0)
      whole := Nat.toDigits 10 i.natAbs
      fraction := []
      exponent := none
      nonempty := Nat.toDigits_ne_nil
      allDigits_whole := fun _ hc => Nat.isDigit_of_mem_toDigits (by decide) (by decide) hc
      noLeadingZero := head?_toDigits
      allDigits_fraction := fun _ hc => absurd hc List.not_mem_nil }
  have hvalue : digitsValue numeral.whole = i.natAbs := Nat.ofDigitChars_toDigits (by decide) (by decide)
  refine ⟨numeral, ?_, ?_⟩
  · have hnothing : numeral.fractionChars ++ numeral.exponentChars = [] := rfl
    rw [Numeral.chars, hnothing, List.append_nil]
    unfold Decimal.intChars
    by_cases hnegative : i < 0
    · rw [if_pos (decide_eq_true hnegative), if_pos hnegative]
      rfl
    · rw [if_neg (by simp [numeral, hnegative]), if_neg hnegative]
      rfl
  · have hsigned : numeral.signedWhole = i := by
      unfold Numeral.signedWhole
      rw [hvalue]
      by_cases hnegative : i < 0
      · rw [if_pos (decide_eq_true hnegative)]
        omega
      · rw [if_neg (by simp [numeral, hnegative])]
        omega
    have hinteger : numeral.integer? = some i := by
      rw [Numeral.integer?, hvalue, hsigned]
      refine if_pos ⟨rfl, rfl, ?_, hlow, hhigh⟩
      rintro ⟨hnegative, hzero⟩
      have hbelow : i < 0 := of_decide_eq_true hnegative
      omega
    rw [Numeral.number?, hinteger]

/-- Digits without a leading zero are the ones that their value is written with. -/
theorem toDigits_digitsValue {digits : List Char} (hdigits : AllDigits digits) (hnonempty : digits ≠ [])
    (hleading : digits.head? = some '0' → digits = ['0']) :
    Nat.toDigits 10 (digitsValue digits) = digits := by
  -- from the end: the last digit is the remainder by ten
  induction digits using List.reverseRecOn with
  | nil => exact absurd rfl hnonempty
  | append_singleton front c ih =>
    have hc : c.isDigit = true := hdigits c (by simp)
    obtain ⟨hzero, hnine⟩ := Char.isDigit_iff_toNat.1 hc
    have hzero : 48 ≤ c.toNat := hzero
    have hnine : c.toNat ≤ 57 := hnine
    have hdigitChar : ∀ d < 10, Nat.digitChar d = Char.ofNat (d + 48) := by decide
    have hlast : Nat.digitChar (c.toNat - 48) = c := by
      rw [hdigitChar _ (by omega), Nat.sub_add_cancel hzero, Char.ofNat_toNat]
    have hvalue : digitsValue (front ++ [c]) = 10 * digitsValue front + (c.toNat - 48) := by
      rw [digitsValue, Nat.ofDigitChars_append, Nat.ofDigitChars_cons, Nat.ofDigitChars_nil]
      rfl
    cases front with
    | nil =>
      have hdigit : digitsValue ([] ++ [c]) = c.toNat - 48 := by rw [hvalue]; simp [digitsValue]
      rw [hdigit, Nat.toDigits_of_lt_base (by omega), hlast]
      rfl
    | cons d front =>
      have hfront : Nat.toDigits 10 (digitsValue (d :: front)) = d :: front := by
        refine ih (fun e he => hdigits e (List.mem_append_left _ he))
          (List.cons_ne_nil _ _) fun hhead => ?_
        have hshort := hleading hhead
        simp at hshort
      have hpositive : digitsValue (d :: front) ≠ 0 := by
        intro hnull
        rw [hnull] at hfront
        have hd : d = '0' := (List.cons.inj hfront).1.symm
        have hshort := hleading (congrArg some hd)
        simp at hshort
      have hquotient : (10 * digitsValue (d :: front) + (c.toNat - 48)) / 10 =
          digitsValue (d :: front) := by omega
      have hremainder : (10 * digitsValue (d :: front) + (c.toNat - 48)) % 10 = c.toNat - 48 := by omega
      rw [hvalue, Nat.toDigits_eq_if (by decide), if_neg (by omega), hquotient, hremainder,
        hfront, hlast]

theorem Numeral.chars_of_int {numeral : Numeral} {i : Int} (hnumber : numeral.number? = some (.int i)) :
    numeral.chars = Decimal.intChars i ∧ -2 ^ 63 ≤ i ∧ i < 2 ^ 64 := by
  have hinteger : numeral.integer? = some i := by
    rw [Numeral.number?] at hnumber
    split at hnumber
    · rename_i j hinteger
      cases hnumber
      exact hinteger
    · cases hdouble : numeral.double? <;> rw [hdouble] at hnumber <;> cases hnumber
  rw [Numeral.integer?] at hinteger
  split at hinteger
  · rename_i hplain
    obtain ⟨hfraction, hexponent, hzero, hlow, hhigh⟩ := hplain
    cases hinteger
    refine ⟨?_, hlow, hhigh⟩
    have hwhole := toDigits_digitsValue numeral.allDigits_whole numeral.nonempty numeral.noLeadingZero
    have hchars : numeral.chars = (if numeral.negative then ['-'] else []) ++ numeral.whole := by
      simp [Numeral.chars, Numeral.fractionChars, Numeral.exponentChars, hfraction, hexponent]
    rw [hchars]
    unfold Decimal.intChars Decimal.natChars Numeral.signedWhole
    cases hnegative : numeral.negative with
    | false => simp [hwhole]
    | true =>
      have hbelow : 0 < digitsValue numeral.whole :=
        Nat.pos_of_ne_zero fun hnull => hzero ⟨hnegative, hnull⟩
      simp [hwhole, hbelow]
  · cases hinteger

end SchemaTyping.Json
