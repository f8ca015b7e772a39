import SchemaTyping.Json.Printer
import SchemaTyping.Json.StringBody
import SchemaTyping.Proofs.Json.Reading

/-!
# The spellings of a string

A character stands for itself between quotes, or is written by an escape: one with a letter, if it has
one, or one with the number of each of its UTF-16 units in hexadecimal of either case. The reader takes
every spelling of a string for that string (`readString_spelling`), and nothing else for a string
(`exists_spelling_of_readString`).
-/

namespace SchemaTyping.Json

open Text (byteLength)

/-! ### The grammar -/

def letterEscapes : List (Char × Char) :=
  [('"', '"'), ('\\', '\\'), ('/', '/'), ('b', '\x08'), ('f', '\x0c'), ('n', '\n'), ('r', '\r'),
    ('t', '\t')]

/-- Four hexadecimal digits that write a UTF-16 unit. -/
def SpellsUnit (unit : Nat) (digits : List Char) : Prop := digits.map Char.toLower = hexDigits unit

instance (unit : Nat) (digits : List Char) : Decidable (SpellsUnit unit digits) :=
  inferInstanceAs (Decidable (digits.map Char.toLower = hexDigits unit))

def highUnit (c : Char) : Nat := 0xD800 + (c.toNat - 0x10000) / 0x400

def lowUnit (c : Char) : Nat := 0xDC00 + (c.toNat - 0x10000) % 0x400

/-- The spellings of a character between quotes. -/
inductive SpellsChar : Char → List Char → Prop
  | plain {c : Char} (hcontrol : 0x20 ≤ c.toNat) (hquote : c ≠ '"') (hbackslash : c ≠ '\\') :
    SpellsChar c [c]
  | letter {c letter : Char} (hletter : (letter, c) ∈ letterEscapes) : SpellsChar c ['\\', letter]
  | unit {c : Char} {digits : List Char} (hsmall : c.toNat < 0x10000)
    (hdigits : SpellsUnit c.toNat digits) :
    SpellsChar c ('\\' :: 'u' :: digits)
  | pair {c : Char} {high low : List Char} (hlarge : 0x10000 ≤ c.toNat)
    (hhigh : SpellsUnit (highUnit c) high) (hlow : SpellsUnit (lowUnit c) low) :
    SpellsChar c ('\\' :: 'u' :: (high ++ '\\' :: 'u' :: low))

inductive SpellsChars : List Char → List Char → Prop
  | nil : SpellsChars [] []
  | cons {c : Char} {cs spelling body : List Char} (hc : SpellsChar c spelling)
    (hcs : SpellsChars cs body) :
    SpellsChars (c :: cs) (spelling ++ body)

/-! ### Units -/

theorem hexDigit?_eq_some_iff {c : Char} {d : Nat} :
    hexDigit? c = some d ↔ d < 16 ∧ c.toLower = Nat.digitChar d := by
  by_cases hascii : c.toNat < 128
  · have htable : ∀ n < 128, (∀ d ∈ hexDigit? (Char.ofNat n), d < 16) ∧
        ∀ d < 16, hexDigit? (Char.ofNat n) = some d ↔ (Char.ofNat n).toLower = Nat.digitChar d := by
      decide +kernel
    obtain ⟨hbound, hiff⟩ := htable c.toNat hascii
    rw [Char.ofNat_toNat] at hbound hiff
    constructor
    · intro hdigit
      have hd := hbound d hdigit
      exact ⟨hd, (hiff d hd).1 hdigit⟩
    · rintro ⟨hd, hlower⟩
      exact (hiff d hd).2 hlower
  · have hnone : hexDigit? c = none := by
      have hnine : ¬ c ≤ '9' :=
        fun h => hascii (Nat.lt_of_le_of_lt (show c.toNat ≤ 57 from h) (by decide))
      have hf : ¬ c ≤ 'f' := fun h => hascii (Nat.lt_of_le_of_lt (show c.toNat ≤ 102 from h) (by decide))
      have hF : ¬ c ≤ 'F' := fun h => hascii (Nat.lt_of_le_of_lt (show c.toNat ≤ 70 from h) (by decide))
      simp [hexDigit?, hnine, hf, hF]
    have hlower : c.toLower = c := by
      refine dif_neg fun h => ?_
      have hZ : c.toNat ≤ 90 := h.2
      omega
    have hdigits : ∀ d < 16, (Nat.digitChar d).toNat < 128 := by decide
    rw [hnone, hlower]
    constructor
    · intro hdigit
      cases hdigit
    · rintro ⟨hd, rfl⟩
      exact absurd (hdigits d hd) hascii

theorem hexUnit?_eq_some_iff {digits : List Char} {unit : Nat} :
    hexUnit? digits = some unit ↔ unit < 0x10000 ∧ SpellsUnit unit digits := by
  constructor
  · intro hunit
    match digits, hunit with
    | [a, b, c, d], hunit =>
      simp only [hexUnit?, Option.bind_eq_bind, Option.bind_eq_some_iff, Option.pure_def,
        Option.some.injEq] at hunit
      obtain ⟨a', ha, b', hb, c', hc, d', hd, rfl⟩ := hunit
      obtain ⟨ha', ha⟩ := hexDigit?_eq_some_iff.1 ha
      obtain ⟨hb', hb⟩ := hexDigit?_eq_some_iff.1 hb
      obtain ⟨hc', hc⟩ := hexDigit?_eq_some_iff.1 hc
      obtain ⟨hd', hd⟩ := hexDigit?_eq_some_iff.1 hd
      refine ⟨by omega, ?_⟩
      have hfirst : (((a' * 16 + b') * 16 + c') * 16 + d') / 4096 % 16 = a' := by omega
      have hsecond : (((a' * 16 + b') * 16 + c') * 16 + d') / 256 % 16 = b' := by omega
      have hthird : (((a' * 16 + b') * 16 + c') * 16 + d') / 16 % 16 = c' := by omega
      have hfourth : (((a' * 16 + b') * 16 + c') * 16 + d') % 16 = d' := by omega
      simp only [SpellsUnit, hexDigits, List.map_cons, List.map_nil, hfirst, hsecond, hthird, hfourth,
        ha, hb, hc, hd]
  · rintro ⟨hbound, hdigits⟩
    have hlength : digits.length = 4 := by
      have hmap := congrArg List.length hdigits
      rwa [List.length_map] at hmap
    match digits, hlength with
    | [a, b, c, d], _ =>
      simp only [SpellsUnit, hexDigits, List.map_cons, List.map_nil, List.cons.injEq,
        and_true] at hdigits
      obtain ⟨ha, hb, hc, hd⟩ := hdigits
      have ha' := hexDigit?_eq_some_iff.2 ⟨Nat.mod_lt _ (by decide), ha⟩
      have hb' := hexDigit?_eq_some_iff.2 ⟨Nat.mod_lt _ (by decide), hb⟩
      have hc' := hexDigit?_eq_some_iff.2 ⟨Nat.mod_lt _ (by decide), hc⟩
      have hd' := hexDigit?_eq_some_iff.2 ⟨Nat.mod_lt _ (by decide), hd⟩
      simp only [hexUnit?, ha', hb', hc', hd', Option.bind_eq_bind, Option.bind_some, Option.pure_def,
        Option.some.injEq]
      omega

theorem length_le_byteLength (text : List Char) : text.length ≤ byteLength text := by
  induction text with
  | nil => exact Nat.le_refl _
  | cons c rest ih =>
    have hc := c.utf8Size_pos
    rw [List.length_cons, byteLength]
    omega

theorem readUnit_append {unit : Nat} {digits : List Char} (hbound : unit < 0x10000)
    (hdigits : SpellsUnit unit digits) (rest : List Char) (offset : Nat) :
    readUnit ⟨digits ++ rest, offset⟩ = .ok (unit, ⟨rest, offset + 4⟩) := by
  have hlength : digits.length = 4 := by
    have hmap := congrArg List.length hdigits
    rwa [List.length_map] at hmap
  have hfour : (digits ++ rest).take 4 = digits := by rw [← hlength, List.take_left]
  have hrest : (digits ++ rest).drop 4 = rest := by rw [← hlength, List.drop_left]
  have hbytes : ¬ byteLength digits < 4 := by
    have hle := length_le_byteLength digits
    omega
  simp only [readUnit, hfour, if_neg hbytes, hexUnit?_eq_some_iff.2 ⟨hbound, hdigits⟩,
    Cursor.skip, hrest]

theorem exists_digits_of_readUnit {cursor after : Cursor} {unit : Nat}
    (hread : readUnit cursor = .ok (unit, after)) :
    ∃ digits, cursor.rest = digits ++ after.rest ∧ unit < 0x10000 ∧ SpellsUnit unit digits := by
  unfold readUnit at hread
  simp only at hread
  split at hread
  · cases hread
  · split at hread
    · rename_i found hunit
      cases hread
      obtain ⟨hbound, hdigits⟩ := hexUnit?_eq_some_iff.1 hunit
      exact ⟨_, (List.take_append_drop 4 cursor.rest).symm, hbound, hdigits⟩
    · cases hread


/-! ### Escapes -/

theorem escapedBy?_eq_some_iff {letter c : Char} :
    escapedBy? letter = some c ↔ (letter, c) ∈ letterEscapes := by
  constructor
  · intro hescape
    unfold escapedBy? at hescape
    split at hescape <;> cases hescape <;> decide
  · intro hletter
    simp only [letterEscapes, List.mem_cons, Prod.mk.injEq, List.not_mem_nil, or_false] at hletter
    rcases hletter with ⟨rfl, rfl⟩ | ⟨rfl, rfl⟩ | ⟨rfl, rfl⟩ | ⟨rfl, rfl⟩ | ⟨rfl, rfl⟩ | ⟨rfl, rfl⟩ |
      ⟨rfl, rfl⟩ | ⟨rfl, rfl⟩ <;> rfl

theorem isLowSurrogate_iff {unit : Nat} :
    isLowSurrogate unit = true ↔ 0xDC00 ≤ unit ∧ unit ≤ 0xDFFF := by
  simp [isLowSurrogate]

theorem isHighSurrogate_iff {unit : Nat} :
    isHighSurrogate unit = true ↔ 0xD800 ≤ unit ∧ unit ≤ 0xDBFF := by
  simp [isHighSurrogate]

/-- No character is a surrogate. -/
theorem toNat_valid (c : Char) : c.toNat < 0xD800 ∨ 0xDFFF < c.toNat ∧ c.toNat < 0x110000 := c.valid

theorem toNat_ofNat_of_valid {code : Nat} (hvalid : code < 0xD800 ∨ 0xDFFF < code ∧ code < 0x110000) :
    (Char.ofNat code).toNat = code := by
  have hchar : Char.ofNat code = Char.ofNatAux code hvalid := dif_pos hvalid
  rw [hchar]
  rfl

theorem surrogatePair_units {c : Char} (hlarge : 0x10000 ≤ c.toNat) :
    surrogatePair (highUnit c) (lowUnit c) = c := by
  have hcode : 0x10000 + (highUnit c - 0xD800) * 0x400 + (lowUnit c - 0xDC00) = c.toNat := by
    unfold highUnit lowUnit
    omega
  rw [surrogatePair, hcode, Char.ofNat_toNat]

theorem highUnit_bounds (c : Char) : 0xD800 ≤ highUnit c ∧ highUnit c ≤ 0xDBFF := by
  have hvalid := toNat_valid c
  unfold highUnit
  omega

theorem lowUnit_bounds (c : Char) : 0xDC00 ≤ lowUnit c ∧ lowUnit c ≤ 0xDFFF := by
  unfold lowUnit
  omega

/-- Two surrogates are the units of the character that they make. -/
theorem units_surrogatePair {high low : Nat} (hhigh : 0xD800 ≤ high ∧ high ≤ 0xDBFF)
    (hlow : 0xDC00 ≤ low ∧ low ≤ 0xDFFF) :
    0x10000 ≤ (surrogatePair high low).toNat ∧ highUnit (surrogatePair high low) = high ∧
      lowUnit (surrogatePair high low) = low := by
  have hcode : (surrogatePair high low).toNat = 0x10000 + (high - 0xD800) * 0x400 + (low - 0xDC00) :=
    toNat_ofNat_of_valid (by omega)
  unfold highUnit lowUnit
  rw [hcode]
  omega

theorem reading_readUnicodeEscape_unit {c : Char} {digits : List Char} (hsmall : c.toNat < 0x10000)
    (hdigits : SpellsUnit c.toNat digits) (rest : List Char) (offset : Nat) :
    reading (readUnicodeEscape ⟨digits ++ rest, offset⟩) = some (c, rest) := by
  have hvalid := toNat_valid c
  have hlow : ¬ isLowSurrogate c.toNat = true := by
    rw [isLowSurrogate_iff]
    omega
  have hhigh : ¬ isHighSurrogate c.toNat = true := by
    rw [isHighSurrogate_iff]
    omega
  rw [readUnicodeEscape, readUnit_append hsmall hdigits]
  refine reading_bind (reading_ok _ _) fun offset => ?_
  simp only [if_neg hlow, if_neg hhigh, Char.ofNat_toNat, reading_ok]

theorem reading_readUnicodeEscape_pair {c : Char} {high low : List Char} (hlarge : 0x10000 ≤ c.toNat)
    (hhigh : SpellsUnit (highUnit c) high) (hlow : SpellsUnit (lowUnit c) low) (rest : List Char)
    (offset : Nat) :
    reading (readUnicodeEscape ⟨high ++ '\\' :: 'u' :: (low ++ rest), offset⟩) = some (c, rest) := by
  have hhighBounds := highUnit_bounds c
  have hlowBounds := lowUnit_bounds c
  have hnotLow : ¬ isLowSurrogate (highUnit c) = true := by
    rw [isLowSurrogate_iff]
    omega
  have hsecond : ∀ offset,
      reading (readLowSurrogate (highUnit c) ⟨'\\' :: 'u' :: (low ++ rest), offset⟩) =
      some (c, rest) := by
    intro offset
    have hunit := readUnit_append (by omega) hlow rest (offset + 2)
    refine reading_bind (reading_eq_some_iff.2 ⟨_, hunit⟩) fun offset => ?_
    simp only [if_pos (isLowSurrogate_iff.2 hlowBounds), surrogatePair_units hlarge, reading_ok]
  rw [readUnicodeEscape, readUnit_append (by omega) hhigh]
  refine reading_bind (reading_ok _ _) fun offset => ?_
  simp only [if_neg hnotLow, if_pos (isHighSurrogate_iff.2 hhighBounds)]
  exact hsecond offset

/-- What a spelling other than the character itself has behind its backslash is read as the character. -/
theorem reading_readEscape {c : Char} {escape : List Char} (hspelling : SpellsChar c ('\\' :: escape))
    (rest : List Char) (offset : Nat) :
    reading (readEscape ⟨escape ++ rest, offset⟩) = some (c, rest) := by
  cases hspelling with
  | plain hcontrol hquote hbackslash => exact absurd rfl hbackslash
  | @letter letter hletter =>
    have hu : letter ≠ 'u' := by
      rintro rfl
      simp [letterEscapes] at hletter
    have hescape := escapedBy?_eq_some_iff.2 hletter
    simp only [List.cons_append, List.nil_append, readEscape, hescape, reading_ok]
  | unit hsmall hdigits => exact reading_readUnicodeEscape_unit hsmall hdigits rest (offset + 1)
  | @pair high low hlarge hhigh hlow =>
    have htext : 'u' :: (high ++ '\\' :: 'u' :: low) ++ rest =
        'u' :: (high ++ '\\' :: 'u' :: (low ++ rest)) := by simp
    rw [htext]
    exact reading_readUnicodeEscape_pair hlarge hhigh hlow rest (offset + 1)

theorem exists_low_of_readLowSurrogate {high : Nat} {cursor after : Cursor} {c : Char}
    (hread : readLowSurrogate high cursor = .ok (c, after)) :
    ∃ (low : Nat) (digits : List Char), cursor.rest = '\\' :: 'u' :: (digits ++ after.rest) ∧
      SpellsUnit low digits ∧
      (0xDC00 ≤ low ∧ low ≤ 0xDFFF) ∧ c = surrogatePair high low := by
  unfold readLowSurrogate at hread
  split at hread
  · cases hread
  · cases hread
  · rename_i rest hrest
    obtain ⟨⟨low, afterUnit⟩, hunit, hread⟩ := exists_of_bind_ok hread
    obtain ⟨digits, hdigits, _, hspells⟩ := exists_digits_of_readUnit hunit
    simp only at hread
    split at hread
    · rename_i hlow
      obtain ⟨rfl, rfl⟩ := Prod.mk.inj (Except.ok.inj hread)
      exact ⟨low, digits, by rw [hrest, ← hdigits], hspells, isLowSurrogate_iff.1 hlow, rfl⟩
    · cases hread
  · cases hread
  · cases hread

theorem exists_escape_of_readUnicodeEscape {cursor after : Cursor} {c : Char}
    (hread : readUnicodeEscape cursor = .ok (c, after)) :
    ∃ escape, cursor.rest = escape ++ after.rest ∧ SpellsChar c ('\\' :: 'u' :: escape) := by
  obtain ⟨⟨unit, afterUnit⟩, hunit, hread⟩ := exists_of_bind_ok hread
  obtain ⟨digits, hdigits, hbound, hspells⟩ := exists_digits_of_readUnit hunit
  simp only at hread
  split at hread
  · cases hread
  · rename_i hlow
    rw [isLowSurrogate_iff] at hlow
    split at hread
    · rename_i hhigh
      rw [isHighSurrogate_iff] at hhigh
      obtain ⟨low, lowDigits, hrest, hlowSpells, hlowBounds, hc⟩ := exists_low_of_readLowSurrogate hread
      obtain ⟨hlarge, hhighUnit, hlowUnit⟩ := units_surrogatePair hhigh hlowBounds
      rw [← hc] at hlarge hhighUnit hlowUnit
      rw [← hhighUnit] at hspells
      rw [← hlowUnit] at hlowSpells
      refine ⟨digits ++ '\\' :: 'u' :: lowDigits, ?_, .pair hlarge hspells hlowSpells⟩
      rw [hdigits, hrest]
      simp
    · rename_i hhigh
      rw [isHighSurrogate_iff] at hhigh
      obtain ⟨rfl, rfl⟩ := Prod.mk.inj (Except.ok.inj hread)
      have hcode : (Char.ofNat unit).toNat = unit := toNat_ofNat_of_valid (by omega)
      rw [← hcode] at hbound hspells
      exact ⟨digits, hdigits, .unit hbound hspells⟩

theorem exists_escape_of_readEscape {cursor after : Cursor} {c : Char}
    (hread : readEscape cursor = .ok (c, after)) :
    ∃ escape, cursor.rest = escape ++ after.rest ∧ SpellsChar c ('\\' :: escape) := by
  unfold readEscape at hread
  split at hread
  · cases hread
  · rename_i rest hrest
    obtain ⟨escape, hescape, hspells⟩ := exists_escape_of_readUnicodeEscape hread
    exact ⟨'u' :: escape, by rw [hrest]; exact congrArg (List.cons 'u') hescape, hspells⟩
  · rename_i letter rest _ hrest
    split at hread
    · rename_i d hescape
      cases hread
      exact ⟨[letter], hrest, .letter (escapedBy?_eq_some_iff.1 hescape)⟩
    · cases hread

/-! ### Strings -/

theorem SpellsChar.ne_nil {c : Char} {spelling : List Char} (hspelling : SpellsChar c spelling) :
    spelling ≠ [] := by
  cases hspelling <;> simp

/-- A character of a string is read from any of its spellings, and then what follows it. -/
theorem readChars_spelling {c : Char} {spelling : List Char} (hspelling : SpellsChar c spelling)
    (budget : Nat) (rest : List Char) (offset : Nat) :
    ∃ offset', readChars (budget + 1) ⟨spelling ++ rest, offset⟩ =
      (readChars budget ⟨rest, offset'⟩).bind fun (cs, after) => .ok (c :: cs, after) := by
  have hescape : ∀ {escape : List Char}, SpellsChar c ('\\' :: escape) → ∃ offset',
      readChars (budget + 1) ⟨'\\' :: (escape ++ rest), offset⟩ =
        (readChars budget ⟨rest, offset'⟩).bind fun (cs, after) => .ok (c :: cs, after) := by
    intro escape hspelling
    obtain ⟨offset', hread⟩ := reading_eq_some_iff.1 (reading_readEscape hspelling rest (offset + 1))
    refine ⟨offset', ?_⟩
    rw [readChars]
    simp only [hread]
    rfl
  cases hspelling with
  | plain hcontrol hquote hbackslash =>
    refine ⟨offset + c.utf8Size, ?_⟩
    simp only [List.cons_append, List.nil_append, readChars, if_neg (Nat.not_lt.2 hcontrol)]
    rfl
  | letter hletter => exact hescape (.letter hletter)
  | unit hsmall hdigits => exact hescape (.unit hsmall hdigits)
  | pair hlarge hhigh hlow => exact hescape (.pair hlarge hhigh hlow)

theorem reading_readChars {cs body : List Char} (hbody : SpellsChars cs body) (rest : List Char)
    {budget : Nat} (hbudget : body.length < budget) (offset : Nat) :
    reading (readChars budget ⟨body ++ '"' :: rest, offset⟩) = some (cs, rest) := by
  induction hbody generalizing budget offset with
  | nil =>
    cases budget with
    | zero => omega
    | succ budget => rfl
  | @cons c cs spelling body hc hcs ih =>
    cases budget with
    | zero => omega
    | succ budget =>
      have hpositive := List.length_pos_of_ne_nil hc.ne_nil
      rw [List.length_append] at hbudget
      obtain ⟨offset', hread⟩ := readChars_spelling hc budget (body ++ '"' :: rest) offset
      rw [List.append_assoc, hread]
      exact reading_bind (ih (by omega) offset') fun offset => rfl

/-- Every spelling of a string, with its closing quote, is read as that string. -/
theorem readString_spelling {text : String} {body : List Char} (hbody : SpellsChars text.toList body)
    (rest : List Char) (offset : Nat) :
    reading (readString ⟨body ++ '"' :: rest, offset⟩) = some (text, rest) := by
  have hbudget : body.length < (body ++ '"' :: rest).length := by
    rw [List.length_append, List.length_cons]
    omega
  refine reading_bind (reading_readChars hbody rest hbudget offset) fun offset => ?_
  simp only [reading_ok, String.ofList_toList]

theorem exists_spelling_of_readChars {budget : Nat} {cursor after : Cursor} {cs : List Char}
    (hread : readChars budget cursor = .ok (cs, after)) :
    ∃ body, cursor.rest = body ++ '"' :: after.rest ∧ SpellsChars cs body := by
  induction budget generalizing cursor cs with
  | zero => cases hread
  | succ budget ih =>
    rw [readChars] at hread
    split at hread
    · cases hread
    · rename_i rest hrest
      cases hread
      exact ⟨[], hrest, .nil⟩
    · rename_i rest hrest
      obtain ⟨⟨c, afterChar⟩, hescape, hread⟩ := exists_of_bind_ok hread
      obtain ⟨⟨cs', after'⟩, hmore, hread⟩ := exists_of_bind_ok hread
      cases hread
      obtain ⟨escape, hafter, hspelling⟩ := exists_escape_of_readEscape hescape
      obtain ⟨body, hbody, hcs⟩ := ih hmore
      have hafter : rest = escape ++ afterChar.rest := hafter
      refine ⟨'\\' :: escape ++ body, ?_, .cons hspelling hcs⟩
      rw [hrest, hafter, hbody]
      simp
    · rename_i c rest hquote hbackslash hrest
      split at hread
      · cases hread
      · rename_i hcontrol
        obtain ⟨⟨cs', after'⟩, hmore, hread⟩ := exists_of_bind_ok hread
        cases hread
        obtain ⟨body, hbody, hcs⟩ := ih hmore
        refine ⟨[c] ++ body, ?_, .cons (.plain (Nat.le_of_not_lt hcontrol) ?_ ?_) hcs⟩
        · rw [hrest]
          exact congrArg (List.cons c) hbody
        · rintro rfl
          exact hquote rfl
        · rintro rfl
          exact hbackslash rfl

theorem exists_spelling_of_readString {cursor after : Cursor} {text : String}
    (hread : readString cursor = .ok (text, after)) :
    ∃ body, cursor.rest = body ++ '"' :: after.rest ∧ SpellsChars text.toList body := by
  obtain ⟨⟨cs, after'⟩, hchars, hread⟩ := exists_of_bind_ok hread
  cases hread
  rw [String.toList_ofList]
  exact exists_spelling_of_readChars hchars

end SchemaTyping.Json
