import SchemaTyping.Text.Basic

/-!
# The bytes of a text

Offsets count the bytes of a text in UTF-8. No character's bytes start with those of another
(`eq_of_encoded`), so texts whose bytes agree for a while agree in the characters that end before that.
And a line feed is a byte of nothing but itself, so the line and the column of an offset can be told from
the bytes before it (`ofOffset_eq`): the line by counting line feeds, the column by going back to the
last of them.
-/

namespace SchemaTyping.Text

/-- The bytes of a list of characters in UTF-8. -/
def bytes (text : List Char) : List UInt8 := text.flatMap String.utf8EncodeChar

def utf8 (text : String) : List UInt8 := text.toUTF8.data.toList

def lineFeed : UInt8 := 10

theorem utf8_eq_bytes (text : String) : utf8 text = bytes text.toList := by
  rw [utf8, String.toUTF8_eq_toByteArray, ← String.utf8Encode_toList, List.utf8Encode,
    List.data_toByteArray, bytes]

theorem bytes_cons (c : Char) (text : List Char) :
    bytes (c :: text) = String.utf8EncodeChar c ++ bytes text :=
  List.flatMap_cons

theorem length_bytes (text : List Char) : (bytes text).length = byteLength text := by
  induction text with
  | nil => rfl
  | cons c text ih => rw [bytes_cons, List.length_append, String.length_utf8EncodeChar, ih, byteLength]

theorem byteLength_append (front more : List Char) :
    byteLength (front ++ more) = byteLength front + byteLength more := by
  rw [← length_bytes, bytes, List.flatMap_append, List.length_append, ← bytes, ← bytes, length_bytes,
    length_bytes]

theorem utf8Size_of_ascii {c : Char} (hascii : c.toNat ≤ 127) : c.utf8Size = 1 :=
  Char.utf8Size_eq_one_iff.2 (UInt32.le_iff_toNat_le.2 hascii)

/-- No character's bytes start with those of another. -/
theorem eq_of_encoded {c d : Char} {rest rest' : List UInt8}
    (hsame : String.utf8EncodeChar c ++ rest = String.utf8EncodeChar d ++ rest') : c = d := by
  have hdecode : ∀ (c : Char) (rest : List UInt8),
      (String.utf8EncodeChar c ++ rest).toByteArray.utf8DecodeChar? 0 = some c := fun c rest => by
    rw [List.toByteArray_append]
    exact ByteArray.utf8DecodeChar?_utf8EncodeChar_append
  have hfirst := hdecode c rest
  rw [hsame, hdecode d rest'] at hfirst
  exact (Option.some.inj hfirst).symm

/-- A line feed is a byte of nothing but itself. -/
theorem lineFeed_not_mem {c : Char} (hc : c ≠ '\n') : lineFeed ∉ String.utf8EncodeChar c := by
  intro hmem
  obtain ⟨i, hi, hbyte⟩ := List.getElem_of_mem hmem
  -- it starts a character, and only the first byte of a character does
  have hstarts : ((String.utf8EncodeChar c)[i]).IsUTF8FirstByte := by
    rw [hbyte]
    decide
  obtain rfl := UInt8.isUTF8FirstByte_getElem_utf8EncodeChar.1 hstarts
  obtain ⟨first, more, hcons⟩ := List.exists_cons_of_ne_nil (String.utf8EncodeChar_ne_nil (c := c))
  simp only [hcons, List.getElem_cons_zero] at hbyte
  have hprefix : String.utf8EncodeChar c ++ [] = String.utf8EncodeChar '\n' ++ more := by
    rw [List.append_nil, hcons, hbyte]
    rfl
  exact hc (eq_of_encoded hprefix)

/-! ### Locations -/

/-- The location after one more byte. -/
def Location.next (location : Location) (byte : UInt8) : Location :=
  if byte = lineFeed then ⟨location.line + 1, 0⟩ else ⟨location.line, location.column + 1⟩

theorem foldl_next_of_not_mem {read : List UInt8} (hread : lineFeed ∉ read) (start : Location) :
    read.foldl Location.next start = ⟨start.line, start.column + read.length⟩ := by
  induction read generalizing start with
  | nil => rfl
  | cons byte read ih =>
    obtain ⟨hbyte, hread⟩ := not_or.1 fun hmem => hread (List.mem_cons.2 hmem)
    have hstep : start.next byte = ⟨start.line, start.column + 1⟩ := if_neg (Ne.symm hbyte)
    rw [List.foldl_cons, hstep, ih hread, List.length_cons, Nat.add_assoc, Nat.add_comm 1]

/-- Walking over characters comes to walking over the bytes before the offset. -/
theorem advance_eq_foldl (text : List Char) (offset : Nat) (start : Location) :
    Location.advance start text offset = ((bytes text).take offset).foldl Location.next start := by
  induction text generalizing offset start with
  | nil => rw [Location.advance, bytes, List.flatMap_nil, List.take_nil, List.foldl_nil]
  | cons c text ih =>
    rw [Location.advance, bytes_cons]
    split
    · rename_i hzero
      rw [hzero, List.take_zero, List.foldl_nil]
    · rename_i hpositive
      split
      · rename_i hline
        obtain ⟨more, rfl⟩ : ∃ more, offset = more + 1 := ⟨offset - 1, by omega⟩
        have hencoded : String.utf8EncodeChar c = [lineFeed] := by
          rw [hline]
          rfl
        rw [hencoded, List.singleton_append, List.take_succ_cons, List.foldl_cons, ih]
        rfl
      · rename_i hline
        have hclear := lineFeed_not_mem hline
        rw [← String.length_utf8EncodeChar c]
        split
        · rename_i hinside
          have hshort : lineFeed ∉ (String.utf8EncodeChar c).take offset :=
            fun hmem => hclear (List.mem_of_mem_take hmem)
          rw [List.take_append_of_le_length (Nat.le_of_lt hinside), foldl_next_of_not_mem hshort,
            List.length_take, Nat.min_eq_left (Nat.le_of_lt hinside)]
        · rename_i hbeyond
          rw [List.take_append, List.take_of_length_le (Nat.le_of_not_lt hbeyond), List.foldl_append,
            foldl_next_of_not_mem hclear, ih]

/-- Where the line of an offset starts: at the start of the text or behind a line feed, with no line feed
up to the offset. -/
structure StartsLine (text : List UInt8) (offset start : Nat) : Prop where
  le : start ≤ offset
  opens : start = 0 ∨ text[start - 1]? = some lineFeed
  clear : ∀ i, start ≤ i → i < offset → text[i]? ≠ some lineFeed

theorem exists_startsLine (text : List UInt8) {offset : Nat} (hoffset : offset ≤ text.length) :
    ∃ start, StartsLine text offset start ∧
      (text.take offset).foldl Location.next ⟨1, 0⟩ =
        ⟨1 + (text.take offset).count lineFeed, offset - start⟩ := by
  induction offset with
  | zero => exact ⟨0, ⟨Nat.le_refl 0, .inl rfl, fun i _ hi => absurd hi (Nat.not_lt_zero i)⟩, rfl⟩
  | succ offset ih =>
    obtain ⟨start, hstart, hlocation⟩ := ih (by omega)
    have hbyte : text[offset]? = some text[offset] := List.getElem?_eq_getElem (by omega)
    rw [List.take_add_one, hbyte, Option.toList_some, List.foldl_append, hlocation, List.count_append]
    by_cases hline : text[offset] = lineFeed
    · refine ⟨offset + 1, ⟨Nat.le_refl _, .inr ?_, fun i hle hlt => absurd hlt (by omega)⟩, ?_⟩
      · rw [Nat.add_sub_cancel, hbyte, hline]
      · simp [hline, Location.next, Nat.add_assoc]
    · refine ⟨start, ⟨Nat.le_succ_of_le hstart.le, hstart.opens, fun i hle hlt => ?_⟩, ?_⟩
      · rcases Nat.lt_succ_iff_lt_or_eq.1 hlt with hbefore | rfl
        · exact hstart.clear i hle hbefore
        · rw [hbyte]
          exact fun hsome => hline (Option.some.inj hsome)
      · have hle := hstart.le
        have hcolumn : offset - start + 1 = offset + 1 - start := by omega
        simp [hline, Location.next, hcolumn]

/-- The line of an offset is told by the line feeds before it, and its column is the distance to where
the line starts. -/
theorem ofOffset_eq (text : List Char) {offset : Nat} (hoffset : offset ≤ byteLength text) :
    ∃ start, StartsLine (bytes text) offset start ∧
      Location.ofOffset text offset =
        ⟨1 + ((bytes text).take offset).count lineFeed, offset - start⟩ := by
  rw [Location.ofOffset, advance_eq_foldl]
  exact exists_startsLine (bytes text) (by rwa [length_bytes])

/-- The location of an offset depends on the bytes before it. -/
theorem ofOffset_congr {text other : List Char} {offset : Nat}
    (hsame : (bytes other).take offset = (bytes text).take offset) :
    Location.ofOffset other offset = Location.ofOffset text offset := by
  rw [Location.ofOffset, Location.ofOffset, advance_eq_foldl, advance_eq_foldl, hsame]

end SchemaTyping.Text
