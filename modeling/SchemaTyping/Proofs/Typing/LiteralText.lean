import SchemaTyping.Proofs.Text.OneLine
import SchemaTyping.Typing.Declaration

/-!
# Literal values as Python reads them

A literal value is written between double quotes. The compact JSON text of a value is on one line,
whatever the value, since JSON spells the characters that end a line by escapes. The text of a string is
written as it is, but for quotes and backslashes. So a value that is no string is always written as a
literal on one line (`isLiteralOf_quoteLiteral_iff`), and a string is exactly if it is on one line
itself.
-/

namespace SchemaTyping.Json

open Decimal (intChars natChars positional scientific Layout)
open Text (breaks OneLine oneLine_nil oneLine_cons oneLine_append not_mem_breaks)

/-! ### Compact JSON text -/

theorem oneLine_natChars (n : Nat) : OneLine (natChars n) := by
  intro c hc
  have hdigit := Nat.isDigit_of_mem_toDigits (by decide) (by decide) hc
  have hbreaks : ∀ c ∈ breaks, c.isDigit = false :=
    List.forall_mem_cons.2 ⟨by decide, List.forall_mem_singleton.2 (by decide)⟩
  intro hbreak
  rw [hbreaks c hbreak] at hdigit
  cases hdigit

theorem oneLine_intChars (i : Int) : OneLine (intChars i) := by
  unfold intChars
  split
  · exact oneLine_cons.2 ⟨by decide, oneLine_natChars _⟩
  · exact oneLine_natChars _

theorem oneLine_zeros (n : Nat) : OneLine (List.replicate n '0') := by
  intro c hc
  obtain rfl := List.eq_of_mem_replicate hc
  decide

theorem oneLine_positional {digits : List Char} (hdigits : OneLine digits) (point : Int) :
    OneLine (positional digits point) := by
  have htake : OneLine (digits.take point.toNat) := hdigits.of_subset (List.take_subset _ _)
  have hdrop : OneLine (digits.drop point.toNat) := hdigits.of_subset (List.drop_subset _ _)
  have hpoint : '0' ∉ breaks ∧ '.' ∉ breaks := by decide
  unfold positional
  split
  · simp [hdigits, oneLine_zeros, hpoint]
  · split
    · simp [hdigits, oneLine_zeros, hpoint]
    · simp [htake, hdrop, hpoint]

theorem oneLine_scientific {digits : List Char} (hdigits : OneLine digits) (layout : Layout)
    (point : Int) :
    OneLine (scientific layout digits point) := by
  have htake : OneLine (digits.take 1) := hdigits.of_subset (List.take_subset _ _)
  have hdrop : OneLine (digits.drop 1) := hdigits.of_subset (List.drop_subset _ _)
  have hsign : OneLine (if layout.plusSign && 0 < point - 1 then ['+'] else []) := by
    split <;> decide
  have hfraction : OneLine (if digits.length ≤ 1 then [] else '.' :: digits.drop 1) := by
    split
    · exact oneLine_nil
    · exact oneLine_cons.2 ⟨by decide, hdrop⟩
  have hexponent : OneLine (intChars (point - 1)) := oneLine_intChars _
  exact oneLine_append.2
    ⟨oneLine_append.2 ⟨oneLine_append.2 ⟨htake, hfraction⟩, oneLine_cons.2 ⟨by decide, hsign⟩⟩,
      hexponent⟩

theorem oneLine_layout (layout : Layout) (x : Float) : OneLine (layout.chars x) := by
  unfold Layout.chars
  extract_lets shortest digits point magnitude
  have hmagnitude : OneLine magnitude := by
    unfold magnitude
    split
    · decide
    · split
      · exact oneLine_positional (oneLine_natChars _) _
      · exact oneLine_scientific (oneLine_natChars _) _ _
  split
  · exact oneLine_cons.2 ⟨by decide, hmagnitude⟩
  · exact hmagnitude

theorem Number.oneLine_chars (n : Number) : OneLine n.chars := by
  cases n with
  | int i => exact oneLine_intChars i
  | float x =>
    rw [Number.chars]
    split
    · exact oneLine_layout _ x
    · decide

theorem oneLine_hexDigits (code : Nat) : OneLine (hexDigits code) := by
  have hdigits : ∀ digit < 16, Nat.digitChar digit ∉ breaks := by decide
  have hdigit : ∀ n, Nat.digitChar (n % 16) ∉ breaks := fun n => hdigits _ (Nat.mod_lt n (by decide))
  simp [hexDigits, hdigit]

theorem oneLine_escapeChar (c : Char) : OneLine (escapeChar c) := by
  unfold escapeChar
  iterate 7 (split; · decide)
  -- what is left are the controls without a letter and what is written as it is
  split
  · exact oneLine_cons.2 ⟨by decide, oneLine_cons.2 ⟨by decide, oneLine_hexDigits _⟩⟩
  · exact oneLine_cons.2 ⟨not_mem_breaks (by omega), oneLine_nil⟩

theorem oneLine_stringChars (text : String) : OneLine (stringChars text) := by
  have hbody : OneLine (text.toList.flatMap escapeChar) :=
    OneLine.flatMap fun c _ => oneLine_escapeChar c
  exact oneLine_append.2 ⟨oneLine_cons.2 ⟨by decide, hbody⟩, by decide⟩

mutual
/-- The compact text of a value is on one line. -/
theorem Value.oneLine_chars : (value : Value) → OneLine value.chars
  | .null => by decide
  | .bool true => by decide
  | .bool false => by decide
  | .number n => n.oneLine_chars
  | .string s => oneLine_stringChars s
  | .array [] => by decide
  | .array (item :: items) =>
    oneLine_append.2 ⟨oneLine_cons.2 ⟨by decide, item.oneLine_chars⟩, oneLine_moreItems items⟩
  | .object [] => by decide
  | .object ((key, value) :: members) =>
    oneLine_append.2 ⟨oneLine_append.2 ⟨oneLine_cons.2 ⟨by decide, oneLine_stringChars key⟩,
      oneLine_cons.2 ⟨by decide, value.oneLine_chars⟩⟩, oneLine_moreMembers members⟩
theorem oneLine_moreItems : (items : List Value) → OneLine (moreItems items)
  | [] => by decide
  | item :: items =>
    oneLine_append.2 ⟨oneLine_cons.2 ⟨by decide, item.oneLine_chars⟩, oneLine_moreItems items⟩
theorem oneLine_moreMembers : (members : List (String × Value)) → OneLine (moreMembers members)
  | [] => by decide
  | (key, value) :: members =>
    oneLine_append.2 ⟨oneLine_append.2 ⟨oneLine_cons.2 ⟨by decide, oneLine_stringChars key⟩,
      oneLine_cons.2 ⟨by decide, value.oneLine_chars⟩⟩, oneLine_moreMembers members⟩
end

end SchemaTyping.Json

namespace SchemaTyping.Typing

open Json (Value)
open Text (breaks OneLine oneLine_nil oneLine_cons oneLine_append)

/-! ### Python string literals -/

/-- The relation of what stands between the double quotes of a Python string literal on one line to the
text that it stands for: a character for itself, but for quotes, backslashes and what ends a line, and a
backslash with a quote or a backslash for the latter. Python has more escapes, of which none is written
here. -/
inductive LiteralBody : List Char → List Char → Prop where
  | nil : LiteralBody [] []
  | plain {c : Char} {body text : List Char} (hquote : c ≠ '"') (hbackslash : c ≠ '\\')
    (hbreak : c ∉ breaks)
      (hrest : LiteralBody body text) : LiteralBody (c :: body) (c :: text)
  | escaped {c : Char} {body text : List Char} (hescaped : c = '\\' ∨ c = '"')
    (hrest : LiteralBody body text) :
      LiteralBody ('\\' :: c :: body) (c :: text)

/-- The relation of a Python string literal on one line to the text that it stands for. -/
def IsLiteralOf (literal text : List Char) : Prop :=
  ∃ body, literal = '"' :: body ++ ['"'] ∧ LiteralBody body text

theorem LiteralBody.oneLine {body text : List Char} (hbody : LiteralBody body text) : OneLine body := by
  induction hbody with
  | nil => exact oneLine_nil
  | plain _ _ hbreak _ ih => exact oneLine_cons.2 ⟨hbreak, ih⟩
  | escaped hescaped _ ih =>
    refine oneLine_cons.2 ⟨by decide, oneLine_cons.2 ⟨?_, ih⟩⟩
    rcases hescaped with rfl | rfl <;> decide

theorem IsLiteralOf.oneLine {literal text : List Char} (hliteral : IsLiteralOf literal text) :
    OneLine literal := by
  obtain ⟨body, rfl, hbody⟩ := hliteral
  exact oneLine_append.2 ⟨oneLine_cons.2 ⟨by decide, hbody.oneLine⟩, by decide⟩

theorem literalBody_escaped {text : List Char} (hline : OneLine text) :
    LiteralBody (text.flatMap escapeLiteralChar) text := by
  induction text with
  | nil => exact .nil
  | cons c text ih =>
    rw [oneLine_cons] at hline
    have hrest := ih hline.2
    rw [List.flatMap_cons, escapeLiteralChar]
    split
    · exact .escaped ‹_› hrest
    · rename_i hplain
      rw [not_or] at hplain
      exact .plain hplain.2 hplain.1 hline.1 hrest

theorem subset_quoteLiteralChars (text : List Char) : text ⊆ quoteLiteralChars text := by
  intro c hc
  have hself : c ∈ escapeLiteralChar c := by
    unfold escapeLiteralChar
    split <;> simp
  simp only [quoteLiteralChars, List.cons_append, List.mem_cons, List.mem_append]
  exact .inr (.inl (List.mem_flatMap.2 ⟨c, hc, hself⟩))

/-- A quoted text is a literal on one line exactly if the text is on one line, and then it is a literal
of the text. -/
theorem oneLine_quoteLiteralChars_iff {text : List Char} :
    OneLine (quoteLiteralChars text) ↔ OneLine text := by
  constructor
  · exact OneLine.of_subset (subset_quoteLiteralChars text)
  · intro hline
    exact IsLiteralOf.oneLine ⟨_, rfl, literalBody_escaped hline⟩

theorem isLiteralOf_quoteLiteral {value : Value} (hline : OneLine (literalChars value)) :
    IsLiteralOf (quoteLiteral value).toList (literalChars value) := by
  refine ⟨(literalChars value).flatMap escapeLiteralChar, ?_, literalBody_escaped hline⟩
  rw [quoteLiteral, String.toList_ofList, quoteLiteralChars]

/-- The value is a string with a character in it that ends a line. -/
def BrokenString (value : Value) : Prop := ∃ text, value = .string text ∧ ¬ OneLine text.toList

theorem oneLine_literalChars_iff {value : Value} :
    OneLine (literalChars value) ↔ ¬ BrokenString value := by
  unfold BrokenString
  cases value with
  | string text => simp [literalChars]
  | bool b => cases b <;> simp [literalChars] <;> decide
  | null => simp [literalChars]; decide
  | number n => simpa [literalChars] using (Value.number n).oneLine_chars
  | array items => simpa [literalChars] using (Value.array items).oneLine_chars
  | object members => simpa [literalChars] using (Value.object members).oneLine_chars

theorem oneLine_quoteLiteral_iff {value : Value} :
    OneLine (quoteLiteral value).toList ↔ ¬ BrokenString value := by
  rw [quoteLiteral, String.toList_ofList, oneLine_quoteLiteralChars_iff, oneLine_literalChars_iff]

end SchemaTyping.Typing
