import SchemaTyping.Proofs.Decode.AnyText
import SchemaTyping.Typing.Declaration

/-!
# Literals read back

Two rules are enough to read a quoted literal: a backslash lets the character behind it stand for itself,
and the first quote without a backslash in front of it ends the literal. Quoting a text doubles its
backslashes and then puts one in front of each quote, in that order, since the backslashes of the second
step must not be doubled. Read by the two rules the literal gives the text back, and leaves what follows
it, so no literal is the start of another. The text tells which string it was, and it is JSON for the
list, the object or the integer that it was written for.
-/

namespace SchemaTyping.Typing

open Json (Value depthLimit)

/-! ### Quoting in two steps -/

/-- Writes another text for each occurrence of a character. -/
def replaceChar (old : Char) (new text : List Char) : List Char :=
  text.flatMap fun c => if c = old then new else [c]

theorem escapeLiteralChar_eq (c : Char) :
    escapeLiteralChar c = replaceChar '"' ['\\', '"'] (if c = '\\' then ['\\', '\\'] else [c]) := by
  by_cases hbackslash : c = '\\'
  · subst hbackslash
    rfl
  · by_cases hquote : c = '"'
    · subst hquote
      rfl
    · simp [escapeLiteralChar, replaceChar, hbackslash, hquote]

/-- Escaping is one replacement after the other. -/
theorem flatMap_escapeLiteralChar (text : List Char) :
    text.flatMap escapeLiteralChar =
      replaceChar '"' ['\\', '"'] (replaceChar '\\' ['\\', '\\'] text) := by
  unfold replaceChar
  rw [List.flatMap_assoc]
  exact List.flatMap_congr fun c _ => escapeLiteralChar_eq c

theorem toList_quoteLiteral (value : Value) :
    (quoteLiteral value).toList = '"' :: (literalChars value).flatMap escapeLiteralChar ++ ['"'] := by
  rw [quoteLiteral, String.toList_ofList, quoteLiteralChars]

/-! ### Reading -/

/-- Reads on behind the opening quote: the text up to the first quote that no backslash escapes, and what
follows that quote. -/
def readLiteralBody? : List Char → Option (List Char × List Char)
  | [] | ['\\'] => none
  | '"' :: rest => some ([], rest)
  | '\\' :: c :: more => (readLiteralBody? more).map (Prod.map (c :: ·) id)
  | c :: more => (readLiteralBody? more).map (Prod.map (c :: ·) id)

/-- Reads the literal that a text starts with. -/
def readLiteral? : List Char → Option (List Char × List Char)
  | '"' :: more => readLiteralBody? more
  | _ => none

theorem readLiteralBody?_plain {c : Char} (hbackslash : c ≠ '\\') (hquote : c ≠ '"') (more : List Char) :
    readLiteralBody? (c :: more) = (readLiteralBody? more).map (Prod.map (c :: ·) id) := by
  rw [readLiteralBody?]
  · intro hlast
    exact absurd hlast hbackslash
  · exact hquote
  · intro _ _ hescape
    exact absurd hescape hbackslash

/-- However a character is written, it is read as itself. -/
theorem readLiteralBody?_escapeLiteralChar (c : Char) (more : List Char) :
    readLiteralBody? (escapeLiteralChar c ++ more) =
      (readLiteralBody? more).map (Prod.map (c :: ·) id) := by
  unfold escapeLiteralChar
  split
  · rfl
  · rename_i hplain
    rw [not_or] at hplain
    exact readLiteralBody?_plain hplain.1 hplain.2 more

theorem readLiteralBody?_escaped (text rest : List Char) :
    readLiteralBody? (text.flatMap escapeLiteralChar ++ '"' :: rest) = some (text, rest) := by
  induction text with
  | nil => rfl
  | cons c text ih =>
    rw [List.flatMap_cons, List.append_assoc, readLiteralBody?_escapeLiteralChar, ih]
    rfl

theorem readLiteral?_quoteLiteral (value : Value) (rest : List Char) :
    readLiteral? ((quoteLiteral value).toList ++ rest) = some (literalChars value, rest) := by
  rw [toList_quoteLiteral, List.cons_append, List.cons_append, List.append_assoc]
  exact readLiteralBody?_escaped (literalChars value) rest

theorem literalChars_eq_of_quoteLiteral_eq {value other : Value}
    (hsame : quoteLiteral value = quoteLiteral other) :
    literalChars value = literalChars other := by
  have hread := readLiteral?_quoteLiteral value []
  rw [hsame, readLiteral?_quoteLiteral] at hread
  exact (Prod.mk.inj (Option.some.inj hread)).1.symm

/-! ### Back to the value -/

/-- The integers, the lists and the objects, of which a literal has the JSON text. -/
def writtenAsJson : Value → Bool
  | .number (.int _) | .array _ | .object _ => true
  | _ => false

theorem literalChars_eq_chars {value : Value} (hwritten : writtenAsJson value = true) :
    literalChars value = value.chars := by
  cases value with
  | number n => rfl
  | array items => rfl
  | object members => rfl
  | _ => cases hwritten

/-- **A quoted literal reads back.** A literal is its text with backslashes doubled first and quotes
escaped then, between quotes. The reader finds the text and leaves what follows the literal, so strings
with the same literal are the same. For a list, an object or an integer, as long as the parser takes its
numbers and its depth, the text read back is JSON for it. -/
theorem quoted_literals_read_back :
    (∀ value, (quoteLiteral value).toList =
      '"' :: replaceChar '"' ['\\', '"'] (replaceChar '\\' ['\\', '\\'] (literalChars value)) ++ ['"']) ∧
    (∀ value rest,
      readLiteral? ((quoteLiteral value).toList ++ rest) = some (literalChars value, rest)) ∧
    (Function.Injective fun text : String => quoteLiteral (.string text)) ∧
    ∀ value, writtenAsJson value = true → value.IntegersOnly → value.DistinctKeys →
      value.NestsWithin depthLimit →
      Decode.ofText .any (String.ofList (literalChars value)) = .ok value := by
  refine ⟨fun value => ?_, readLiteral?_quoteLiteral, fun text other hsame => ?_,
    fun value hwritten hintegers hdistinct hdepth => ?_⟩
  · rw [toList_quoteLiteral, flatMap_escapeLiteralChar]
  · apply String.ext
    exact literalChars_eq_of_quoteLiteral_eq hsame
  · rw [literalChars_eq_chars hwritten]
    exact Decode.ofText_any_eq_ok_iff.2 (Json.parse_render hintegers hdepth hdistinct)

/-- A list whose JSON text has quotes and backslashes. -/
def escapedTwice : Value := .array [.string "\"\\", .object [("k", .number (.int (-7)))]]

theorem escapedTwice_reads_back :
    readLiteral? ((quoteLiteral escapedTwice).toList ++ ['"', ',']) =
        some ("[\"\\\"\\\\\",\x7b\"k\":-7\x7d]".toList, ['"', ',']) ∧
      Decode.ofText .any "[\"\\\"\\\\\",\x7b\"k\":-7\x7d]" = .ok escapedTwice := by
  have htext : literalChars escapedTwice = "[\"\\\"\\\\\",\x7b\"k\":-7\x7d]".toList := by
    decide +kernel
  have hintegers : escapedTwice.IntegersOnly := by
    have hmember : (Value.object [("k", .number (.int (-7)))]).IntegersOnly :=
      .intro trivial (List.forall_mem_singleton.2 (.of_no_parts ⟨by decide, by decide⟩ rfl))
    exact .intro trivial
      (List.forall_mem_cons.2 ⟨.of_no_parts trivial rfl, List.forall_mem_singleton.2 hmember⟩)
  have hdistinct : escapedTwice.DistinctKeys := by
    have hmember : (Value.object [("k", .number (.int (-7)))]).DistinctKeys := by
      refine .intro (fun members hobject => ?_) (List.forall_mem_singleton.2 (.of_no_parts nofun rfl))
      cases hobject
      decide
    exact .intro nofun
      (List.forall_mem_cons.2 ⟨.of_no_parts nofun rfl, List.forall_mem_singleton.2 hmember⟩)
  have hdepth : escapedTwice.NestsWithin depthLimit := by decide +kernel
  obtain ⟨_, hreads, _, hvalues⟩ := quoted_literals_read_back
  have hread := hreads escapedTwice ['"', ',']
  have hvalue := hvalues escapedTwice rfl hintegers hdistinct hdepth
  rw [htext] at hread hvalue
  exact ⟨hread, hvalue⟩

end SchemaTyping.Typing
