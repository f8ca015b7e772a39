import SchemaTyping.Decode.FromText
import SchemaTyping.Proofs.Json.Parsing

/-!
# Reading a text as any value

A text that is read as any value is parsed, and nothing is asked of the value. So the grammar says which
texts are accepted and what each of them gives. What follows the value of a text is not looked at.
-/

namespace SchemaTyping.Decode

open Json (Value IsBlank Spells depthLimit parse)

theorem ofText_any (text : String) : ofText .any text = (parse text).mapError .malformed := by
  rw [ofText, Target.read, parse, Json.readFirst]
  cases Json.readValue depthLimit (Json.Cursor.start text.toList) with
  | error fault => rfl
  | ok read => rfl

theorem ofText_any_eq_ok_iff {text : String} {value : Value} :
    ofText .any text = .ok value ↔ parse text = .ok value := by
  rw [ofText_any]
  cases parse text with
  | error fault =>
    constructor <;> intro hread <;> cases hread
  | ok read =>
    constructor <;> intro hread <;> cases hread <;> rfl

/-- Every accepted text starts with a text of the grammar that nests no deeper than the limit, and gives
the tree of that text with its repeated keys settled. An integer in such a tree stands where its
canonical decimal is written, and fits 64 bits. -/
theorem accepted_text_derivable {text : String} {value : Value} (hread : ofText .any text = .ok value) :
    (∃ before body rest tree, text.toList = before ++ (body ++ rest) ∧ IsBlank before ∧
      Spells tree body ∧
      tree.NestsWithin depthLimit ∧ value = tree.settled) ∧
    ∀ i literal, Spells (.number (.int i)) literal ↔ literal = Decimal.intChars i ∧ -2 ^ 63 ≤ i ∧
      i < 2 ^ 64 :=
  ⟨Json.exists_spelling_of_parse (ofText_any_eq_ok_iff.1 hread), fun _ _ => Json.spells_int_iff⟩

/-- A text with an escape, a key written twice, and a bracket too many. -/
def surplusBracket : String := " \x7b\"a\": [1, \"\\u00e9\"], \"a\": -5\x7d ]"

theorem surplusBracket_derivable :
    ofText .any surplusBracket = .ok (.object [("a", .number (.int (-5)))]) ∧
      ∃ before body rest tree, surplusBracket.toList = before ++ (body ++ rest) ∧ IsBlank before ∧
        Spells tree body ∧
        tree.NestsWithin depthLimit ∧ .object [("a", .number (.int (-5)))] = tree.settled := by
  have hread : ofText .any surplusBracket = .ok (.object [("a", .number (.int (-5)))]) := by cbv
  exact ⟨hread, (accepted_text_derivable hread).1⟩

end SchemaTyping.Decode
