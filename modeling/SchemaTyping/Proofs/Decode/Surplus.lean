import SchemaTyping.Proofs.Decode.TextAndValue

/-!
# Faults of a text that is JSON

A typed reading reports a fault of the text only where the text is no JSON, with one exception: a list
that stands for a record and goes on behind the record's last field. What follows is then reported as a
fault, although the text may be JSON; the same list read as a value is a mismatch. Every other text that
is JSON and not of its target is reported as a mismatch, at a place in the text.
-/

namespace SchemaTyping.Decode

open Json (Value Cursor parse)

/-- What a text that is parsed comes to as a target: the tree that it spells is accepted or refused, and
the text is accepted or refused with it. -/
theorem ParsedAs.exists_meets {text : String} {tree : Value} (hparsed : ParsedAs text tree)
    (target : Target) :
    ∃ rest, Meets tree.DistinctKeys Whatever (target.read Json.depthLimit (Cursor.start text.toList))
      (target.ofValue tree) rest := by
  obtain ⟨rest, hplaced⟩ := hparsed.exists_placed
  exact ⟨rest, target.meets _ _ _ _ hplaced⟩

/-- **A fault of a text that is JSON is a surplus.** If a text is reported as malformed when it is read
as a target, then it is malformed as any value too, or the tree that it spells is refused as too long a
list for a record, and characters behind the list's last field are reported. And a text that spells a
tree which is not of the target is reported as a mismatch at a place in the text, the one that refuses
the tree or else a field that is given twice, unless what refuses the tree is such a list. -/
theorem malformed_as_surplus (target : Target) (text : String) :
    (∀ fault, ofText target text = .error (.malformed fault) →
      (∃ fault', ofText .any text = .error (.malformed fault')) ∨
        (fault.cause = .trailingCharacters ∧ ∃ tree mismatch, ParsedAs text tree ∧
          target.ofValue tree = .error mismatch ∧
          mismatch.reason.IsSurplus)) ∧
    ∀ tree mismatch, ParsedAs text tree → target.ofValue tree = .error mismatch →
      (∃ reported place, ofText target text = .error (.mismatched reported (some place)) ∧
        (reported.reason.IsRepeat ∨ (reported = mismatch ∧ ¬ mismatch.reason.IsSurplus))) ∨
      (mismatch.reason.IsSurplus ∧ ∃ fault, ofText target text = .error (.malformed fault) ∧
        fault.cause = .trailingCharacters) := by
  refine ⟨fun fault hfault => ?_, fun tree mismatch hparsed hrefused => ?_⟩
  · rw [ofText_any]
    cases hparse : parse text with
    | error fault' => exact .inl ⟨fault', rfl⟩
    | ok value =>
      obtain ⟨tree, hparsed, _⟩ := exists_parsedAs hparse
      obtain ⟨rest, hmeets⟩ := hparsed.exists_meets target
      rw [ofText] at hfault
      generalize target.read Json.depthLimit (Cursor.start text.toList) = read at hmeets hfault
      generalize hseen : target.ofValue tree = seen at hmeets
      cases hmeets with
      | ok offset hsame hequal => cases hfault
      | mismatched offset _ hother => cases hfault
      | repeated offset _ _ hrepeat hagain => cases hfault
      | surplus place _ hsurplus =>
        cases hfault
        exact .inr ⟨rfl, tree, _, hparsed, hseen, hsurplus⟩
  · obtain ⟨rest, hmeets⟩ := hparsed.exists_meets target
    rw [hrefused] at hmeets
    rw [ofText]
    generalize target.read Json.depthLimit (Cursor.start text.toList) = read at hmeets ⊢
    cases hmeets with
    | surplus place _ hsurplus => exact .inr ⟨hsurplus, _, rfl, rfl⟩
    | mismatched offset _ hother => exact .inl ⟨mismatch, _, rfl, .inr ⟨rfl, hother⟩⟩
    | repeated offset _ _ hrepeat hagain => exact .inl ⟨_, _, rfl, .inl hrepeat⟩

/-- A list of a record's only field and a number too many. -/
def surplusDefinitions : String := "[\x7b\x7d,3]"

theorem surplusDefinitions_malformed :
    ∃ fault tree mismatch, ofText definitionsRecord surplusDefinitions = .error (.malformed fault) ∧
      fault.cause = .trailingCharacters ∧
      ParsedAs surplusDefinitions tree ∧ definitionsRecord.ofValue tree = .error mismatch ∧
      mismatch.reason.IsSurplus := by
  have hfault : ofText definitionsRecord surplusDefinitions =
      .error (.malformed ⟨.trailingCharacters, ⟨1, 5⟩⟩) := by cbv
  have hjson : ofText .any surplusDefinitions = .ok (.array [.object [], .number (.int 3)]) := by cbv
  rcases (malformed_as_surplus _ _).1 _ hfault with ⟨fault', hmalformed⟩ |
    ⟨_, tree, mismatch, hparsed, hrefused, _⟩
  · rw [hjson] at hmalformed
    cases hmalformed
  rcases (malformed_as_surplus _ _).2 tree mismatch hparsed hrefused
    with ⟨reported, place, hreported, _⟩ | ⟨hsurplus, fault, hfault, hcause⟩
  · rw [hfault] at hreported
    cases hreported
  · exact ⟨fault, tree, mismatch, hfault, hcause, hparsed, hrefused, hsurplus⟩

/-- The text is JSON, and its value is refused for its length. -/
theorem surplusDefinitions_is_json :
    ofText definitionsRecord surplusDefinitions = .error (.malformed ⟨.trailingCharacters, ⟨1, 5⟩⟩) ∧
      ofText .any surplusDefinitions = .ok (.array [.object [], .number (.int 3)]) ∧
      definitionsRecord.ofValue (.array [.object [], .number (.int 3)]) =
        .error ⟨[], .invalidLength 2 "fewer elements in array"⟩ := by
  refine ⟨?_, ?_, ?_⟩ <;> cbv

end SchemaTyping.Decode
