import SchemaTyping.Proofs.Json.Derivation

/-!
# Parsing a text

A text is parsed as the value that it starts with. Every text that starts with blanks and a spelling of a
tree is parsed, as that tree with its repeated keys settled (`parse_spelling`), and every text that is
parsed starts with such a spelling (`exists_spelling_of_parse`). A value without repeated keys comes back
from its compact text as it was (`parse_render`).
-/

namespace SchemaTyping.Json

theorem parse_eq_ok_iff {text : String} {value : Value} :
    parse text = .ok value ↔ ∃ after, readFirst text.toList = .ok (value, after) := by
  unfold parse
  constructor
  · intro hparse
    split at hparse
    · rename_i read after hread
      cases hparse
      exact ⟨after, hread⟩
    · cases hparse
  · rintro ⟨after, hread⟩
    rw [hread]

/-- A spelling of a tree is parsed as that tree with its repeated keys settled, whatever follows it that
does not go on with a number. -/
theorem parse_spelling {tree : Value} {body : List Char} (hspells : Spells tree body)
    (hdepth : tree.NestsWithin depthLimit) {before : List Char} (hbefore : IsBlank before)
    (rest : List Char) (hends : ∀ n, tree = .number n → EndsValue rest) :
    parse (String.ofList (before ++ (body ++ rest))) = .ok tree.settled := by
  obtain ⟨offset, hread⟩ := reading_eq_some_iff.1 (reading_readValue hspells hdepth hbefore hends 0)
  rw [parse_eq_ok_iff, String.toList_ofList]
  exact ⟨_, hread⟩

/-- A text that is parsed starts with a spelling of a tree, and gives that tree with its repeated keys
settled. -/
theorem exists_spelling_of_parse {text : String} {value : Value} (hparse : parse text = .ok value) :
    ∃ before body rest tree, text.toList = before ++ (body ++ rest) ∧ IsBlank before ∧ Spells tree body ∧
      tree.NestsWithin depthLimit ∧ value = tree.settled := by
  obtain ⟨after, hread⟩ := parse_eq_ok_iff.1 hparse
  obtain ⟨before, body, tree, hbefore, htext, hspells, hdepth, hvalue⟩ :=
    exists_spelling_of_readValue hread
  exact ⟨before, body, after.rest, tree, htext, hbefore, hspells, hdepth, hvalue⟩

theorem settled_of_distinctKeys {value : Value} (hdistinct : value.DistinctKeys) :
    value.settled = value := by
  induction hdistinct with
  | @intro value hself hparts ih =>
    cases value with
    | array items =>
      have hitems : items.map Value.settled = items.map id := List.map_congr_left ih
      rw [settled_array, hitems, List.map_id]
    | object members =>
      have hmembers : settledMembers members = members.map id := by
        rw [settledMembers_eq_map]
        refine List.map_congr_left fun member hmem => ?_
        have hvalue : member.2.settled = member.2 := ih member.2 (List.mem_map_of_mem hmem)
        exact congrArg (Prod.mk member.1) hvalue
      rw [Value.settled, hmembers, List.map_id, settled_of_nodup (hself members rfl)]
    | _ => rw [Value.settled]

/-- A value comes back from its compact text. -/
theorem parse_render {value : Value} (hintegers : value.IntegersOnly)
    (hdepth : value.NestsWithin depthLimit) (hdistinct : value.DistinctKeys) :
    parse value.render = .ok value := by
  have hparse :=
    parse_spelling (spells_chars hintegers) hdepth isBlank_nil [] fun _ _ => isBlank_nil.endsValue
  rw [settled_of_distinctKeys hdistinct, List.append_nil] at hparse
  exact hparse

end SchemaTyping.Json
