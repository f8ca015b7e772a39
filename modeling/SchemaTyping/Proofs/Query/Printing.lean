import SchemaTyping.Proofs.Json.Parsing
import SchemaTyping.Query.Datum

/-!
# Documents printed as values of filters

A filter sees a document as a datum, and prints a datum in a way of its own: it has fewer escapes with a
letter, and writes an integer that does not fit 64 bits with a sign as the numeral that it was. What it
prints for a document is nevertheless one of the document's spellings (`spells_ofJson`). So a document
that a text can give back at all is given back by what a filter prints for it
(`Lossless.parse_render_ofJson`).
-/

namespace SchemaTyping.Query

open Json (Value Members Spells SpellsChars SpellsSequence SpellsMember isBlank_nil depthLimit)

theorem dataOfJson_eq_map (items : List Value) : dataOfJson items = items.map Datum.ofJson := by
  induction items with
  | nil => rw [dataOfJson, List.map_nil]
  | cons item items ih => rw [dataOfJson, List.map_cons, ih]

theorem entriesOfJson_eq_map (members : Members) :
    entriesOfJson members = members.map fun (key, value) => (key, Datum.ofJson value) := by
  induction members with
  | nil => rw [entriesOfJson, List.map_nil]
  | cons member members ih => rw [entriesOfJson, List.map_cons, ih]

/-! ### The text of a datum -/

/-- The characters that a filter escapes with a letter, beside that letter. -/
def letteredEscapes : List (Char × Char) :=
  [('"', '"'), ('\\', '\\'), ('t', '\t'), ('n', '\n'), ('r', '\r')]

theorem spellsChar_escaped (c : Char) : Json.SpellsChar c (escapeChar c) := by
  refine Json.spellsChar_of_table letteredEscapes (by decide) (fun c hothers => ?_) (by decide)
    (by decide) c
  simp only [letteredEscapes, List.forall_mem_cons] at hothers
  simp only [escapeChar, hothers, if_false]

theorem spellsMember_entry {key : String} {value : Value}
    (hvalue : Spells value (Datum.ofJson value).chars) :
    SpellsMember Spells (key, value) (stringChars key ++ ':' :: (Datum.ofJson value).chars) :=
  Json.spellsMember_compact (.flatMap spellsChar_escaped _) hvalue

theorem spellsSequence_moreData {items : List Value}
    (hitems : ∀ item ∈ items, Spells item (Datum.ofJson item).chars) :
    SpellsSequence Spells ']' false items (moreItems (dataOfJson items)) :=
  Json.spellsSequence_compact (fun items => moreItems (dataOfJson items))
    (by simp only [dataOfJson, moreItems])
    (fun _ _ => by simp only [dataOfJson, moreItems, List.cons_append]) hitems

theorem spellsSequence_moreEntries {members : Members}
    (hmembers : ∀ member ∈ members, Spells member.2 (Datum.ofJson member.2).chars) :
    SpellsSequence (SpellsMember Spells) '}' false members (moreEntries (entriesOfJson members)) :=
  Json.spellsSequence_compact (fun members => moreEntries (entriesOfJson members))
    (by simp only [entriesOfJson, moreEntries])
    (fun _ _ => by simp only [entriesOfJson, moreEntries, List.cons_append]) fun member hmem =>
      spellsMember_entry (hmembers member hmem)

/-- An integer is printed in decimal, whether it is kept as a number or as a numeral. -/
theorem chars_ofJson_int (i : Int) : (Datum.ofJson (.number (.int i))).chars = Decimal.intChars i := by
  rw [Datum.ofJson]
  split
  · rw [Datum.chars]
  · rw [Datum.chars, String.toList_ofList]

/-- What a filter prints for a document is one of the document's spellings. -/
theorem spells_ofJson {value : Value} (hintegers : value.IntegersOnly) :
    Spells value (Datum.ofJson value).chars := by
  induction hintegers with
  | @intro value hself hparts ih =>
    -- as in the compact text, the first item or member is printed by itself
    match value with
    | .null => exact .null
    | .bool true => exact .true
    | .bool false => exact .false
    | .number (.int i) =>
      rw [chars_ofJson_int]
      exact Json.spells_int_iff.2 ⟨rfl, hself⟩
    | .number (.float x) => exact hself.elim
    | .string text =>
      rw [Datum.ofJson, Datum.chars]
      exact .string (.flatMap spellsChar_escaped _)
    | .array [] =>
      rw [Datum.ofJson, dataOfJson, Datum.chars]
      exact .array (.close isBlank_nil)
    | .array (item :: items) =>
      rw [Datum.ofJson, dataOfJson, Datum.chars]
      obtain ⟨hitem, hitems⟩ := List.forall_mem_cons.1 ih
      exact .array (.item (.first isBlank_nil) hitem (spellsSequence_moreData hitems))
    | .object [] =>
      rw [Datum.ofJson, entriesOfJson, Datum.chars]
      exact .object (.close isBlank_nil)
    | .object ((key, member) :: members) =>
      obtain ⟨hmember, hmembers⟩ := List.forall_mem_cons.1 ih
      have hfirst := SpellsSequence.item (.first isBlank_nil) (@spellsMember_entry key _ hmember)
        (spellsSequence_moreEntries fun member hmem => hmembers member.2 (List.mem_map_of_mem hmem))
      rw [Datum.ofJson, entriesOfJson, Datum.chars]
      simpa using Spells.object hfirst

/-! ### Documents that texts give back -/

/-- A document that some text gives back as it is: all its numbers are integers of 64 bits, with or
without a sign, no object has a key twice, and it nests no deeper than the reader goes. -/
structure Lossless (value : Value) : Prop where
  integers : value.IntegersOnly
  distinct : value.DistinctKeys
  depth : value.NestsWithin depthLimit

instance : DecidablePred Lossless := fun value =>
  decidable_of_iff (value.IntegersOnly ∧ value.DistinctKeys ∧ value.NestsWithin depthLimit)
    ⟨fun ⟨hintegers, hdistinct, hdepth⟩ => ⟨hintegers, hdistinct, hdepth⟩,
      fun ⟨hintegers, hdistinct, hdepth⟩ => ⟨hintegers, hdistinct, hdepth⟩⟩

theorem Lossless.parse_render_ofJson {value : Value} (hvalue : Lossless value) :
    Json.parse (Datum.ofJson value).render = .ok value := by
  have hparse :=
    Json.parse_spelling (spells_ofJson hvalue.integers) hvalue.depth isBlank_nil [] fun _ _ =>
      isBlank_nil.endsValue
  rw [Json.settled_of_distinctKeys hvalue.distinct, List.append_nil] at hparse
  exact hparse

theorem Lossless.part {value part : Value} (hvalue : Lossless value) (hpart : part ∈ value.parts) :
    Lossless part where
  integers := by
    cases hvalue.integers with
    | intro _ hparts => exact hparts part hpart
  distinct := by
    cases hvalue.distinct with
    | intro _ hparts => exact hparts part hpart
  depth := (hvalue.depth part hpart).mono (Nat.le_succ _)

end SchemaTyping.Query
