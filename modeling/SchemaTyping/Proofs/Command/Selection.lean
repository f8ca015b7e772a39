import SchemaTyping.Proofs.Command.Run
import SchemaTyping.Proofs.Query.FieldPath

/-!
# Selecting a node in two ways

A node is asked for by a pointer, by a query, or by a query for the node that a pointer leads to. By
pointers each node of a document can be asked for, and nothing else (`every_node_has_its_pointer`). Where
keys lead to it that can be written in a query, the ways agree, wherever the keys are divided between a
pointer and a query (`pointers_and_queries_agree`).
-/

namespace SchemaTyping.Command

open Json (Value PathStep WellEscaped pointerTo escapeToken decodePointer?)
open Query (IsIdentifier Lossless fieldPath runQueryForOne)

/-- The arguments with a pointer and a query in place of theirs. -/
def Arguments.asking (arguments : Arguments) (pointer expression : Option String) : Arguments :=
  { arguments with jsonPointer := pointer, jqExpr := expression }

section

variable (arguments : Arguments) {document pointed node : Value} {pointer expression : String}

theorem select_pointer_iff : select (arguments.asking (some pointer) none) document = .ok node ↔
    document.pointer? pointer = some node := by
  rw [select_eq_ok_iff]
  constructor
  · rintro ⟨pointed, hpointed, hqueried⟩
    cases hqueried
    cases hpointed with
    | node hpointer => exact hpointer
  · exact fun hpointer => ⟨node, .node hpointer, .node⟩

theorem select_query (hquery : runQueryForOne expression document = .ok node) :
    select (arguments.asking none (some expression)) document = .ok node :=
  select_eq_ok_iff.2 ⟨document, .document, .output hquery⟩

theorem select_pointer_query (hpointer : document.pointer? pointer = some pointed)
    (hquery : runQueryForOne expression pointed = .ok node) :
    select (arguments.asking (some pointer) (some expression)) document = .ok node :=
  select_eq_ok_iff.2 ⟨pointed, .node hpointer, .output hquery⟩

/-- Without a node that the pointer leads to there is nothing to query. -/
theorem select_unmatched (hpointer : document.pointer? pointer = none) (expression : Option String) :
    select (arguments.asking (some pointer) expression) document =
      .error (.unmatchedPointer pointer) := by
  have hpoint : point (some pointer) document = .error (.unmatchedPointer pointer) := by
    simp only [point, hpointer]
  rw [select, Arguments.asking, hpoint]
  rfl

end

/-! ### All nodes by pointers -/

/-- **Every node is reached by its escaped pointer.** The pointer of a path selects the node at the path,
and the empty pointer the whole document. If a pointer in which tildes only escape selects a node, it
decodes to the steps of a path to this node, and is the pointer that is written for this path; a step
into a list is then an index below its length, in the one decimal that it has. -/
theorem every_node_has_its_pointer (arguments : Arguments) (document : Value) :
    (∀ path node, document.nodeAt? path = some node →
      select (arguments.asking (some (pointerTo path)) none) document = .ok node) ∧
    select (arguments.asking (some "") none) document = .ok document ∧
    ∀ pointer node, WellEscaped pointer.toList →
      select (arguments.asking (some pointer) none) document = .ok node →
      ∃ path, decodePointer? pointer.toList = some (path.map PathStep.token) ∧ pointerTo path = pointer ∧
        document.nodeAt? path = some node := by
  refine ⟨fun path node hnode => (select_pointer_iff arguments).2 (Value.pointer?_pointerTo hnode),
    (select_pointer_iff arguments).2 rfl, fun pointer node hescaped hselect => ?_⟩
  exact Value.exists_path_of_pointer? hescaped ((select_pointer_iff arguments).1 hselect)

/-- A document with the empty key, a key that needs both escapes, and digits that are a key. -/
def pointedDocument : Value :=
  .object [("", .array [.null, .object [("a/b~1", .bool true), ("0", .bool false)]])]

theorem pointedDocument_pointers :
    select (Arguments.asking {} (some "//1/a~1b~01") none) pointedDocument = .ok (.bool true) ∧
      select (Arguments.asking {} (some "") none) pointedDocument = .ok pointedDocument ∧
      ∃ path, decodePointer? "//1/0".toList = some (path.map PathStep.token) ∧ pointerTo path = "//1/0" ∧
        pointedDocument.nodeAt? path = some (.bool false) := by
  obtain ⟨hpaths, hdocument, hpointers⟩ := every_node_has_its_pointer {} pointedDocument
  have hescaped : select (Arguments.asking {} (some "//1/a~1b~01") none) pointedDocument =
      .ok (.bool true) :=
    hpaths [.key "", .index 1, .key "a/b~1"] (.bool true) (by decide +kernel)
  have hdigit : select (Arguments.asking {} (some "//1/0") none) pointedDocument = .ok (.bool false) :=
    hpaths [.key "", .index 1, .key "0"] (.bool false) (by decide +kernel)
  refine ⟨hescaped, hdocument, hpointers "//1/0" (.bool false) (fun before after hsplit => ?_) hdigit⟩
  have htilde : '~' ∈ "//1/0".toList := by
    rw [hsplit]
    simp
  exact absurd htilde (by decide)

/-! ### Keys by pointers and by queries -/

/-- The pointer that writes keys as they are. -/
def keyPointer (keys : List String) : String := String.join (keys.map fun key => "/" ++ key)

theorem escapeToken_of_identifier {key : String} (hkey : IsIdentifier key) :
    escapeToken key.toList = key.toList := by
  refine Json.escapeToken_of_plain fun c hc => ?_
  rcases hkey.characters c hc with halphanum | rfl
  · refine ⟨?_, ?_⟩ <;> rintro rfl <;> cases halphanum
  · decide

theorem pointerTo_keys {keys : List String} (hkeys : ∀ key ∈ keys, IsIdentifier key) :
    pointerTo (keys.map PathStep.key) = keyPointer keys := by
  have hsteps : ∀ key ∈ keys, '/' :: escapeToken (PathStep.key key).token = ("/" ++ key).toList := by
    intro key hkey
    rw [PathStep.token, escapeToken_of_identifier (hkeys key hkey), String.toList_append]
    rfl
  rw [← String.toList_inj, keyPointer, pointerTo, String.toList_ofList, String.toList_join,
    List.flatMap_map, List.flatMap_map]
  exact List.flatMap_congr hsteps

theorem mem_parts_of_part? {value part : Value} {step : PathStep}
    (hpart : value.part? step = some part) : part ∈ value.parts := by
  unfold Value.part? at hpart
  split at hpart
  · exact Value.mem_parts_of_lookup hpart
  · exact List.mem_of_getElem? hpart
  · cases hpart

theorem lossless_nodeAt? {document node : Value} {path : List PathStep} (hdocument : Lossless document)
    (hnode : document.nodeAt? path = some node) : Lossless node := by
  induction path generalizing document with
  | nil =>
    cases hnode
    exact hdocument
  | cons step path ih =>
    obtain ⟨part, hpart, hrest⟩ := Option.bind_eq_some_iff.1 hnode
    exact ih (hdocument.part (mem_parts_of_part? hpart)) hrest

/-- **Pointers and queries agree.** Where keys that are identifiers lead through objects to a node of a
document that texts give back, the node is selected by the pointer of the keys, by the query for them,
and by the pointer of some first of them together with the query for the others. A pointer that leads to
no node is the failure, whatever the query is. -/
theorem pointers_and_queries_agree (arguments : Arguments) (document : Value) :
    (Lossless document → ∀ keys node, keys ≠ [] → (∀ key ∈ keys, IsIdentifier key) →
      document.nodeAt? (keys.map PathStep.key) = some node →
      select (arguments.asking (some (keyPointer keys)) none) document = .ok node ∧
      select (arguments.asking none (some (fieldPath keys))) document = .ok node ∧
      ∀ i, 1 ≤ i → i < keys.length →
        select (arguments.asking (some (keyPointer (keys.take i))) (some (fieldPath (keys.drop i))))
          document = .ok node) ∧
    ∀ pointer expression, document.pointer? pointer = none →
      select (arguments.asking (some pointer) expression) document =
        .error (.unmatchedPointer pointer) := by
  refine ⟨fun hdocument keys node hkeys hidentifiers hnode => ?_,
    fun pointer expression hpointer => select_unmatched arguments hpointer expression⟩
  have hlossless := lossless_nodeAt? hdocument hnode
  refine ⟨?_, select_query arguments (Query.runQueryForOne_fieldPath hidentifiers hkeys hnode hlossless),
    fun i hfirst hlast => ?_⟩
  · rw [← pointerTo_keys hidentifiers]
    exact (select_pointer_iff arguments).2 (Value.pointer?_pointerTo hnode)
  · -- the pointer leads to the node that the query starts from
    rw [← List.take_append_drop i keys, List.map_append, Value.nodeAt?_append,
      Option.bind_eq_some_iff] at hnode
    obtain ⟨pointed, hpointed, hrest⟩ := hnode
    have hbefore : ∀ key ∈ keys.take i, IsIdentifier key :=
      fun key hkey => hidentifiers key (List.mem_of_mem_take hkey)
    have hafter : ∀ key ∈ keys.drop i, IsIdentifier key :=
      fun key hkey => hidentifiers key (List.mem_of_mem_drop hkey)
    have hmore : keys.drop i ≠ [] := by simpa using hlast
    rw [← pointerTo_keys hbefore]
    exact select_pointer_query arguments (Value.pointer?_pointerTo hpointed)
      (Query.runQueryForOne_fieldPath hafter hmore hrest hlossless)

/-- A document with a node that is three keys deep. -/
def nestedDocument : Value :=
  .object [("a1", .object [("_b", .array []), ("Row_2", .object [("_", .string "\"é\n")])])]

theorem nestedDocument_selections :
    select (Arguments.asking {} (some "/a1/Row_2/_") none) nestedDocument = .ok (.string "\"é\n") ∧
      select (Arguments.asking {} none (some ".a1.Row_2._")) nestedDocument = .ok (.string "\"é\n") ∧
      select (Arguments.asking {} (some "/a1") (some ".Row_2._")) nestedDocument =
        .ok (.string "\"é\n") ∧
      select (Arguments.asking {} (some "/a1/Row_2") (some "._")) nestedDocument =
        .ok (.string "\"é\n") ∧
      select (Arguments.asking {} (some "/a1/_b/0") (some "]")) nestedDocument =
        .error (.unmatchedPointer "/a1/_b/0") := by
  obtain ⟨hagree, hunmatched⟩ := pointers_and_queries_agree {} nestedDocument
  obtain ⟨hpointer, hquery, hboth⟩ :=
    hagree (by decide +kernel) ["a1", "Row_2", "_"] (.string "\"é\n") (by decide) (by decide +kernel)
    (by decide +kernel)
  exact ⟨hpointer, hquery, hboth 1 (by decide) (by decide), hboth 2 (by decide) (by decide),
    hunmatched "/a1/_b/0" _ (by decide +kernel)⟩

end SchemaTyping.Command
