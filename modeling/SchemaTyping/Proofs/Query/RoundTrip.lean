import SchemaTyping.Proofs.Query.Printing
import SchemaTyping.Query.Run

/-!
# Queries that change nothing

The outputs of a query are printed and read back. For a document that texts give back that loses nothing:
the query for the input gives the document, and the query for the items of a list gives the items
(`queries_lose_nothing`). The filters are run by one lemma for each of their forms.
-/

namespace SchemaTyping.Query

open Json (Value)

/-! ### Laws of outputs

Nothing behind outputs changes nothing, so what a function gives for a single output is all that there
is. -/

namespace Outputs

variable {α β : Type}

theorem append_done (outputs : Outputs α) : (outputs.append fun _ => done) = outputs := by
  induction outputs with
  | done => rfl
  | halt reason => rfl
  | item x rest ih => rw [append, funext ih]

@[simp]
theorem bindNumbered_one (x : α) (f : Nat → α → Outputs β) : (one x).bindNumbered f = f 0 x :=
  append_done (f 0 x)

@[simp]
theorem map_one (f : α → β) (x : α) : (one x).map f = one (f x) := rfl

@[simp]
theorem pair_one (x : α) (second : Nat → Outputs β) :
    (one x).pair second = (second 0).map fun y => (x, y) :=
  append_done ((second 0).map fun y => (x, y))

theorem bind_numberFrom_id (outputs : Outputs α) (number : Nat) :
    ((outputs.numberFrom number).bind fun (_, x) => one x) = outputs := by
  induction outputs generalizing number with
  | done => rfl
  | halt reason => rfl
  | item x rest ih =>
    have hrest : (fun _ => ((rest ()).numberFrom (number + 1)).bind fun (_, x) => one x) = rest :=
      funext fun _ => ih () (number + 1)
    exact congrArg (item x) hrest

/-- Giving each output back gives the outputs. -/
theorem bindNumbered_id (outputs : Outputs α) : (outputs.bindNumbered fun _ x => one x) = outputs :=
  bind_numberFrom_id outputs 0

end Outputs

/-! ### Running paths from the input -/

section

variable (budget : Nat) (place : Place) (scope : Scope) (input : Datum)

theorem run_identity : Filter.run (budget + 1) place scope .identity input = .one input := by
  rw [Filter.run]

theorem run_string (text : String) :
    Filter.run (budget + 1) place scope (.string text) input = .one (.string text) := by
  rw [Filter.run]

/-- Steps from the input are followed for each output of the filters in them. -/
theorem run_path_identity (steps : List (Step × Bool)) :
    ∃ places : Nat → Place, Filter.run (budget + 2) place scope (.path .identity steps) input =
      (stepAccesses (fun place f => Filter.run (budget + 1) place scope f input)
        (0 :: 0 :: 1 :: place) steps).bindNumbered
        fun turn accesses => followAll (places turn) accesses input := by
  refine ⟨fun turn => turn :: 1 :: 0 :: 1 :: place, ?_⟩
  rw [Filter.run]
  simp only [run_identity, Outputs.bindNumbered_one]

end

theorem outputs_identity (input : Datum) : Filter.identity.outputs input = .one input :=
  run_identity 99999999 [] .empty input

/-- The filter for all items of a list. -/
def eachItem : Filter := .path .identity [(.each, false)]

theorem stepAccesses_each (run : Place → Filter → Outputs Datum) (place : Place) :
    stepAccesses run place [(.each, false)] = .one [(.each, false)] := by
  simp only [stepAccesses, Step.accesses, Outputs.pair_one, Outputs.map_one]

theorem outputs_eachItem (items : List Datum) : eachItem.outputs (.array items) = .ofList items := by
  obtain ⟨places, hrun⟩ := run_path_identity 99999998 [] .empty (.array items) [(.each, false)]
  rw [stepAccesses_each, Outputs.bindNumbered_one] at hrun
  exact hrun.trans (Outputs.bindNumbered_id _)

/-! ### Outputs as documents -/

/-- Documents that texts give back are read back from outputs. -/
theorem documentsAfter_ofList {items : List Value} (hitems : ∀ item ∈ items, Lossless item)
    (found : List Value) :
    documentsAfter found (.ofList (items.map Datum.ofJson)) = .ok (found.reverse ++ items) := by
  induction items generalizing found with
  | nil => rw [List.map_nil, Outputs.ofList, documentsAfter, List.append_nil]
  | cons item items ih =>
    obtain ⟨hitem, hitems⟩ := List.forall_mem_cons.1 hitems
    rw [List.map_cons, Outputs.ofList, documentsAfter, hitem.parse_render_ofJson]
    simp only [ih hitems, List.reverse_cons, List.append_assoc, List.singleton_append]

theorem runQuery_of_compile {text : String} {filter : Filter} (hcompile : compile text = .ok filter)
    (input : Value) :
    runQuery text input = documentsAfter [] (filter.outputs (.ofJson input)) := by
  rw [runQuery, hcompile]
  rfl

/-- One document is asked for and given if the query has one output. -/
theorem runQueryForOne_eq_ok_iff {text : String} {input document : Value} :
    runQueryForOne text input = .ok document ↔ runQuery text input = .ok [document] := by
  constructor
  · intro hone
    obtain ⟨documents, hrun, hone⟩ := Json.exists_of_bind_ok hone
    split at hone
    · cases hone
      exact hrun
    · cases hone
  · intro hrun
    rw [runQueryForOne, hrun]
    rfl

theorem runQueryForOne_of_count {text : String} {input : Value} {documents : List Value}
    (hrun : runQuery text input = .ok documents) (hcount : documents.length ≠ 1) :
    runQueryForOne text input = .error (.wrongCount documents.length) := by
  have hothers : ∀ document, documents ≠ [document] := by
    rintro document rfl
    exact hcount rfl
  rw [runQueryForOne, hrun]
  exact match documents, hothers with
    | [], _ => rfl
    | [document], hothers => absurd rfl (hothers document)
    | _ :: _ :: _, _ => rfl

theorem runQuery_identity {value : Value} (hvalue : Lossless value) :
    runQuery "." value = .ok [value] := by
  have hcompile : compile "." = .ok .identity := rfl
  rw [runQuery_of_compile hcompile, outputs_identity]
  exact documentsAfter_ofList (List.forall_mem_singleton.2 hvalue) []

theorem runQuery_eachItem {items : List Value} (hitems : ∀ item ∈ items, Lossless item) :
    runQuery ".[]" (.array items) = .ok items := by
  have hcompile : compile ".[]" = .ok eachItem := rfl
  rw [runQuery_of_compile hcompile, Datum.ofJson, outputs_eachItem, dataOfJson_eq_map]
  exact documentsAfter_ofList hitems []

/-- **Queries lose nothing on the way through text.** A document that texts give back is the one output
of the query for the input. A list of such documents has its items, in order, for the outputs of the
query for the items; where one output is asked for, that query succeeds for lists of one item only, and
else fails with the number of items. -/
theorem queries_lose_nothing :
    (∀ value, Lossless value → runQueryForOne "." value = .ok value) ∧
    ∀ items : List Value, (∀ item ∈ items, Lossless item) →
      runQuery ".[]" (.array items) = .ok items ∧
      (∀ value, runQueryForOne ".[]" (.array items) = .ok value ↔ items = [value]) ∧
      (items.length ≠ 1 → runQueryForOne ".[]" (.array items) = .error (.wrongCount items.length)) := by
  refine ⟨fun value hvalue => runQueryForOne_eq_ok_iff.2 (runQuery_identity hvalue),
    fun items hitems => ?_⟩
  have hrun := runQuery_eachItem hitems
  refine ⟨hrun, fun value => ?_, runQueryForOne_of_count hrun⟩
  rw [runQueryForOne_eq_ok_iff, hrun, Except.ok.injEq]

/-- A document with escapes of all kinds in a key and in a string, with integers at both ends, and with
empty parts. -/
def escapedDocument : Value :=
  .object [("\x08\x0c\x1f\x7f\"\\/\n", .string "\x00\t\r é\u2028😀\\u0041"),
    ("", .array [.number (.int 18446744073709551615), .number (.int (-9223372036854775808)), .object [],
      .array []])]

theorem escapedDocument_lossless : Lossless escapedDocument := by decide +kernel

theorem escapedDocument_survives :
    runQueryForOne "." escapedDocument = .ok escapedDocument ∧
      runQuery ".[]" (.array [escapedDocument, .null]) = .ok [escapedDocument, .null] ∧
      runQueryForOne ".[]" (.array [escapedDocument, .null]) = .error (.wrongCount 2) ∧
      runQueryForOne ".[]" (.array [escapedDocument]) = .ok escapedDocument := by
  have hpair : ∀ item ∈ [escapedDocument, .null], Lossless item := by decide +kernel
  obtain ⟨hitems, _, hcount⟩ := queries_lose_nothing.2 _ hpair
  have hone :=
    (queries_lose_nothing.2 _ (List.forall_mem_singleton.2 escapedDocument_lossless)).2.1 escapedDocument
  exact ⟨queries_lose_nothing.1 _ escapedDocument_lossless, hitems, hcount (by decide), hone.2 rfl⟩

end SchemaTyping.Query
