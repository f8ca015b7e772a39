import Mathlib
import SchemaTyping.Proofs.Command.Arguments
import SchemaTyping.Proofs.Command.Storing

/-!
# What a call leaves behind

A run goes through reading, parsing, selecting and converting before it hands anything over. `Finished`
says what it takes to get that far, a stage at a time; it is what reading and producing come to
(`Finished.produced`, `exists_finished`), and neither has touched the tree by then (`run_apply`). So a
run that does not get that far leaves nothing but its failure, and one that does hands over the same text
to whichever sink it has.
-/

namespace SchemaTyping.Command

open Json (Value exists_of_bind_ok)

/-! ### Stages -/

/-- The bytes of a source, of a tree and what is on standard input. -/
def Source.bytes (tree : FileTree) (input : Except FileError ByteArray) : Source →
    Except FileError ByteArray
  | .standardInput => input
  | .file path => tree.read path

/-- A pointer leads to a node of a document, and no pointer to the document itself. -/
inductive Pointed (document : Value) : Option String → Value → Prop
  | document : Pointed document none document
  | node {pointer : String} {node : Value} (hpointer : document.pointer? pointer = some node) :
    Pointed document (some pointer) node

/-- A query has one output for a node, and no query leaves the node. -/
inductive Queried (node : Value) : Option String → Value → Prop
  | node : Queried node none node
  | output {expression : String} {output : Value}
    (hquery : Query.runQueryForOne expression node = .ok output) :
    Queried node (some expression) output

/-- What arguments ask for can be converted to a module: the source is a text, the text is parsed, the
query has one output for the node that the pointer leads to, and that output is converted to the
module. -/
inductive Finished (arguments : Arguments) (input : Except FileError ByteArray) (tree : FileTree) :
    (module : String) → Prop
  | converted {text module : String} {document pointed node : Value}
    (hread : arguments.source.bytes tree input = .ok text.toUTF8)
    (hparse : Json.parse text = .ok document) (hpoint : Pointed document arguments.jsonPointer pointed)
    (hquery : Queried pointed arguments.jqExpr node)
    (hconvert : (Emission.convert arguments.options node).1 = .ok module) :
    Finished arguments input tree module

theorem textOf_eq_ok_iff {bytes : ByteArray} {text : String} :
    textOf bytes = .ok text ↔ bytes = text.toUTF8 := by
  unfold textOf String.fromUTF8?
  constructor
  · intro htext
    split at htext
    · rename_i hsome
      cases htext
      split at hsome
      · cases hsome
        rfl
      · cases hsome
    · cases htext
  · rintro rfl
    rw [String.toUTF8_eq_toByteArray, dif_pos text.isValidUTF8]
    rfl

theorem point_eq_ok_iff {pointer : Option String} {document pointed : Value} :
    point pointer document = .ok pointed ↔ Pointed document pointer pointed := by
  constructor
  · intro hpoint
    unfold point at hpoint
    split at hpoint
    · cases hpoint
      exact .document
    · split at hpoint
      · rename_i hnode
        cases hpoint
        exact .node hnode
      · cases hpoint
  · rintro (_ | hnode)
    · rfl
    · simp only [point, hnode]

theorem refine_eq_ok_iff {expression : Option String} {pointed node : Value} :
    refine expression pointed = .ok node ↔ Queried pointed expression node := by
  constructor
  · intro hrefine
    unfold refine at hrefine
    split at hrefine
    · cases hrefine
      exact .node
    · rename_i expression
      cases hquery : Query.runQueryForOne expression pointed with
      | ok output =>
        rw [hquery] at hrefine
        cases hrefine
        exact .output hquery
      | error error =>
        rw [hquery] at hrefine
        cases hrefine
  · rintro (_ | hquery)
    · rfl
    · simp only [refine, hquery]
      rfl

theorem select_eq_ok_iff {arguments : Arguments} {document node : Value} :
    select arguments document = .ok node ↔ ∃ pointed, Pointed document arguments.jsonPointer pointed ∧
      Queried pointed arguments.jqExpr node := by
  simp only [← point_eq_ok_iff, ← refine_eq_ok_iff]
  constructor
  · exact exists_of_bind_ok
  · rintro ⟨pointed, hpoint, hrefine⟩
    rw [select, hpoint]
    exact hrefine

section

variable {arguments : Arguments} {input : Except FileError ByteArray} {tree : FileTree}

/-- What can be finished is read, and produced with one end of line. -/
theorem Finished.produced {module : String} (hfinished : Finished arguments input tree module) :
    ∃ text log, (arguments.source.bytes tree input).bind textOf = .ok text ∧
      produce arguments text = (.ok (module ++ "\n"), log) := by
  obtain @⟨text, module, document, pointed, node, hread, hparse, hpoint, hquery, hconvert⟩ := hfinished
  refine ⟨text, (Emission.convert arguments.options node).2, ?_, ?_⟩
  · rw [hread]
    exact textOf_eq_ok_iff.2 rfl
  · have hselect := select_eq_ok_iff.2 ⟨pointed, hpoint, hquery⟩
    have hresult : Emission.convert arguments.options node =
        (.ok module, (Emission.convert arguments.options node).2) :=
      Prod.ext hconvert rfl
    simp only [produce, hparse, hselect]
    rw [hresult]

/-- What is read and produced has been finished. -/
theorem exists_finished {text handed : String} {log : List Emission.Event}
    (hread : (arguments.source.bytes tree input).bind textOf = .ok text)
    (hproduce : produce arguments text = (.ok handed, log)) :
    ∃ module, Finished arguments input tree module := by
  obtain ⟨bytes, hbytes, htext⟩ := exists_of_bind_ok hread
  rw [textOf_eq_ok_iff] at htext
  subst htext
  unfold produce at hproduce
  split at hproduce
  · cases hproduce
  · rename_i document hparse
    split at hproduce
    · cases hproduce
    · rename_i node hselect
      obtain ⟨pointed, hpoint, hquery⟩ := select_eq_ok_iff.1 hselect
      split at hproduce
      · rename_i module log hconvert
        exact ⟨module, .converted hbytes hparse hpoint hquery (by rw [hconvert])⟩
      · cases hproduce

/-! ### Runs -/

theorem readSource_apply (source : Source) : readSource treeFiles (pure input) source tree =
    (((source.bytes tree input).bind textOf).mapError (.unreadSource source), tree) := by
  cases source with
  | standardInput => rfl
  | file path => rfl

theorem deliver_some (path text : String) : deliver treeFiles (some path) text tree =
    ((writeFile treeFiles path text tree).1.map fun _ => "", (writeFile treeFiles path text tree).2) :=
  rfl

/-- A run touches the tree only to deliver what it has produced. -/
theorem run_apply : run treeFiles (pure input) arguments tree =
    match (arguments.source.bytes tree input).bind textOf with
    | .error error => ((.error (.unreadSource arguments.source error), []), tree)
    | .ok text =>
      match produce arguments text with
      | (.error failure, log) => ((.error failure, log), tree)
      | (.ok handed, log) =>
        (((deliver treeFiles arguments.output handed tree).1, log),
          (deliver treeFiles arguments.output handed tree).2) := by
  have hread := @readSource_apply input tree arguments.source
  rw [run, stateM_bind_apply hread]
  cases (arguments.source.bytes tree input).bind textOf with
  | error error => rfl
  | ok text =>
    simp only [Except.mapError]
    cases produce arguments text with
    | mk result log => cases result <;> rfl

theorem ofCall_apply {call : List String} (hparse : Arguments.parse call = .ok arguments) :
    Outcome.ofCall treeFiles (pure input) call tree =
      (.ended (run treeFiles (pure input) arguments tree).1.1
        (run treeFiles (pure input) arguments tree).1.2,
        (run treeFiles (pure input) arguments tree).2) := by
  rw [Outcome.ofCall, hparse]
  rfl

/-- A run that cannot be finished fails before it has touched the tree. -/
theorem run_unfinished (hunfinished : ∀ module, ¬ Finished arguments input tree module) :
    ∃ failure log, run treeFiles (pure input) arguments tree = ((.error failure, log), tree) := by
  rw [run_apply]
  cases hread : (arguments.source.bytes tree input).bind textOf with
  | error error => exact ⟨_, _, rfl⟩
  | ok text =>
    cases hproduce : produce arguments text with
    | mk result log =>
      cases result with
      | error failure =>
        simp only [hproduce]
        exact ⟨failure, log, rfl⟩
      | ok handed =>
        obtain ⟨module, hfinished⟩ := exists_finished hread hproduce
        exact absurd hfinished (hunfinished module)

/-- A run that can be finished comes to what delivering the module and one end of line comes to. -/
theorem run_finished {module : String} (hfinished : Finished arguments input tree module) :
    ∃ log, run treeFiles (pure input) arguments tree =
      (((deliver treeFiles arguments.output (module ++ "\n") tree).1, log),
        (deliver treeFiles arguments.output (module ++ "\n") tree).2) := by
  obtain ⟨text, log, hread, hproduce⟩ := hfinished.produced
  rw [run_apply]
  simp only [hread, hproduce]
  exact ⟨log, rfl⟩

end

/-- **A call hands over finished conversions only, and the same text whichever way it is to go.** If the
source cannot be read, parsed, selected from or converted, the call fails with nothing on standard
output, and the tree is as it was. Otherwise the text is the module and one end of line: it goes to
standard output, or is stored as the whole content of the output's file, with the directories that are
missing, whenever the tree has a place for it. Nothing else in the tree changes then. -/
theorem call_delivers_finished {call : List String} {arguments : Arguments}
    (hparse : Arguments.parse call = .ok arguments) (input : Except FileError ByteArray)
    (tree : FileTree) :
    ((∀ module, ¬ Finished arguments input tree module) →
      ∃ outcome, Outcome.ofCall treeFiles (pure input) call tree = (outcome, tree) ∧
        outcome.exitCode = 1 ∧ outcome.output = "") ∧
    ∀ module, Finished arguments input tree module →
      (arguments.output = none →
        ∃ outcome, Outcome.ofCall treeFiles (pure input) call tree = (outcome, tree) ∧
          outcome.exitCode = 0 ∧
          outcome.output = module ++ "\n") ∧
      ∀ path, arguments.output = some path →
        (∀ stored, Stores tree path (module ++ "\n").toUTF8 stored →
          (∃ outcome, Outcome.ofCall treeFiles (pure input) call tree = (outcome, stored) ∧
            outcome.exitCode = 0 ∧ outcome.output = "") ∧
          stored.read path = .ok (module ++ "\n").toUTF8 ∧ stored.working = tree.working ∧
          ∃ place, stored.locate path = .ok place ∧ ∀ other, other ≠ place →
            stored.entry? other = tree.entry? other ∨ tree.entry? other = none ∧
              stored.entry? other = some .directory) ∧
        ((∀ stored, ¬ Stores tree path (module ++ "\n").toUTF8 stored) →
          ∃ outcome after, Outcome.ofCall treeFiles (pure input) call tree = (outcome, after) ∧
            outcome.exitCode = 1 ∧
            outcome.output = "") := by
  rw [ofCall_apply hparse]
  refine ⟨fun hunfinished => ?_, fun module hfinished => ?_⟩
  · obtain ⟨failure, log, hrun⟩ := run_unfinished hunfinished
    rw [hrun]
    exact ⟨_, rfl, rfl, rfl⟩
  obtain ⟨log, hrun⟩ := run_finished hfinished
  rw [hrun]
  refine ⟨fun houtput => ?_, fun path houtput => ?_⟩
  · rw [houtput]
    exact ⟨_, rfl, rfl, rfl⟩
  -- only the empty path ends without a name and without a slash, and no call asks for it
  have hpath : path ≠ "" := fun hempty => output_ne_empty_of_parse hparse (by rw [houtput, hempty])
  rw [houtput, deliver_some]
  refine ⟨fun stored hstores => ⟨?_, hstores.frame⟩, fun hnone => ?_⟩
  · rw [(writeFile_iff hpath).2 hstores]
    exact ⟨_, rfl, rfl, rfl⟩
  · cases hwritten : writeFile treeFiles path (module ++ "\n") tree with
    | mk result after =>
      cases result with
      | error failure => exact ⟨_, after, rfl, rfl, rfl⟩
      | ok _ => exact absurd ((writeFile_iff hpath).1 hwritten) (hnone after)

/-- A call that asks for a module in a directory that is missing. -/
def outputCall : List String := ["--output", "out/m.py"]

def outputArguments : Arguments := { output := some "out/m.py" }

def memberSchema : String :=
  "\x7b\"type\": \"object\", \"properties\": \x7b\"a\": \x7b\"type\": \"string\"\x7d\x7d\x7d"

def memberDocument : Value :=
  .object [("type", .string "object"),
    ("properties", .object [("a", .object [("type", .string "string")])])]

def emptyTree : FileTree := ⟨[], []⟩

theorem memberSchema_delivered :
    (∃ module outcome stored, (Emission.convert outputArguments.options memberDocument).1 = .ok module ∧
      Outcome.ofCall treeFiles (pure (.ok memberSchema.toUTF8)) outputCall emptyTree =
        (outcome, stored) ∧
      outcome.exitCode = 0 ∧ stored.read "out/m.py" = .ok (module ++ "\n").toUTF8) ∧
    ∃ outcome, Outcome.ofCall treeFiles (pure (.error .notText)) outputCall emptyTree =
      (outcome, emptyTree) ∧ outcome.exitCode = 1 ∧
      outcome.output = "" := by
  have hparse : Arguments.parse outputCall = .ok outputArguments := by cbv
  constructor
  · obtain ⟨module, hconvert⟩ : ∃ module, (Emission.convert outputArguments.options memberDocument).1 =
        .ok module := ⟨_, rfl⟩
    have hdocument : Json.parse memberSchema = .ok memberDocument := by cbv
    have hfinished : Finished outputArguments (.ok memberSchema.toUTF8) emptyTree module :=
      .converted rfl hdocument .document .node hconvert
    have hparts : pathParts "out/m.py" = [['o', 'u', 't']] ++ [['m', '.', 'p', 'y']] := by decide
    have hfolder : emptyTree.step (emptyTree.start "out/m.py") ['o', 'u', 't'] = .ok ["out"] := rfl
    have hopens := Opens.make hfolder rfl (.here _ _)
    have hstep : (emptyTree.put ["out"] .directory).step ["out"] ['m', '.', 'p', 'y'] =
        .ok ["out", "m.py"] := rfl
    have hnone : FileTree.entry? (emptyTree.put ["out"] .directory) ["out", "m.py"] = none := rfl
    have hentry : FileTree.entry? (emptyTree.put ["out"] .directory) ["out", "m.py"] ≠
        some .directory := by
      rw [hnone]
      exact (Option.some_ne_none _).symm
    have hstores :=
      @Stores.file _ _ (module ++ "\n").toUTF8 _ _ _ _ _ (by decide) hparts
        (by decide) hopens hstep hentry
    obtain ⟨_, hdelivered⟩ :=
      (call_delivers_finished hparse (.ok memberSchema.toUTF8) emptyTree).2 module hfinished
    obtain ⟨⟨outcome, hcall, hcode, _⟩, hread, _⟩ := (hdelivered "out/m.py" rfl).1 _ hstores
    exact ⟨module, outcome, _, hconvert, hcall, hcode, hread⟩
  · refine (call_delivers_finished hparse (.error .notText) emptyTree).1 fun module hfinished => ?_
    cases hfinished with
    | converted hread => cases hread

end SchemaTyping.Command
