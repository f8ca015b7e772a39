import SchemaTyping.Proofs.Emission.Run

/-!
# Emission is a post-order walk

Under the warning policy emission always succeeds, and what it returns and declares is a function of the
schema and its property, whatever was declared before: the type `typeOf` and the declarations
`declarationsOf`, children before parents. A document declares what its definitions declare, from the
last to the first, and then what its root declares.
-/

namespace SchemaTyping.Emission

open Json (Members)
open Schema (Node)
open Typing (TypeExpr Declaration renderModule)

/-- What a document declares, in order. -/
def documentDeclarations (rootName : String) (document definitions : Members) : List Declaration :=
  (documentVisits rootName document definitions).flatMap declarationsOf

theorem documentDeclarations_eq (rootName : String) (document definitions : Members) :
    documentDeclarations rootName document definitions =
      (definitions.reverse.flatMap fun (key, value) => declarationsOf ⟨key, value⟩) ++
        declarationsOf ⟨rootName, .object document⟩ := by
  unfold documentDeclarations documentVisits
  rw [List.flatMap_append, List.flatMap_map, List.flatMap_singleton]

theorem declarationsIn_documentScript (rootName : String) (document definitions : Members) :
    declarationsIn (documentScript rootName document definitions) =
      documentDeclarations rootName document definitions := by
  unfold declarationsIn documentScript documentDeclarations
  rw [List.filterMap_flatMap]
  exact List.flatMap_congr fun visit _ => declarationsIn_script visit

theorem runFrom_emit_warn (visit : Visit) (generator : Generator) :
    runFrom (visit.emit .warn) generator = (.ok (typeOf visit), generator.afterAll (script visit)) :=
  runFrom_emit_of_ok (runFrom_warn _ _)

theorem runFrom_emitDocument_warn (options : Options) (document definitions : Members)
    (generator : Generator) :
    runFrom (emitDocument { options with collisions := .warn } document definitions) generator =
      (.ok (typeOf ⟨options.rootName, .object document⟩),
        generator.afterAll (documentScript options.rootName document definitions)) := by
  rw [emitDocument_eq_script, runFrom_bind_of_ok (runFrom_warn _ _)]
  rfl

theorem convert_object (options : Options) (document : Members) :
    convert options (.object document) =
      match definitions document with
      | .error mismatch => (.error (.mismatched mismatch none), [])
      | .ok found =>
        match runFrom (emitDocument options document found) .empty with
        | (.ok root, generator) =>
          (.ok (renderModule options.rootAlias generator.declarations root), generator.log)
        | (.error repeated, generator) => (.error (.repeatedName repeated.name), generator.log) := rfl

theorem declarations_document (rootName : String) (document found : Members) :
    (Generator.empty.afterAll (documentScript rootName document found)).declarations =
      documentDeclarations rootName document found := by
  rw [Generator.declarations_afterAll, declarationsIn_documentScript]
  exact List.nil_append _

/-- Under either policy a document that is emitted without failure declares all that it declares with
warnings. -/
theorem declarations_of_emitDocument {options : Options} {document found : Members} {root : TypeExpr}
    {after : Generator}
    (hrun : runFrom (emitDocument options document found) .empty = (.ok root, after)) :
    after.declarations = documentDeclarations options.rootName document found := by
  rw [emitDocument_eq_script] at hrun
  rw [(script_of_ok hrun).2, declarations_document]

theorem root_of_emitDocument {options : Options} {document found : Members} {root : TypeExpr}
    {after : Generator}
    (hrun : runFrom (emitDocument options document found) .empty = (.ok root, after)) :
    root = typeOf ⟨options.rootName, .object document⟩ := by
  rw [emitDocument_eq_script] at hrun
  exact (script_of_ok hrun).1

/-- The text of a conversion is the module of an emission that did not fail. -/
theorem exists_emitDocument_of_convert {options : Options} {document : Members} {text : String}
    (hconvert : (convert options (.object document)).1 = .ok text) :
    ∃ found root after, definitions document = .ok found ∧
      runFrom (emitDocument options document found) .empty = (.ok root, after) ∧
      text = renderModule options.rootAlias after.declarations root := by
  rw [convert_object] at hconvert
  cases hfound : definitions document with
  | error mismatch =>
    simp only [hfound] at hconvert
    cases hconvert
  | ok found =>
    simp only [hfound] at hconvert
    cases hrun : runFrom (emitDocument options document found) .empty with
    | mk outcome after =>
      simp only [hrun] at hconvert
      cases outcome with
      | error repeated => cases hconvert
      | ok root =>
        cases hconvert
        exact ⟨found, root, after, rfl, hrun, rfl⟩

/-- **Emission under the warning policy is a post-order walk.** From any generator it returns the type of
the schema and adds the declarations of the schema behind those that are there. These are the
declarations of the children, in order, followed by the schema's own if it has one; the schemas that are
walked are those that can be reached by going down. A document whose definitions can be read becomes the
module of the declarations of its definitions, in reverse order, and then of its root. -/
theorem emission_postOrder :
    (∀ (visit : Visit) (generator : Generator), ∃ after,
      runFrom (emit .warn visit.property (Node.ofValue visit.value)) generator =
        (.ok (typeOf visit), after) ∧
        after.declarations = generator.declarations ++ declarationsOf visit) ∧
    (∀ visit : Visit,
      declarationsOf visit = visit.children.flatMap declarationsOf ++ visit.declaration?.toList) ∧
    (∀ visit other : Visit, other ∈ walk visit ↔ Relation.ReflTransGen Visit.Above visit other) ∧
    (∀ (options : Options) (document found : Members), ∃ after,
      runFrom (emitDocument { options with collisions := .warn } document found) .empty =
          (.ok (typeOf ⟨options.rootName, .object document⟩), after) ∧
        after.declarations =
          (found.reverse.flatMap fun (key, value) => declarationsOf ⟨key, value⟩) ++
            declarationsOf ⟨options.rootName, .object document⟩) ∧
    (∀ (options : Options) (document : Members),
      (convert { options with collisions := .warn } (.object document)).1 =
        match definitions document with
        | .error mismatch => .error (.mismatched mismatch none)
        | .ok found =>
          .ok (renderModule options.rootAlias
            ((found.reverse.flatMap fun (key, value) => declarationsOf ⟨key, value⟩) ++
              declarationsOf ⟨options.rootName, .object document⟩)
            (typeOf ⟨options.rootName, .object document⟩))) := by
  refine ⟨fun visit generator => ?_, declarationsOf_eq, fun _ _ => mem_walk_iff,
    fun options document found => ?_,
    fun options document => ?_⟩
  · refine ⟨generator.afterAll (script visit), runFrom_emit_warn visit generator, ?_⟩
    rw [Generator.declarations_afterAll, declarationsIn_script]
  · refine ⟨_, runFrom_emitDocument_warn options document found .empty, ?_⟩
    rw [declarations_document, documentDeclarations_eq]
  · rw [convert_object]
    cases definitions document with
    | error mismatch => rfl
    | ok found =>
      simp only [runFrom_emitDocument_warn, declarations_document, documentDeclarations_eq]

end SchemaTyping.Emission
