import SchemaTyping.Emission.Document
import SchemaTyping.Proofs.Emission.Walk

/-!
# Emission follows a script

Emitting a schema performs a list of steps, fixed by the schema, and returns a type, fixed by the schema:
`emit_eq_script`. The steps are those of the walk, visit by visit, and a step is a single declaration or
a single warning. Only the performing of a step looks at the generator or at the policy. The rest of the
theory reasons about lists of steps and never about the recursion of emission.
-/

namespace SchemaTyping.Emission

open Json (Value Members)
open Schema (Node Primitive Shape classify)
open Text (capitalize)
open Typing (TypeExpr Field Declaration Body quoteLiteral)

/-- A single thing that emission does to a generator. -/
inductive Step where
  | declare (declaration : Declaration)
  | unknownNode (property : String) (node : Value)
  | unknownType (property : String) (entry : Value)

/-- The effect of a step. -/
def Step.perform (policy : CollisionPolicy) : Step → Emit Unit
  | .declare declaration => Emission.declare policy declaration
  | .unknownNode property node => logEvent (.unknownNode property node)
  | .unknownType property entry => logEvent (.unknownType property entry)

/-- Performs steps one after the other, up to the first that fails. -/
def performAll (policy : CollisionPolicy) (steps : List Step) : Emit Unit :=
  steps.forM (Step.perform policy)

@[simp] theorem performAll_nil (policy : CollisionPolicy) : performAll policy [] = pure () := rfl

@[simp] theorem performAll_cons (policy : CollisionPolicy) (step : Step) (steps : List Step) :
    performAll policy (step :: steps) = (do step.perform policy; performAll policy steps) := rfl

theorem performAll_append (policy : CollisionPolicy) (first second : List Step) :
    performAll policy (first ++ second) = (do performAll policy first; performAll policy second) := by
  induction first with
  | nil => simp
  | cons step steps ih => simp only [List.cons_append, performAll_cons, ih, bind_assoc]

/-- The warnings for the entries of a list of types that name no type. -/
def unknownEntries (property : String) (entries : List Value) : List Step :=
  (entries.filter fun entry => (namedPrimitive? entry).isNone).map (.unknownType property)

/-- What is done for a schema itself, once everything below it is done. -/
def Visit.steps (visit : Visit) : List Step :=
  match classify visit.value with
  | .types names => unknownEntries visit.property names
  | .unrecognized => [.unknownNode visit.property visit.value]
  | _ => visit.declaration?.toList.map .declare

/-- Everything that is done for a schema, in order. -/
def script (visit : Visit) : List Step := (walk visit).flatMap Visit.steps

theorem script_eq (visit : Visit) : script visit = visit.children.flatMap script ++ visit.steps := by
  unfold script
  rw [walk_eq, List.flatMap_append, List.flatMap_assoc, List.flatMap_singleton]

/-- Emits a schema under its property. -/
def Visit.emit (policy : CollisionPolicy) (visit : Visit) : Emit TypeExpr :=
  Emission.emit policy visit.property (Node.ofValue visit.value)

/-! ### Emission as a script

By induction on the visit, one lemma for each shape that has children or entries. Each takes what the
induction gives for the children as its hypothesis. -/

theorem entryTypes_eq_script (policy : CollisionPolicy) (property : String) (entries : List Value) :
    entryTypes property entries =
      (do performAll policy (unknownEntries property entries); pure (entries.map entryMeaning)) := by
  induction entries with
  | nil => simp [entryTypes, unknownEntries]
  | cons entry rest ih =>
    have hentry : entryType property entry =
        (do performAll policy (unknownEntries property [entry]); pure (entryMeaning entry)) := by
      cases entry with
      | string name =>
        cases hname : Primitive.ofName? name <;>
          simp [entryType, unknownEntries, entryMeaning, namedPrimitive?, hname, Step.perform]
      | _ => simp [entryType, unknownEntries, entryMeaning, namedPrimitive?, Step.perform]
    have hsplit : unknownEntries property (entry :: rest) =
        unknownEntries property [entry] ++ unknownEntries property rest := by
      simp only [unknownEntries, ← List.map_append, ← List.filter_append, List.singleton_append]
    rw [entryTypes, hentry, ih, hsplit, performAll_append]
    simp only [bind_assoc, pure_bind, List.map_cons]

/-- What the induction on visits says of one visit. -/
def FollowsScript (policy : CollisionPolicy) (visit : Visit) : Prop :=
  visit.emit policy = (do performAll policy (script visit); pure (typeOf visit))

theorem emitFields_eq_script {policy : CollisionPolicy} (required : List String) {properties : Members}
    (hchildren : ∀ member ∈ properties, FollowsScript policy ⟨member.1, member.2⟩) :
    emitFields policy required (properties.map fun (key, value) => (key, Node.ofValue value)) =
      (do
        performAll policy (properties.flatMap fun (key, value) => script ⟨key, value⟩)
        pure (properties.map fun (key, value) =>
          ⟨key, typeOf ⟨key, value⟩, required.contains key⟩)) := by
  induction properties with
  | nil => simp [emitFields]
  | cons member rest ih =>
    have hmember : emit policy member.1 (Node.ofValue member.2) = _ :=
      hchildren member List.mem_cons_self
    have hrest := ih fun other hother => hchildren other (List.mem_cons_of_mem _ hother)
    rw [List.map_cons, emitFields, hmember, hrest, List.flatMap_cons, performAll_append]
    simp only [bind_assoc, pure_bind, List.map_cons]

theorem emitAll_eq_script {policy : CollisionPolicy} {property : String} {alternatives : List Value}
    (hchildren : ∀ alternative ∈ alternatives, FollowsScript policy ⟨property, alternative⟩) :
    emitAll policy property (alternatives.map Node.ofValue) =
      (do
        performAll policy (alternatives.flatMap fun alternative => script ⟨property, alternative⟩)
        pure (alternatives.map fun alternative => typeOf ⟨property, alternative⟩)) := by
  induction alternatives with
  | nil => simp [emitAll]
  | cons alternative rest ih =>
    have hfirst : emit policy property (Node.ofValue alternative) = _ :=
      hchildren alternative List.mem_cons_self
    have hrest := ih fun other hother => hchildren other (List.mem_cons_of_mem _ hother)
    rw [List.map_cons, emitAll, hfirst, hrest, List.flatMap_cons, performAll_append]
    simp only [bind_assoc, pure_bind, List.map_cons]

theorem FollowsScript.of_object {policy : CollisionPolicy} {visit : Visit} {properties : Option Members}
    {required : List String} (hshape : classify visit.value = .object properties required)
    (ih : ∀ child ∈ visit.children, FollowsScript policy child) : FollowsScript policy visit := by
  have hchildren : ∀ member ∈ properties.getD [], FollowsScript policy ⟨member.1, member.2⟩ := by
    intro member hmem
    exact ih _ (Visit.property_mem_children hshape hmem)
  have hfields : (properties.getD []).map
      (fun (key, value) => (⟨key, typeOf ⟨key, value⟩, required.contains key⟩ : Field)) =
        visit.fields := by
    rw [Visit.fields, Visit.children_of_object hshape, List.map_map]
    apply List.map_congr_left
    intro member _
    simp only [Function.comp_apply, contains_required hshape]
  have hsteps : visit.steps = [.declare ⟨capitalize visit.property, .record visit.fields⟩] := by
    simp [Visit.steps, Visit.declaration?, hshape]
  unfold FollowsScript Visit.emit
  rw [Schema.Node.ofValue_eq, script_eq, typeOf_eq, hshape]
  simp only [emit]
  rw [emitFields_eq_script required hchildren, hfields, hsteps, Visit.children_of_object hshape,
    performAll_append, List.flatMap_map]
  simp only [bind_assoc, pure_bind, performAll_cons, performAll_nil, Step.perform]

theorem FollowsScript.of_list {policy : CollisionPolicy} {visit : Visit} {item : Value}
    (hshape : classify visit.value = .array (some item))
    (ih : ∀ child ∈ visit.children, FollowsScript policy child) : FollowsScript policy visit := by
  have hitem : FollowsScript policy ⟨visit.property, item⟩ := ih _ (Visit.item_mem_children hshape)
  have hsteps : visit.steps = [] := by
    simp [Visit.steps, Visit.declaration?, hshape]
  unfold FollowsScript Visit.emit at hitem ⊢
  rw [Schema.Node.ofValue_eq, script_eq, typeOf_eq, hshape]
  simp only [emit]
  rw [hitem, hsteps, Visit.children_of_list hshape, List.flatMap_singleton, List.append_nil]
  simp only [bind_assoc, pure_bind]

theorem FollowsScript.of_union {policy : CollisionPolicy} {visit : Visit} {alternatives : List Value}
    (hshape : classify visit.value = .anyOf alternatives)
    (ih : ∀ child ∈ visit.children, FollowsScript policy child) : FollowsScript policy visit := by
  have hchildren : ∀ alternative ∈ alternatives, FollowsScript policy ⟨visit.property, alternative⟩ := by
    intro alternative hmem
    exact ih _ (Visit.alternative_mem_children hshape hmem)
  have hsteps : visit.steps = [] := by
    simp [Visit.steps, Visit.declaration?, hshape]
  unfold FollowsScript Visit.emit
  rw [Schema.Node.ofValue_eq, script_eq, typeOf_eq, hshape]
  simp only [emit]
  rw [emitAll_eq_script hchildren, hsteps, Visit.children_of_union hshape, List.append_nil,
    List.flatMap_map]
  simp only [bind_assoc, pure_bind]

theorem FollowsScript.of_types (policy : CollisionPolicy) {visit : Visit} {names : List Value}
    (hshape : classify visit.value = .types names) : FollowsScript policy visit := by
  have hchildren : visit.children = [] := by
    simp only [Visit.children, hshape]
  have hsteps : visit.steps = unknownEntries visit.property names := by
    simp only [Visit.steps, hshape]
  unfold FollowsScript Visit.emit
  rw [Schema.Node.ofValue_eq, script_eq, typeOf_eq, hshape]
  simp only [emit]
  rw [entryTypes_eq_script policy, hsteps, hchildren, List.flatMap_nil, List.nil_append]
  simp only [bind_assoc, pure_bind]

/-- **Emission is its script.** -/
theorem emit_eq_script (policy : CollisionPolicy) (visit : Visit) :
    visit.emit policy = (do performAll policy (script visit); pure (typeOf visit)) := by
  induction visit using Visit.induction with
  | step visit ih =>
    cases hshape : classify visit.value with
    | object properties required => exact FollowsScript.of_object hshape ih
    | array item? =>
      cases item? with
      | some item => exact FollowsScript.of_list hshape ih
      | none =>
        unfold Visit.emit
        rw [Schema.Node.ofValue_eq, script_eq, typeOf_eq]
        simp [emit, Visit.children, Visit.steps, Visit.declaration?, hshape]
    | anyOf alternatives => exact FollowsScript.of_union hshape ih
    | types names => exact FollowsScript.of_types policy hshape
    | _ =>
      unfold Visit.emit
      rw [Schema.Node.ofValue_eq, script_eq, typeOf_eq]
      simp [emit, Visit.children, Visit.steps, Visit.declaration?, hshape, Step.perform]

/-! ### Documents -/

/-- Everything that is done for a document, in order. -/
def documentScript (rootName : String) (document definitions : Members) : List Step :=
  (documentVisits rootName document definitions).flatMap script

theorem emitDefinitions_eq_script (policy : CollisionPolicy) (definitions : Members) :
    emitDefinitions policy definitions =
      performAll policy (definitions.flatMap fun (key, value) => script ⟨key, value⟩) := by
  induction definitions with
  | nil => simp [emitDefinitions]
  | cons definition rest ih =>
    have hfirst : emit policy definition.1 (Node.ofValue definition.2) = _ :=
      emit_eq_script policy ⟨definition.1, definition.2⟩
    rw [emitDefinitions, hfirst, ih, List.flatMap_cons, performAll_append]
    simp only [bind_assoc, pure_bind]

theorem emitDocument_eq_script (options : Options) (document definitions : Members) :
    emitDocument options document definitions =
      (do
        performAll options.collisions (documentScript options.rootName document definitions)
        pure (typeOf ⟨options.rootName, .object document⟩)) := by
  have hroot : emit options.collisions options.rootName (Node.ofValue (.object document)) = _ :=
    emit_eq_script options.collisions ⟨options.rootName, .object document⟩
  unfold emitDocument documentScript documentVisits
  rw [List.flatMap_append, List.flatMap_map, List.flatMap_singleton, performAll_append,
    emitDefinitions_eq_script, hroot]
  simp only [bind_assoc]

end SchemaTyping.Emission
