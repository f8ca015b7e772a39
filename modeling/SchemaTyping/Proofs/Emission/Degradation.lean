import SchemaTyping.Proofs.Emission.PostOrder
import SchemaTyping.Proofs.Emission.RootName

/-!
# Nothing becomes `Any` in silence

A schema becomes `Any` for one of three reasons: it asks for nothing, it is a list of which the items are
not told, or it is not understood. The third leaves a warning, one for each schema that is not recognised
and one for each unknown name in a list of types, and the warning tells under which property it was met.
Every `Any` in a type is a leaf that some visit of the walk brings, and a visit brings as many as it has
reasons (`countP_leaves_steps`), so all of them are accounted for: what the two counts and the log
together do not explain is not there.
-/

namespace SchemaTyping.Emission

open Json (Value Members)
open Schema (Node classify)
open Typing (TypeExpr Declaration)

/-- Whether a type is the one that says nothing. -/
def isAny : TypeExpr → Bool
  | .any => true
  | _ => false

/-- Whether an event tells that something was given up on, and is `Any`. -/
def Event.isDegradation : Event → Bool
  | .unknownNode _ _ | .unknownType _ _ => true
  | .declared _ | .repeatedName _ => false

/-- The events of a log that tell what was given up on, in order. -/
def degradations (log : List Event) : List Event := log.filter Event.isDegradation

/-! ### What steps log -/

/-- The event by which a step tells what was given up on. -/
def Step.degradation? : Step → Option Event
  | .declare _ => none
  | .unknownNode property node => some (.unknownNode property node)
  | .unknownType property entry => some (.unknownType property entry)

theorem degradations_append (first second : List Event) :
    degradations (first ++ second) = degradations first ++ degradations second :=
  List.filter_append ..

theorem degradations_after (generator : Generator) (step : Step) :
    degradations (generator.after step).log = degradations generator.log ++
      step.degradation?.toList := by
  have hevents : degradations (generator.eventsOf step) = step.degradation?.toList := by
    cases step with
    | declare declaration =>
      rw [Generator.eventsOf]
      split <;> rfl
    | _ => rfl
  rw [Generator.log_after, degradations_append, hevents]

theorem degradations_afterAll (generator : Generator) (steps : List Step) :
    degradations (generator.afterAll steps).log = degradations generator.log ++
      steps.filterMap Step.degradation? := by
  induction steps generalizing generator with
  | nil => exact (List.append_nil _).symm
  | cons step steps ih =>
    rw [Generator.afterAll_cons, ih, degradations_after, List.append_assoc]
    congr 1
    cases hstep : step.degradation? <;> simp [hstep]

/-- The events by which the visit of a schema tells what it gives up on: the schema itself, or entries of
its list of types. -/
def Visit.degradations (visit : Visit) : List Event :=
  match classify visit.value with
  | .unrecognized => [.unknownNode visit.property visit.value]
  | .types names =>
    (names.filter fun entry => (namedPrimitive? entry).isNone).map (.unknownType visit.property)
  | _ => []

theorem degradations_steps (visit : Visit) :
    visit.steps.filterMap Step.degradation? = visit.degradations := by
  cases hshape : classify visit.value with
  | types names =>
    have hunknown : Step.degradation? ∘ Step.unknownType visit.property = some ∘
        Event.unknownType visit.property := rfl
    simp only [Visit.steps, Visit.degradations, hshape, unknownEntries, List.filterMap_map, hunknown,
      List.filterMap_eq_map]
  | _ => simp [Visit.steps, Visit.degradations, Visit.declaration?, hshape, Step.degradation?]

theorem degradations_script (visit : Visit) :
    (script visit).filterMap Step.degradation? = (walk visit).flatMap Visit.degradations := by
  rw [script, List.filterMap_flatMap]
  exact List.flatMap_congr fun other _ => degradations_steps other

/-! ### What visits bring -/

theorem isAny_entryMeaning (entry : Value) :
    isAny (entryMeaning entry) = (namedPrimitive? entry).isNone := by
  unfold entryMeaning
  cases namedPrimitive? entry <;> rfl

/-- A visit brings an `Any` if it asks for nothing, if it is a list without items, and for each thing
that it gives up on. -/
theorem countP_leaves (visit : Visit) :
    visit.leaves.countP isAny =
      (if classify visit.value = .empty then 1 else 0) +
        (if classify visit.value = .array none then 1 else 0) +
        visit.degradations.length := by
  have htype := typeOf_eq visit
  cases hshape : classify visit.value with
  | array item? => cases item? <;> simp [Visit.leaves, Visit.degradations, hshape, isAny]
  | types names =>
    have hentries : (names.map entryMeaning).countP isAny = names.countP fun entry =>
        (namedPrimitive? entry).isNone := by
      rw [List.countP_map]
      exact List.countP_congr fun entry _ => by rw [Function.comp_apply, isAny_entryMeaning]
    simp [Visit.leaves, Visit.degradations, hshape, hentries, List.countP_eq_length_filter]
  | _ =>
    simp only [hshape] at htype
    simp [Visit.leaves, Visit.degradations, hshape, htype, isAny]

theorem countP_flatMap_leaves (visits : List Visit) :
    (visits.flatMap Visit.leaves).countP isAny =
      visits.countP (fun visit => classify visit.value = .empty) +
        visits.countP (fun visit => classify visit.value = .array none) +
        (visits.flatMap Visit.degradations).length := by
  induction visits with
  | nil => rfl
  | cons visit visits ih =>
    have hvisit := countP_leaves visit
    rw [List.flatMap_cons, List.countP_append, ih, hvisit, List.flatMap_cons, List.length_append,
      List.countP_cons, List.countP_cons]
    simp only [decide_eq_true_eq]
    omega

/-! ### The nearest key -/

/-- The relation of a schema below another to the key of the property right above it. The start's own
name stands in for the key of what only lists and unions of the start lead to. -/
inductive Visit.NearestKey (start other : Visit) : String → Prop
  | own (hinside : Relation.ReflTransGen Visit.Wraps start other) :
    Visit.NearestKey start other start.property
  | property {holder : Visit} {properties : Option Members} {required : List String} {key : String}
    {value : Value} (hholder : Relation.ReflTransGen Visit.Above start holder)
    (hshape : classify holder.value = .object properties required)
    (hmem : (key, value) ∈ properties.getD [])
    (hinside : Relation.ReflTransGen Visit.Wraps ⟨key, value⟩ other) :
    Visit.NearestKey start other key

theorem Visit.NearestKey.wraps {start other child : Visit} {key : String}
    (hnearest : start.NearestKey other key) (hwraps : other.Wraps child) :
    start.NearestKey child key := by
  cases hnearest with
  | own hinside => exact .own (hinside.tail hwraps)
  | property hholder hshape hmem hinside => exact .property hholder hshape hmem (hinside.tail hwraps)

/-- What stands below a schema stands under its nearest key. -/
theorem nearestKey_of_above {start other : Visit}
    (hreached : Relation.ReflTransGen Visit.Above start other) :
    start.NearestKey other other.property := by
  induction hreached with
  | refl => exact .own .refl
  | @tail holder child hholder hchild ih =>
    cases hkeys : holder.keysChildren with
    | false =>
      have hwraps := Visit.wraps_of_child hkeys hchild
      rw [hwraps.property_eq]
      exact ih.wraps hwraps
    | true =>
      -- a property of an object: its key is the nearest, whatever led to the object
      cases hshape : classify holder.value with
      | object properties required =>
        rw [Visit.Above, Visit.children_of_object hshape] at hchild
        obtain ⟨member, hmem, rfl⟩ := List.mem_map.1 hchild
        exact .property hholder hshape hmem .refl
      | _ => simp [Visit.keysChildren, hshape] at hkeys

theorem told_of_mem_degradations {visit : Visit} {event : Event} (hevent : event ∈ visit.degradations) :
    event.level = .warn ∧ event.subject = .property visit.property := by
  unfold Visit.degradations at hevent
  split at hevent
  · rw [List.mem_singleton.1 hevent]
    exact ⟨rfl, rfl⟩
  · obtain ⟨entry, _, rfl⟩ := List.mem_map.1 hevent
    exact ⟨rfl, rfl⟩
  · cases hevent

/-! ### The account -/

/-- **Every `Any` is accounted for.** From any generator an emission with warnings returns a type and
adds declarations and log entries. In that type and in the fields of those declarations there are as many
`Any`s as the walk meets schemas that ask for nothing, lists without items, and things that it gives up
on. The last are what the log tells, visit by visit in the order of the walk, and each is told as a
warning, with the key nearest above the schema. -/
theorem any_leaves_accounted (visit : Visit) (generator : Generator) :
    ∃ type after added logged,
      runFrom (emit .warn visit.property (Node.ofValue visit.value)) generator = (.ok type, after) ∧
      after.declarations = generator.declarations ++ added ∧ after.log = generator.log ++ logged ∧
      type.leaves.countP isAny + (added.flatMap Declaration.leaves).countP isAny =
        (walk visit).countP (fun other => classify other.value = .empty) +
          (walk visit).countP (fun other => classify other.value = .array none) +
            (degradations logged).length ∧
      degradations logged = (walk visit).flatMap Visit.degradations ∧
      ∀ other ∈ walk visit, ∀ event ∈ other.degradations,
        event.level = .warn ∧ ∃ key, event.subject = .property key ∧ visit.NearestKey other key := by
  obtain ⟨logged, hlogged⟩ := generator.log_prefix_afterAll (script visit)
  have hdegradations : degradations logged = (walk visit).flatMap Visit.degradations := by
    have hlog := degradations_afterAll generator (script visit)
    rw [← hlogged, degradations_append, degradations_script] at hlog
    exact List.append_cancel_left hlog
  refine ⟨typeOf visit, _, declarationsOf visit, logged, runFrom_emit_warn visit generator, ?_,
    hlogged.symm, ?_, hdegradations, ?_⟩
  · rw [Generator.declarations_afterAll, declarationsIn_script]
  · have hleaves := (leaves_perm visit).countP_eq isAny
    rw [List.countP_append, countP_flatMap_leaves] at hleaves
    rw [hdegradations, Nat.add_comm, hleaves]
  · intro other hother event hevent
    obtain ⟨hlevel, hsubject⟩ := told_of_mem_degradations hevent
    exact ⟨hlevel, other.property, hsubject, nearestKey_of_above (mem_walk_iff.1 hother)⟩

/-- A record with a field of each kind that becomes `Any`. -/
def looseRecord : Value :=
  .object [("type", .string "object"),
    ("properties", .object [("free", .object []), ("bare", .object [("type", .string "array")]),
      ("odd", .object [("type", .string "array"), ("items", .object [("type", .string "tuple")])]),
      ("mixed", .object [("type", .array [.string "string", .string "date"])])])]

theorem looseRecord_accounted :
    ∃ after added logged, runFrom (emit .warn "root" (Node.ofValue looseRecord)) .empty =
      (.ok (.declared "Root"), after) ∧
      after.declarations = added ∧ after.log = logged ∧
      degradations logged =
        [.unknownNode "odd" (.object [("type", .string "tuple")]),
          .unknownType "mixed" (.string "date")] ∧
      (added.flatMap Declaration.leaves).countP isAny = 4 ∧
      (walk ⟨"root", looseRecord⟩).countP (fun other => classify other.value = .empty) +
        (walk ⟨"root", looseRecord⟩).countP (fun other => classify other.value = .array none) = 2 := by
  obtain ⟨type, after, added, logged, hrun, hadded, hlogged, hcount, _⟩ :=
    any_leaves_accounted ⟨"root", looseRecord⟩ .empty
  have hemit : runFrom (emit .warn "root" (Node.ofValue looseRecord)) .empty =
      (.ok (.declared "Root"), (runFrom (emit .warn "root" (Node.ofValue looseRecord)) .empty).2) := rfl
  obtain ⟨htype, rfl⟩ := Prod.mk.inj (hrun.symm.trans hemit)
  cases htype
  have hdegradations : degradations logged =
      [.unknownNode "odd" (.object [("type", .string "tuple")]),
        .unknownType "mixed" (.string "date")] := by
    rw [← List.nil_append logged, ← show Generator.empty.log = [] from rfl, ← hlogged]
    decide
  have hleaves : (added.flatMap Declaration.leaves).countP isAny = 4 := by
    rw [← List.nil_append added, ← show Generator.empty.declarations = [] from rfl, ← hadded]
    rfl
  rw [hdegradations, hleaves] at hcount
  exact ⟨_, added, logged, hemit, hadded, hlogged, hdegradations, hleaves,
    Nat.add_right_cancel hcount.symm⟩

end SchemaTyping.Emission
