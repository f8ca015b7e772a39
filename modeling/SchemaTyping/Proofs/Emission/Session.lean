import Mathlib.Data.List.Induction
import SchemaTyping.Proofs.Emission.Run

/-!
# Sessions

One generator may emit many schemas, and goes on after one that failed. The generators that can arise in
this way are those of `session`. What holds of them follows from what a single step preserves
(`session_induction`); what one emission adds to them is a first part of the schema's declarations
(`exists_added_emit`).
-/

namespace SchemaTyping.Emission

open Json (Value)
open Schema (Node)
open Typing (TypeExpr Declaration namesOf namesOf_append)

/-- The generator after a schema was emitted or failed to be. -/
def Generator.afterEmit (policy : CollisionPolicy) (generator : Generator) (visit : Visit) : Generator :=
  (runFrom (emit policy visit.property (Node.ofValue visit.value)) generator).2

/-- The generator after schemas were emitted one after the other, each whether or not those before it
failed. -/
def session (policy : CollisionPolicy) (visits : List Visit) : Generator :=
  visits.foldl (Generator.afterEmit policy) .empty

theorem session_concat (policy : CollisionPolicy) (visits : List Visit) (visit : Visit) :
    session policy (visits ++ [visit]) = (session policy visits).afterEmit policy visit :=
  List.foldl_concat _ _ _ _

theorem afterEmit_eq (policy : CollisionPolicy) (generator : Generator) (visit : Visit) :
    generator.afterEmit policy visit = (runFrom (performAll policy (script visit)) generator).2 := by
  change (runFrom (visit.emit policy) generator).2 = _
  cases hrun : runFrom (performAll policy (script visit)) generator with
  | mk result after =>
    cases result with
    | ok value => rw [runFrom_emit_of_ok hrun]
    | error repeated => rw [runFrom_emit_of_error hrun]

/-! ### Invariants -/

theorem performAll_preserves {P : Generator → Prop} (policy : CollisionPolicy)
    (hstep : ∀ generator (step : Step), P generator → P (runFrom (step.perform policy) generator).2)
    (steps : List Step) (generator : Generator) (hgenerator : P generator) :
    P (runFrom (performAll policy steps) generator).2 := by
  induction steps generalizing generator with
  | nil => exact hgenerator
  | cons step steps ih =>
    have hafter := hstep generator step hgenerator
    rw [performAll_cons]
    cases hrun : runFrom (step.perform policy) generator with
    | mk result after =>
      rw [hrun] at hafter
      cases result with
      | ok value =>
        rw [runFrom_bind_of_ok hrun]
        exact ih after hafter
      | error repeated =>
        rw [runFrom_bind_of_error hrun]
        exact hafter

theorem session_induction {P : Generator → Prop} (policy : CollisionPolicy) (hempty : P .empty)
    (hstep : ∀ generator (step : Step), P generator → P (runFrom (step.perform policy) generator).2)
    (visits : List Visit) : P (session policy visits) := by
  induction visits using List.reverseRecOn with
  | nil => exact hempty
  | append_singleton visits visit ih =>
    rw [session_concat, afterEmit_eq]
    exact performAll_preserves policy hstep (script visit) _ ih

/-- A step is performed, or it is refused and changes nothing. -/
theorem runFrom_step_cases (policy : CollisionPolicy) (step : Step) (generator : Generator) :
    runFrom (step.perform policy) generator = (.ok (), generator.after step) ∨
      ∃ declaration, step = .declare declaration ∧ policy = .error ∧ declaration.name ∈ generator.names ∧
        runFrom (step.perform policy) generator = (.error ⟨declaration.name⟩, generator) := by
  cases step with
  | declare declaration =>
    rw [Step.perform, runFrom_declare]
    split
    · rename_i hrefused
      exact .inr ⟨declaration, rfl, hrefused.2, hrefused.1, rfl⟩
    · exact .inl rfl
  | _ => exact .inl rfl

/-- In a session the names in use are those of the declarations. -/
theorem mem_names_session (policy : CollisionPolicy) (visits : List Visit) (name : String) :
    name ∈ (session policy visits).names ↔ name ∈ namesOf (session policy visits).declarations := by
  refine session_induction
    (P := fun generator => ∀ name, name ∈ generator.names ↔ name ∈ namesOf generator.declarations)
    policy (fun name => Iff.rfl) ?_ visits name
  intro generator step hgenerator name
  rcases runFrom_step_cases policy step generator with hrun | ⟨_, _, _, _, hrun⟩
  · rw [hrun, Generator.mem_names_after, Generator.declarations_after, namesOf_append, List.mem_append,
      hgenerator]
  · rw [hrun]
    exact hgenerator name

/-! ### What an emission adds -/

theorem exists_added_emit (policy : CollisionPolicy) (generator : Generator) (visit : Visit) :
    ∃ added, added <+: declarationsOf visit ∧
      (generator.afterEmit policy visit).declarations = generator.declarations ++ added := by
  obtain ⟨performed, hpart, hafter⟩ := exists_performed policy (script visit) generator
  refine ⟨declarationsIn performed, ?_, ?_⟩
  · rw [← declarationsIn_script]
    exact hpart.filterMap Step.declaration?
  · rw [afterEmit_eq, hafter, Generator.declarations_afterAll]

/-- What a session has declared stays as it is when the session goes on. -/
theorem declarations_prefix_session (policy : CollisionPolicy) (visits more : List Visit) :
    (session policy visits).declarations <+: (session policy (visits ++ more)).declarations := by
  induction more using List.reverseRecOn with
  | nil => simp
  | append_singleton more visit ih =>
    obtain ⟨added, _, hadded⟩ := exists_added_emit policy (session policy (visits ++ more)) visit
    rw [← List.append_assoc, session_concat, hadded]
    exact ih.trans (List.prefix_append _ _)

end SchemaTyping.Emission
