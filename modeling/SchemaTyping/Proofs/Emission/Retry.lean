import SchemaTyping.Proofs.Emission.Leaves
import SchemaTyping.Proofs.Emission.Sink
import SchemaTyping.Proofs.Emission.Strict

/-!
# A strict emission tried again

A strict emission that fails keeps what it declared before, so trying it again is not trying it afresh.
Whatever the first attempt came to, the first name that the schema declares is in use after it: either it
was declared, or the attempt failed since it was in use already. The second attempt therefore gets as far
as this name and fails with it, before it has declared anything. Only a schema that declares nothing at
all can be emitted twice.
-/

namespace SchemaTyping.Emission

open Json (Value)
open Schema (Node classify)
open Typing (Declaration)

/-! ### Up to the first declaration -/

theorem exists_first_declaration {steps : List Step} {first : Declaration} {rest : List Declaration}
    (hfirst : declarationsIn steps = first :: rest) :
    ∃ quiet more, steps = quiet ++ .declare first :: more ∧ declarationsIn quiet = [] := by
  obtain ⟨quiet, step, more, rfl, hquiet, hstep, _⟩ := List.filterMap_eq_cons_iff.1 hfirst
  cases step with
  | declare declaration =>
    cases hstep
    exact ⟨quiet, more, rfl, List.filterMap_eq_nil_iff.2 hquiet⟩
  | _ => cases hstep

/-- Steps that declare nothing can only write to the log. -/
theorem sameButLog_afterAll {steps : List Step} (hquiet : declarationsIn steps = [])
    (generator : Generator) :
    (generator.afterAll steps).SameButLog generator := by
  have hsame := (sameRun_declarations .warn steps (.refl generator)).2
  rw [runFrom_warn, hquiet] at hsame
  exact hsame

/-! ### Names stay in use -/

theorem mem_names_performAll (policy : CollisionPolicy) (steps : List Step) {generator : Generator}
    {name : String} (hused : name ∈ generator.names) :
    name ∈ (runFrom (performAll policy steps) generator).2.names := by
  refine performAll_preserves (P := fun generator => name ∈ generator.names) policy ?_ steps
    generator hused
  intro generator step hused
  rcases runFrom_step_cases policy step generator with hrun | ⟨_, _, _, _, hrun⟩
  · rw [hrun]
    exact Generator.mem_names_after.2 (.inl hused)
  · rw [hrun]
    exact hused

/-- After a strict run, whether or not it failed, the first name that the steps declare is in use. -/
theorem first_mem_names_performAll {quiet : List Step} (hquiet : declarationsIn quiet = [])
    (first : Declaration) (more : List Step) (generator : Generator) :
    first.name ∈ (runFrom (performAll .error (quiet ++ .declare first :: more)) generator).2.names := by
  by_cases hused : first.name ∈ generator.names
  · exact mem_names_performAll .error _ hused
  · have hstart : declarationsIn (quiet ++ [.declare first]) = [first] := by
      rw [declarationsIn_append, hquiet]
      rfl
    have hfresh : Fresh generator.names (declarationsIn (quiet ++ [.declare first])) := by
      rw [hstart]
      exact fresh_cons.2 ⟨hused, Fresh.nil _⟩
    have hdeclared : first.name ∈ (generator.afterAll (quiet ++ [.declare first])).names := by
      rw [Generator.mem_names_afterAll, hstart]
      exact .inr (List.mem_singleton_self _)
    rw [List.append_cons, performAll_append, runFrom_bind_of_ok (runFrom_fresh .error hfresh)]
    exact mem_names_performAll .error more hdeclared

/-! ### Both attempts -/

theorem declarationsOf_eq_nil_iff {visit : Visit} :
    declarationsOf visit = [] ↔ ∀ other, Relation.ReflTransGen Visit.Above visit other →
      declaresName (classify other.value) = false := by
  have hnone : ∀ other : Visit, other.declaration? = none ↔
      declaresName (classify other.value) = false := by
    intro other
    rw [← other.isSome_declaration?, Option.isSome_eq_false_iff, Option.isNone_iff_eq_none]
  simp only [declarationsOf, List.filterMap_eq_nil_iff, mem_walk_iff, hnone]

/-- A schema that declares nothing is emitted without failure, and only the log is changed. -/
theorem runFrom_emit_quiet {visit : Visit} (hquiet : declarationsOf visit = [])
    (policy : CollisionPolicy) (generator : Generator) :
    ∃ after, runFrom (visit.emit policy) generator = (.ok (typeOf visit), after) ∧
      after.SameButLog generator := by
  have hfresh : Fresh generator.names (declarationsOf visit) := by
    rw [hquiet]
    exact Fresh.nil _
  refine ⟨_, runFrom_emit_fresh policy hfresh, ?_⟩
  rw [← declarationsIn_script] at hquiet
  exact sameButLog_afterAll hquiet generator

/-- A schema whose first name is in use is not emitted, and only the log is changed. -/
theorem runFrom_emit_refused {visit : Visit} {first : Declaration} {rest : List Declaration}
    (hfirst : declarationsOf visit = first :: rest) {generator : Generator}
    (hused : first.name ∈ generator.names) :
    ∃ after, runFrom (visit.emit .error) generator = (.error ⟨first.name⟩, after) ∧
      after.SameButLog generator := by
  rw [← declarationsIn_script] at hfirst
  obtain ⟨quiet, more, hscript, hquiet⟩ := exists_first_declaration hfirst
  have hfresh : Fresh generator.names (declarationsIn quiet) := by
    rw [hquiet]
    exact Fresh.nil _
  have hrun := runFrom_cut more hfresh (.inl hused)
  rw [← hscript] at hrun
  exact ⟨_, runFrom_emit_of_error hrun, sameButLog_afterAll hquiet generator⟩

theorem first_mem_names_afterEmit {visit : Visit} {first : Declaration} {rest : List Declaration}
    (hfirst : declarationsOf visit = first :: rest) (generator : Generator) :
    first.name ∈ (generator.afterEmit .error visit).names := by
  rw [← declarationsIn_script] at hfirst
  obtain ⟨quiet, more, hscript, hquiet⟩ := exists_first_declaration hfirst
  rw [afterEmit_eq, hscript]
  exact first_mem_names_performAll hquiet first more generator

/-- **Trying a strict emission again changes nothing but the log.** Whatever the first attempt came to,
and from any generator, the second one leaves the declarations and the names as they are. Either no
schema that the walk reaches declares a name, and both attempts return the same type; or the second one
fails with the name of the first declaration of the walk. -/
theorem strict_retry_stable (visit : Visit) (generator : Generator) :
    ∃ outcome after outcome' after',
      runFrom (emit .error visit.property (Node.ofValue visit.value)) generator = (outcome, after) ∧
      runFrom (emit .error visit.property (Node.ofValue visit.value)) after = (outcome', after') ∧
      after'.declarations = after.declarations ∧ after'.names = after.names ∧
      ((∀ other, Relation.ReflTransGen Visit.Above visit other →
        declaresName (classify other.value) = false) ∧
          (∃ type, outcome = .ok type ∧ outcome' = .ok type) ∨
        ∃ first rest, declarationsOf visit = first :: rest ∧ outcome' = .error ⟨first.name⟩) := by
  cases hdeclarations : declarationsOf visit with
  | nil =>
    obtain ⟨after, hrun, _⟩ := runFrom_emit_quiet hdeclarations .error generator
    obtain ⟨after', hagain, hsame⟩ := runFrom_emit_quiet hdeclarations .error after
    exact ⟨_, after, _, after', hrun, hagain, hsame.declarations, hsame.names,
      .inl ⟨declarationsOf_eq_nil_iff.1 hdeclarations, typeOf visit, rfl, rfl⟩⟩
  | cons first rest =>
    obtain ⟨after', hagain, hsame⟩ :=
      runFrom_emit_refused hdeclarations (first_mem_names_afterEmit hdeclarations generator)
    exact ⟨_, generator.afterEmit .error visit, _, after', rfl, hagain, hsame.declarations, hsame.names,
      .inr ⟨first, rest, rfl, rfl⟩⟩

/-- A record with two enumerations, the second under the name in use. -/
def letterAndMode : Value :=
  .object [("type", .string "object"),
    ("properties",
      .object [("letter", .object [("enum", .array [])]), ("mode", .object [("enum", .array [])])])]

/-- The second attempt fails sooner than the first, which has declared what is in its way. -/
example :
    (runFrom (emit .error "root" (Node.ofValue letterAndMode)) modeInUse).1 = .error ⟨"Mode"⟩ ∧
      (runFrom (emit .error "root" (Node.ofValue letterAndMode))
        (modeInUse.afterEmit .error ⟨"root", letterAndMode⟩)).1 =
        .error ⟨"Letter"⟩ :=
  ⟨rfl, rfl⟩

end SchemaTyping.Emission
