import SchemaTyping.Proofs.Emission.PostOrder
import SchemaTyping.Proofs.Emission.Session

/-!
# The strict policy cuts the run of the warning policy

Both policies perform the same steps. The strict one stops in front of the first declaration whose name
is in use, where the warning one logs that name and goes on. So a strict emission is the other one cut
there, and a strict conversion can be read off a conversion with warnings: it has the same text if no
name was reported, and fails with the first name reported otherwise.
-/

namespace SchemaTyping.Emission

open Json (Value Members)
open Schema (Node)
open Typing (TypeExpr Declaration namesOf namesOf_append renderModule)

/-! ### Names reported as repeated -/

/-- The name that an event reports as repeated. -/
def Event.repeatedName? : Event → Option String
  | .repeatedName name => some name
  | _ => none

def repeatedNames (log : List Event) : List String := log.filterMap Event.repeatedName?

theorem repeatedNames_after (generator : Generator) (step : Step) :
    repeatedNames (generator.after step).log = repeatedNames generator.log ++
      repeatedNames (generator.eventsOf step) := by
  rw [Generator.log_after]
  exact List.filterMap_append ..

theorem repeatedNames_after_fresh {generator : Generator} {step : Step}
    (hfresh : Fresh generator.names (declarationsIn [step])) :
    repeatedNames (generator.after step).log = repeatedNames generator.log := by
  have hnone : repeatedNames (generator.eventsOf step) = [] := by
    cases step with
    | declare declaration =>
      have hname : declaration.name ∉ generator.names := (fresh_cons.1 hfresh).1
      rw [Generator.eventsOf, if_neg hname]
      rfl
    | _ => rfl
  rw [repeatedNames_after, hnone, List.append_nil]

theorem repeatedNames_after_repeat {generator : Generator} {declaration : Declaration}
    (hused : declaration.name ∈ generator.names) :
    repeatedNames (generator.after (.declare declaration)).log = repeatedNames generator.log ++
      [declaration.name] := by
  rw [repeatedNames_after, Generator.eventsOf, if_pos hused]
  rfl

theorem repeatedNames_afterAll_fresh {generator : Generator} {steps : List Step}
    (hfresh : Fresh generator.names (declarationsIn steps)) :
    repeatedNames (generator.afterAll steps).log = repeatedNames generator.log := by
  induction steps generalizing generator with
  | nil => rfl
  | cons step steps ih =>
    obtain ⟨hfirst, hrest⟩ := fresh_steps_cons.1 hfresh
    rw [Generator.afterAll_cons, ih hrest, repeatedNames_after_fresh hfirst]

/-- The first name reported by a run is that of the first declaration whose name is in use. -/
theorem head_repeatedNames_cut {before : List Step} (rest : List Step) {declaration : Declaration}
    {generator : Generator} (hlog : repeatedNames generator.log = [])
    (hfresh : Fresh generator.names (declarationsIn before))
    (hused : declaration.name ∈ generator.names ∨ declaration.name ∈ namesOf (declarationsIn before)) :
    (repeatedNames (generator.afterAll (before ++ .declare declaration :: rest)).log).head? =
      some declaration.name := by
  have hcut : repeatedNames ((generator.afterAll before).after (.declare declaration)).log =
      [declaration.name] := by
    rw [repeatedNames_after_repeat (Generator.mem_names_afterAll.2 hused),
      repeatedNames_afterAll_fresh hfresh, hlog, List.nil_append]
  have hpart :=
    Generator.log_prefix_afterAll ((generator.afterAll before).after (.declare declaration)) rest
  obtain ⟨more, hmore⟩ := hpart.filterMap Event.repeatedName?
  unfold repeatedNames at hcut ⊢
  rw [Generator.afterAll_append, Generator.afterAll_cons, ← hmore, hcut]
  rfl

/-! ### Strict emission -/

theorem runFrom_emit_fresh (policy : CollisionPolicy) {visit : Visit} {generator : Generator}
    (hfresh : Fresh generator.names (declarationsOf visit)) :
    runFrom (visit.emit policy) generator = (.ok (typeOf visit), generator.afterAll (script visit)) := by
  rw [← declarationsIn_script] at hfresh
  exact runFrom_emit_of_ok (runFrom_fresh policy hfresh)

theorem exists_cut_of_emit {visit : Visit} {generator : Generator}
    (hrepeat : ¬ Fresh generator.names (declarationsOf visit)) :
    ∃ before declaration rest, declarationsOf visit = before ++ declaration :: rest ∧
      Fresh generator.names before ∧
      (declaration.name ∈ generator.names ∨ declaration.name ∈ namesOf before) ∧
      ∃ after, runFrom (visit.emit .error) generator = (.error ⟨declaration.name⟩, after) ∧
        after.declarations = generator.declarations ++ before := by
  rw [← declarationsIn_script] at hrepeat ⊢
  obtain ⟨before, declaration, rest, hscript, hfresh, hused⟩ := exists_first_repeat hrepeat
  have hrun := runFrom_cut rest hfresh hused
  rw [← hscript] at hrun
  refine ⟨declarationsIn before, declaration, declarationsIn rest, ?_, hfresh, hused,
    generator.afterAll before, runFrom_emit_of_error hrun, generator.declarations_afterAll before⟩
  rw [hscript, declarationsIn_append]
  rfl

/-! ### Strict conversion -/

/-- What a conversion with warnings becomes if the first name reported as repeated is an error. -/
def failAtRepeat : Except ConversionError String × List Event → Except ConversionError String
  | (.ok text, log) =>
    match (repeatedNames log).head? with
    | none => .ok text
    | some name => .error (.repeatedName name)
  | (.error error, _) => .error error

theorem convert_strict_eq_failAtRepeat (options : Options) (document : Value) :
    (convert { options with collisions := .error } document).1 =
      failAtRepeat (convert { options with collisions := .warn } document) := by
  cases document with
  | object document =>
    rw [convert_object, convert_object]
    cases definitions document with
    | error mismatch => rfl
    | ok found =>
      simp only [runFrom_emitDocument_warn, failAtRepeat]
      by_cases hfresh : Fresh Generator.empty.names
        (declarationsIn (documentScript options.rootName document found))
      · have hreported := repeatedNames_afterAll_fresh hfresh
        rw [emitDocument_eq_script, runFrom_bind_of_ok (runFrom_fresh .error hfresh), hreported]
        rfl
      · -- the strict run stops where the run with warnings reports its first name
        obtain ⟨before, declaration, rest, hscript, hbefore, hused⟩ := exists_first_repeat hfresh
        have hrun := runFrom_cut rest hbefore hused
        have hreported := head_repeatedNames_cut rest rfl hbefore hused
        rw [emitDocument_eq_script, hscript, runFrom_bind_of_error hrun, hreported]
  | _ => rfl

/-- **The strict policy cuts the run of the warning policy at the first collision.** From a generator of
a session, of whatever policy, the warning policy returns a type and adds declarations. If their names
are fresh the strict policy does the same. Otherwise it fails with the name of the first of them whose
name is in use, and has added those before it. A strict conversion is the conversion with warnings,
except that the first name reported as repeated is an error. -/
theorem strict_cuts_warn :
    (∀ (policy : CollisionPolicy) (visits : List Visit) (visit : Visit), ∃ type declarations,
      (∃ after, runFrom (emit .warn visit.property (Node.ofValue visit.value)) (session policy visits) =
        (.ok type, after) ∧
        after.declarations = (session policy visits).declarations ++ declarations) ∧
      (Fresh (namesOf (session policy visits).declarations) declarations →
        ∃ after, runFrom (emit .error visit.property (Node.ofValue visit.value))
          (session policy visits) = (.ok type, after) ∧
          after.declarations = (session policy visits).declarations ++ declarations) ∧
      (¬ Fresh (namesOf (session policy visits).declarations) declarations →
        ∃ before declaration rest, declarations = before ++ declaration :: rest ∧
          Fresh (namesOf (session policy visits).declarations) before ∧
          declaration.name ∈ namesOf ((session policy visits).declarations ++ before) ∧
          ∃ after, runFrom (emit .error visit.property (Node.ofValue visit.value))
            (session policy visits) =
              (.error ⟨declaration.name⟩, after) ∧
            after.declarations = (session policy visits).declarations ++ before)) ∧
    (∀ (options : Options) (document : Value),
      (convert { options with collisions := .error } document).1 =
        failAtRepeat (convert { options with collisions := .warn } document)) := by
  refine ⟨fun policy visits visit => ⟨typeOf visit, declarationsOf visit, ?_, ?_, ?_⟩,
    convert_strict_eq_failAtRepeat⟩
  · refine ⟨_, runFrom_emit_warn visit _, ?_⟩
    rw [Generator.declarations_afterAll, declarationsIn_script]
  · intro hfresh
    rw [← fresh_congr (mem_names_session policy visits)] at hfresh
    refine ⟨_, runFrom_emit_fresh .error hfresh, ?_⟩
    rw [Generator.declarations_afterAll, declarationsIn_script]
  · intro hrepeat
    rw [← fresh_congr (mem_names_session policy visits)] at hrepeat
    obtain ⟨before, declaration, rest, hsplit, hfresh, hused, hrun⟩ := exists_cut_of_emit hrepeat
    rw [fresh_congr (mem_names_session policy visits)] at hfresh
    rw [mem_names_session, ← List.mem_append, ← namesOf_append] at hused
    exact ⟨before, declaration, rest, hsplit, hfresh, hused, hrun⟩

end SchemaTyping.Emission
