import Mathlib.Data.List.Nodup
import SchemaTyping.Proofs.Emission.Script
import SchemaTyping.Proofs.Typing.Names

/-!
# Running a script

What a list of steps does to a generator. Under the warning policy no step fails, so a run goes through
to the end (`runFrom_warn`). Under the strict policy it goes through as long as the names it declares are
fresh (`runFrom_fresh`) and stops in front of the first that is not (`runFrom_cut`). In each case the
generator is the one that the steps performed leave behind, `Generator.afterAll`, and what can be seen of
it is stated here once.
-/

namespace SchemaTyping.Emission

open Json (Value)
open Schema (classify)
open Typing (TypeExpr Declaration namesOf namesOf_append)

/-- The outcome of an action and the generator it leaves behind. -/
def runFrom {α : Type} (action : Emit α) (generator : Generator) : Except RepeatedName α × Generator :=
  action.run.run generator

section

variable {α β : Type} {action : Emit α} {next : α → Emit β} {generator after : Generator}

theorem runFrom_bind_of_ok {value : α} (hrun : runFrom action generator = (.ok value, after)) :
    runFrom (action >>= next) generator = runFrom (next value) after := by
  unfold runFrom at hrun ⊢
  rw [ExceptT.run_bind, StateT.run_bind, hrun]
  rfl

theorem runFrom_bind_of_error {repeated : RepeatedName}
    (hrun : runFrom action generator = (.error repeated, after)) :
    runFrom (action >>= next) generator = (.error repeated, after) := by
  unfold runFrom at hrun ⊢
  rw [ExceptT.run_bind, StateT.run_bind, hrun]
  rfl

end

/-! ### What steps leave behind -/

/-- The declaration that a step makes. -/
def Step.declaration? : Step → Option Declaration
  | .declare declaration => some declaration
  | _ => none

def declarationsIn (steps : List Step) : List Declaration := steps.filterMap Step.declaration?

/-- The generator after a step that did not fail. -/
def Generator.after (generator : Generator) : Step → Generator
  | .declare declaration =>
    if declaration.name ∈ generator.names then
      (generator.record (.repeatedName declaration.name)).add declaration
    else generator.add declaration
  | .unknownNode property node => generator.record (.unknownNode property node)
  | .unknownType property entry => generator.record (.unknownType property entry)

def Generator.afterAll (generator : Generator) (steps : List Step) : Generator :=
  steps.foldl Generator.after generator

theorem Generator.afterAll_cons (generator : Generator) (step : Step) (steps : List Step) :
    generator.afterAll (step :: steps) = (generator.after step).afterAll steps := rfl

theorem Generator.afterAll_append (generator : Generator) (first second : List Step) :
    generator.afterAll (first ++ second) = (generator.afterAll first).afterAll second :=
  List.foldl_append

theorem declarationsIn_append (first second : List Step) :
    declarationsIn (first ++ second) = declarationsIn first ++ declarationsIn second :=
  List.filterMap_append

theorem declarationsIn_cons (step : Step) (steps : List Step) :
    declarationsIn (step :: steps) = declarationsIn [step] ++ declarationsIn steps := by
  rw [← declarationsIn_append, List.singleton_append]

theorem Generator.declarations_after (generator : Generator) (step : Step) :
    (generator.after step).declarations = generator.declarations ++ declarationsIn [step] := by
  cases step with
  | declare declaration =>
    simp only [Generator.after]
    split <;> rfl
  | _ => exact (List.append_nil _).symm

/-- Performed steps add their declarations behind the others and change none. -/
theorem Generator.declarations_afterAll (generator : Generator) (steps : List Step) :
    (generator.afterAll steps).declarations = generator.declarations ++ declarationsIn steps := by
  induction steps generalizing generator with
  | nil => exact (List.append_nil _).symm
  | cons step steps ih =>
    rw [Generator.afterAll_cons, ih, Generator.declarations_after, declarationsIn_cons step steps,
      List.append_assoc]

theorem Generator.mem_names_after {generator : Generator} {step : Step} {name : String} :
    name ∈ (generator.after step).names ↔ name ∈ generator.names ∨
      name ∈ namesOf (declarationsIn [step]) := by
  cases step with
  | declare declaration =>
    have hnames : namesOf (declarationsIn [.declare declaration]) = [declaration.name] := rfl
    rw [hnames, List.mem_singleton]
    by_cases hused : declaration.name ∈ generator.names
    · simp only [Generator.after, Generator.add, Generator.record, hused, if_true]
      exact ⟨.inl, fun h => h.elim id fun heq => heq ▸ hused⟩
    · simp only [Generator.after, Generator.add, hused, if_false, List.mem_cons]
      exact or_comm
  | _ => simp [Generator.after, Generator.record, declarationsIn, Step.declaration?, namesOf]

theorem Generator.mem_names_afterAll {generator : Generator} {steps : List Step} {name : String} :
    name ∈ (generator.afterAll steps).names ↔ name ∈ generator.names ∨
      name ∈ namesOf (declarationsIn steps) := by
  induction steps generalizing generator with
  | nil => simp [Generator.afterAll, declarationsIn, namesOf]
  | cons step steps ih =>
    rw [Generator.afterAll_cons, ih, Generator.mem_names_after, declarationsIn_cons step steps,
      namesOf_append, List.mem_append, or_assoc]

/-- The events that a step adds to the log if it does not fail. -/
def Generator.eventsOf (generator : Generator) : Step → List Event
  | .declare declaration =>
    if declaration.name ∈
      generator.names then [.repeatedName declaration.name, .declared declaration.name]
    else [.declared declaration.name]
  | .unknownNode property node => [.unknownNode property node]
  | .unknownType property entry => [.unknownType property entry]

theorem Generator.log_after (generator : Generator) (step : Step) :
    (generator.after step).log = generator.log ++ generator.eventsOf step := by
  cases step with
  | declare declaration =>
    simp only [Generator.after, Generator.eventsOf]
    split
    · exact List.append_assoc _ _ _
    · rfl
  | _ => rfl

theorem Generator.log_prefix_afterAll (generator : Generator) (steps : List Step) :
    generator.log <+: (generator.afterAll steps).log := by
  induction steps generalizing generator with
  | nil => exact List.prefix_rfl
  | cons step steps ih =>
    have hstep : generator.log <+: (generator.after step).log := by
      rw [Generator.log_after]
      exact List.prefix_append _ _
    exact hstep.trans (ih (generator.after step))

/-! ### Fresh names -/

/-- Declarations whose names are pairwise distinct and not among those in use. -/
def Fresh (used : List String) (declarations : List Declaration) : Prop :=
  (namesOf declarations).Nodup ∧ ∀ name ∈ namesOf declarations, name ∉ used

theorem Fresh.nil (used : List String) : Fresh used [] := by
  simp [Fresh, namesOf]

theorem fresh_cons {used : List String} {declaration : Declaration} {declarations : List Declaration} :
    Fresh used (declaration :: declarations) ↔
      declaration.name ∉ used ∧ Fresh (declaration.name :: used) declarations := by
  simp only [Fresh, namesOf, List.map_cons, List.nodup_cons, List.mem_cons, not_or, forall_eq_or_imp]
  constructor
  · rintro ⟨⟨hother, hnodup⟩, hself, hrest⟩
    exact ⟨hself, hnodup, fun name hname => ⟨fun heq => hother (heq ▸ hname), hrest name hname⟩⟩
  · rintro ⟨hself, hnodup, hrest⟩
    exact ⟨⟨fun hmem => (hrest _ hmem).1 rfl, hnodup⟩, hself, fun name hname => (hrest name hname).2⟩

/-- Only which names are in use matters, not how they are listed. -/
theorem fresh_congr {used used' : List String} {declarations : List Declaration}
    (hsame : ∀ name, name ∈ used ↔ name ∈ used') :
    Fresh used declarations ↔ Fresh used' declarations := by
  simp only [Fresh, hsame]

theorem fresh_append {used : List String} {first second : List Declaration} :
    Fresh used (first ++ second) ↔ Fresh used first ∧ Fresh (used ++ namesOf first) second := by
  induction first generalizing used with
  | nil => simp [Fresh, namesOf]
  | cons declaration rest ih =>
    have hused : ∀ name, name ∈ declaration.name :: used ++ namesOf rest ↔
        name ∈ used ++ namesOf (declaration :: rest) := by
      intro name
      simp only [namesOf, List.map_cons, List.cons_append, List.mem_cons, List.mem_append]
      exact or_left_comm
    rw [List.cons_append, fresh_cons, ih, fresh_cons, and_assoc, fresh_congr hused]

/-- The names of steps are fresh if those of the first step are, and those of the others are once it is
performed. -/
theorem fresh_steps_cons {generator : Generator} {step : Step} {steps : List Step} :
    Fresh generator.names (declarationsIn (step :: steps)) ↔
      Fresh generator.names (declarationsIn [step]) ∧
      Fresh (generator.after step).names (declarationsIn steps) := by
  have hnames : ∀ name, name ∈ generator.names ++ namesOf (declarationsIn [step]) ↔
      name ∈ (generator.after step).names := by
    intro name
    rw [List.mem_append, Generator.mem_names_after]
  rw [declarationsIn_cons, fresh_append, fresh_congr hnames]

/-- Steps whose names are not fresh have a first one that declares a name in use. -/
theorem exists_first_repeat {used : List String} {steps : List Step}
    (hrepeat : ¬ Fresh used (declarationsIn steps)) :
    ∃ before declaration rest, steps = before ++ .declare declaration :: rest ∧
      Fresh used (declarationsIn before) ∧
      (declaration.name ∈ used ∨ declaration.name ∈ namesOf (declarationsIn before)) := by
  induction steps generalizing used with
  | nil => exact absurd (Fresh.nil used) hrepeat
  | cons step steps ih =>
    cases step with
    | declare first =>
      -- a step that is no declaration cannot be the one, so only this case looks at the names
      by_cases hused : first.name ∈ used
      · exact ⟨[], first, steps, rfl, Fresh.nil used, .inl hused⟩
      have hrest : ¬ Fresh (first.name :: used) (declarationsIn steps) :=
        fun hfresh => hrepeat (fresh_cons.2 ⟨hused, hfresh⟩)
      obtain ⟨before, declaration, rest, rfl, hfresh, hname⟩ := ih hrest
      refine ⟨.declare first :: before, declaration, rest, rfl, fresh_cons.2 ⟨hused, hfresh⟩, ?_⟩
      rcases hname with hname | hname
      · rcases List.mem_cons.1 hname with hfirst | hname
        · exact .inr (hfirst ▸ List.mem_cons_self)
        · exact .inl hname
      · exact .inr (List.mem_cons_of_mem _ hname)
    | _ =>
      obtain ⟨before, declaration, rest, rfl, hfresh, hname⟩ := ih hrepeat
      exact ⟨_ :: before, declaration, rest, rfl, hfresh, hname⟩

/-! ### Runs -/

theorem runFrom_declare (policy : CollisionPolicy) (declaration : Declaration) (generator : Generator) :
    runFrom (declare policy declaration) generator =
      if declaration.name ∈ generator.names ∧ policy = .error then (.error ⟨declaration.name⟩, generator)
      else (.ok (), generator.after (.declare declaration)) := by
  have hget : runFrom get generator = (.ok generator, generator) := rfl
  unfold declare
  rw [runFrom_bind_of_ok hget]
  by_cases hused : declaration.name ∈ generator.names
  · cases policy <;> simp only [hused, if_true, Generator.after] <;> rfl
  · simp only [hused, if_false, false_and, Generator.after]
    rfl

theorem runFrom_step_warn (step : Step) (generator : Generator) :
    runFrom (step.perform .warn) generator = (.ok (), generator.after step) := by
  cases step with
  | declare declaration =>
    rw [Step.perform, runFrom_declare, if_neg (by simp)]
  | _ => rfl

theorem runFrom_step_fresh (policy : CollisionPolicy) {step : Step} {generator : Generator}
    (hfresh : Fresh generator.names (declarationsIn [step])) :
    runFrom (step.perform policy) generator = (.ok (), generator.after step) := by
  cases step with
  | declare declaration =>
    have hname : declaration.name ∉ generator.names := (fresh_cons.1 hfresh).1
    rw [Step.perform, runFrom_declare, if_neg fun h => hname h.1]
  | _ => rfl

theorem runFrom_warn (steps : List Step) (generator : Generator) :
    runFrom (performAll .warn steps) generator = (.ok (), generator.afterAll steps) := by
  induction steps generalizing generator with
  | nil => rfl
  | cons step steps ih =>
    rw [performAll_cons, runFrom_bind_of_ok (runFrom_step_warn step generator), ih,
      Generator.afterAll_cons]

theorem runFrom_fresh (policy : CollisionPolicy) {steps : List Step} {generator : Generator}
    (hfresh : Fresh generator.names (declarationsIn steps)) :
    runFrom (performAll policy steps) generator = (.ok (), generator.afterAll steps) := by
  induction steps generalizing generator with
  | nil => rfl
  | cons step steps ih =>
    obtain ⟨hfirst, hrest⟩ := fresh_steps_cons.1 hfresh
    rw [performAll_cons, runFrom_bind_of_ok (runFrom_step_fresh policy hfirst), ih hrest,
      Generator.afterAll_cons]

theorem runFrom_cut {before : List Step} (rest : List Step) {declaration : Declaration}
    {generator : Generator} (hfresh : Fresh generator.names (declarationsIn before))
    (hused : declaration.name ∈ generator.names ∨ declaration.name ∈ namesOf (declarationsIn before)) :
    runFrom (performAll .error (before ++ .declare declaration :: rest)) generator =
      (.error ⟨declaration.name⟩, generator.afterAll before) := by
  have hrefused : runFrom ((Step.declare declaration).perform .error) (generator.afterAll before) =
      (.error ⟨declaration.name⟩, generator.afterAll before) := by
    rw [Step.perform, runFrom_declare, if_pos ⟨Generator.mem_names_afterAll.2 hused, rfl⟩]
  rw [performAll_append, runFrom_bind_of_ok (runFrom_fresh .error hfresh), performAll_cons,
    runFrom_bind_of_error hrefused]

/-- Whatever the policy, a run performs all steps, or it performs those before some declaration and fails
with its name. -/
theorem runFrom_cases (policy : CollisionPolicy) (steps : List Step) (generator : Generator) :
    runFrom (performAll policy steps) generator = (.ok (), generator.afterAll steps) ∨
      ∃ before declaration rest, steps = before ++ .declare declaration :: rest ∧
        runFrom (performAll policy steps) generator =
          (.error ⟨declaration.name⟩, generator.afterAll before) := by
  cases policy with
  | warn => exact .inl (runFrom_warn steps generator)
  | error =>
    by_cases hfresh : Fresh generator.names (declarationsIn steps)
    · exact .inl (runFrom_fresh .error hfresh)
    · obtain ⟨before, declaration, rest, rfl, hbefore, hused⟩ := exists_first_repeat hfresh
      exact .inr ⟨before, declaration, rest, rfl, runFrom_cut rest hbefore hused⟩

theorem exists_performed (policy : CollisionPolicy) (steps : List Step) (generator : Generator) :
    ∃ performed, performed <+: steps ∧
      (runFrom (performAll policy steps) generator).2 = generator.afterAll performed := by
  rcases runFrom_cases policy steps generator with hrun | ⟨before, declaration, rest, hsteps, hrun⟩
  · rw [hrun]
    exact ⟨steps, List.prefix_rfl, rfl⟩
  · rw [hrun, hsteps]
    exact ⟨before, List.prefix_append _ _, rfl⟩

theorem afterAll_of_ok {policy : CollisionPolicy} {steps : List Step} {generator after : Generator}
    (hok : runFrom (performAll policy steps) generator = (.ok (), after)) :
    after = generator.afterAll steps := by
  rcases runFrom_cases policy steps generator with hrun | ⟨_, _, _, _, hrun⟩
  · rw [hrun] at hok
    cases hok
    rfl
  · rw [hrun] at hok
    cases hok

/-- A script that does not fail has performed all of its steps and returns its meaning. -/
theorem script_of_ok {α : Type} {policy : CollisionPolicy} {steps : List Step} {meaning result : α}
    {generator after : Generator}
    (hrun : runFrom (do performAll policy steps; pure meaning) generator = (.ok result, after)) :
    result = meaning ∧ after = generator.afterAll steps := by
  cases hsteps : runFrom (performAll policy steps) generator with
  | mk outcome last =>
    cases outcome with
    | ok value =>
      rw [runFrom_bind_of_ok hsteps] at hrun
      cases hrun
      exact ⟨rfl, afterAll_of_ok hsteps⟩
    | error repeated =>
      rw [runFrom_bind_of_error hsteps] at hrun
      cases hrun

/-- Under the strict policy a script that does not fail has declared fresh names only. -/
theorem fresh_of_script_ok {α : Type} {steps : List Step} {meaning result : α}
    {generator after : Generator}
    (hrun : runFrom (do performAll .error steps; pure meaning) generator = (.ok result, after)) :
    Fresh generator.names (declarationsIn steps) := by
  by_contra hrepeat
  obtain ⟨before, declaration, rest, rfl, hfresh, hused⟩ := exists_first_repeat hrepeat
  rw [runFrom_bind_of_error (runFrom_cut rest hfresh hused)] at hrun
  cases hrun

/-! ### Emission -/

theorem declarationsIn_unknownEntries (property : String) (entries : List Value) :
    declarationsIn (unknownEntries property entries) = [] := by
  rw [declarationsIn, unknownEntries, List.filterMap_map, List.filterMap_eq_nil_iff]
  exact fun _ _ => rfl

theorem declarationsIn_steps (visit : Visit) :
    declarationsIn visit.steps = visit.declaration?.toList := by
  cases hshape : classify visit.value with
  | types names =>
    simp only [Visit.steps, Visit.declaration?, hshape, declarationsIn_unknownEntries, Option.toList]
  | _ => simp [Visit.steps, Visit.declaration?, hshape, declarationsIn, Step.declaration?]

theorem declarationsIn_script (visit : Visit) :
    declarationsIn (script visit) = declarationsOf visit := by
  unfold script declarationsOf
  rw [declarationsIn, List.filterMap_flatMap, List.filterMap_eq_flatMap_toList]
  exact List.flatMap_congr fun other _ => declarationsIn_steps other

theorem runFrom_emit_of_ok {policy : CollisionPolicy} {visit : Visit} {generator after : Generator}
    (hrun : runFrom (performAll policy (script visit)) generator = (.ok (), after)) :
    runFrom (visit.emit policy) generator = (.ok (typeOf visit), after) := by
  rw [emit_eq_script, runFrom_bind_of_ok hrun]
  rfl

theorem emit_of_ok {policy : CollisionPolicy} {visit : Visit} {generator after : Generator}
    {type : TypeExpr} (hrun : runFrom (visit.emit policy) generator = (.ok type, after)) :
    type = typeOf visit ∧ after = generator.afterAll (script visit) := by
  rw [emit_eq_script] at hrun
  exact script_of_ok hrun

theorem runFrom_emit_of_error {policy : CollisionPolicy} {visit : Visit} {generator after : Generator}
    {repeated : RepeatedName}
    (hrun : runFrom (performAll policy (script visit)) generator = (.error repeated, after)) :
    runFrom (visit.emit policy) generator = (.error repeated, after) := by
  rw [emit_eq_script, runFrom_bind_of_error hrun]

end SchemaTyping.Emission
