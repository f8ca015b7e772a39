import Mathlib.Data.Finset.Card
import SchemaTyping.Proofs.Emission.Strict

/-!
# Names, declarations and log agree

A generator records a declaration three times: its name among those in use, the declaration itself, and
an event in the log. A step that is performed changes all three, and a step that is refused changes none,
so they agree after every session, whatever failed in it. The warnings about repeated names make up the
difference between the number of declarations and the number of their names; under the strict policy
there are none, and so the names are distinct.
-/

namespace SchemaTyping.Emission

open Typing (Declaration namesOf namesOf_append)

/-- The events of a log that are there only for those who look for them. -/
def debugEvents (log : List Event) : List Event := log.filter fun event => event.level = .debug

/-- What a generator records of its declarations is the same in its names and in its log. -/
structure Generator.Agrees (generator : Generator) : Prop where
  /-- The names in use are those of the declarations. -/
  names : ∀ name, name ∈ generator.names ↔ name ∈ namesOf generator.declarations
  /-- The log tells of each declaration, in order, and has no other event of that level. -/
  told : debugEvents generator.log = (namesOf generator.declarations).map .declared
  /-- A declaration brings a new name or a warning. -/
  count : (repeatedNames generator.log).length + (namesOf generator.declarations).toFinset.card =
    generator.declarations.length

theorem agrees_empty : Generator.empty.Agrees where
  names := fun _ => Iff.rfl
  told := rfl
  count := rfl

/-! ### What one step keeps -/

theorem debugEvents_after (generator : Generator) (step : Step) :
    debugEvents (generator.after step).log =
      debugEvents generator.log ++ (namesOf (declarationsIn [step])).map .declared := by
  have hevents : debugEvents (generator.eventsOf step) =
      (namesOf (declarationsIn [step])).map .declared := by
    cases step with
    | declare declaration =>
      rw [Generator.eventsOf]
      split <;> rfl
    | _ => rfl
  rw [Generator.log_after, debugEvents, List.filter_append, ← hevents]
  rfl

/-- Only a declaration can fail to be fresh. -/
theorem exists_repeat_of_step {used : List String} {step : Step}
    (hrepeat : ¬ Fresh used (declarationsIn [step])) :
    ∃ declaration, step = .declare declaration ∧ declaration.name ∈ used := by
  cases step with
  | declare declaration =>
    refine ⟨declaration, rfl, ?_⟩
    by_contra hunused
    exact hrepeat (fresh_cons.2 ⟨hunused, Fresh.nil _⟩)
  | _ => exact absurd (Fresh.nil used) hrepeat

theorem card_append_fresh {names : List String} {declarations : List Declaration}
    (hfresh : Fresh names declarations) :
    (names ++ namesOf declarations).toFinset.card = names.toFinset.card + declarations.length := by
  have hdisjoint : Disjoint names.toFinset (namesOf declarations).toFinset := by
    rw [Finset.disjoint_right]
    intro name hname hused
    exact hfresh.2 name (List.mem_toFinset.1 hname) (List.mem_toFinset.1 hused)
  rw [List.toFinset_append, Finset.card_union_of_disjoint hdisjoint,
    List.toFinset_card_of_nodup hfresh.1, namesOf, List.length_map]

theorem Generator.Agrees.count_after {generator : Generator} (hagrees : generator.Agrees) (step : Step) :
    (repeatedNames (generator.after step).log).length +
      (namesOf (generator.after step).declarations).toFinset.card =
      (generator.after step).declarations.length := by
  have hcount := hagrees.count
  rw [Generator.declarations_after, namesOf_append, List.length_append]
  by_cases hfresh : Fresh generator.names (declarationsIn [step])
  · rw [repeatedNames_after_fresh hfresh, card_append_fresh ((fresh_congr hagrees.names).1 hfresh)]
    omega
  · -- the name is there already, so the warning makes up for it
    obtain ⟨declaration, rfl, hused⟩ := exists_repeat_of_step hfresh
    have hnames :
        (namesOf generator.declarations ++ namesOf (declarationsIn [.declare declaration])).toFinset =
        (namesOf generator.declarations).toFinset := by
      rw [List.toFinset_append]
      refine Finset.union_eq_left.2 fun name hname => ?_
      rw [List.mem_toFinset] at hname ⊢
      obtain rfl := List.mem_singleton.1 hname
      exact (hagrees.names _).1 hused
    rw [repeatedNames_after_repeat hused, hnames, List.length_append]
    change _ + 1 + _ = _ + 1
    omega

theorem Generator.Agrees.after {generator : Generator} (hagrees : generator.Agrees) (step : Step) :
    (generator.after step).Agrees where
  names := by
    intro name
    rw [Generator.mem_names_after, Generator.declarations_after, namesOf_append, List.mem_append,
      hagrees.names]
  told := by
    rw [debugEvents_after, hagrees.told, Generator.declarations_after, namesOf_append, List.map_append]
  count := hagrees.count_after step

/-! ### What a session keeps -/

theorem agrees_session (policy : CollisionPolicy) (visits : List Visit) :
    (session policy visits).Agrees := by
  refine session_induction policy agrees_empty ?_ visits
  intro generator step hagrees
  rcases runFrom_step_cases policy step generator with hrun | ⟨_, _, _, _, hrun⟩
  · rw [hrun]
    exact hagrees.after step
  · rw [hrun]
    exact hagrees

theorem repeatedNames_session_strict (visits : List Visit) :
    repeatedNames (session .error visits).log = [] := by
  refine session_induction (P := fun generator => repeatedNames generator.log = []) .error rfl ?_ visits
  intro generator step hlog
  by_cases hfresh : Fresh generator.names (declarationsIn [step])
  · rw [runFrom_step_fresh .error hfresh, repeatedNames_after_fresh hfresh]
    exact hlog
  · obtain ⟨declaration, rfl, hused⟩ := exists_repeat_of_step hfresh
    rw [Step.perform, runFrom_declare, if_pos ⟨hused, rfl⟩]
    exact hlog

theorem nodup_session_strict (visits : List Visit) :
    (namesOf (session .error visits).declarations).Nodup := by
  have hcount := (agrees_session .error visits).count
  rw [repeatedNames_session_strict, List.length_nil, Nat.zero_add] at hcount
  have hdistinct : (namesOf (session .error visits).declarations).toFinset.card =
      (namesOf (session .error visits).declarations).length := by
    rw [hcount, namesOf, List.length_map]
  exact Multiset.coe_nodup.1 (Multiset.toFinset_card_eq_card_iff_nodup.1 hdistinct)

/-- **Names, declarations and log agree after every session**, whichever of its emissions failed. The
names in use are those of the declarations, what is declared stays where it is, and the log tells of the
declarations in their order. Under the strict policy the names are distinct and none is reported as
repeated. Under the other one a name is reported as often as a declaration brings no new name. -/
theorem session_accounts (policy : CollisionPolicy) (visits : List Visit) :
    (∀ name, name ∈ (session policy visits).names ↔
      name ∈ namesOf (session policy visits).declarations) ∧
    (∀ more, (session policy visits).declarations <+: (session policy (visits ++ more)).declarations) ∧
    debugEvents (session policy visits).log =
      (namesOf (session policy visits).declarations).map .declared ∧
    (namesOf (session .error visits).declarations).Nodup ∧
    repeatedNames (session .error visits).log = [] ∧
    (repeatedNames (session .warn visits).log).length +
      (namesOf (session .warn visits).declarations).toFinset.card =
      (session .warn visits).declarations.length := by
  have hagrees := agrees_session policy visits
  have hwarnings := (agrees_session .warn visits).count
  exact ⟨hagrees.names, declarations_prefix_session policy visits, hagrees.told,
    nodup_session_strict visits, repeatedNames_session_strict visits, hwarnings⟩

end SchemaTyping.Emission
