import SchemaTyping.Proofs.Emission.Run

/-!
# The log decides nothing

Warnings are written to the log and never read again. So two lists of steps with the same declarations
have the same outcome from generators that differ in their logs at most, and leave such generators
behind. What an emission comes to, its log apart, is therefore fixed by the type and the declarations of
the schema: `runFrom_emit_congr`.
-/

namespace SchemaTyping.Emission

open Typing (Declaration)

/-- Two generators that differ in their logs at most. -/
structure Generator.SameButLog (generator other : Generator) : Prop where
  declarations : generator.declarations = other.declarations
  names : generator.names = other.names

namespace Generator.SameButLog

variable {generator other third : Generator}

theorem refl (generator : Generator) : generator.SameButLog generator := ⟨rfl, rfl⟩

theorem symm (hsame : generator.SameButLog other) : other.SameButLog generator :=
  ⟨hsame.declarations.symm, hsame.names.symm⟩

theorem trans (hfirst : generator.SameButLog other) (hsecond : other.SameButLog third) :
    generator.SameButLog third :=
  ⟨hfirst.declarations.trans hsecond.declarations, hfirst.names.trans hsecond.names⟩

theorem record (hsame : generator.SameButLog other) (event : Event) :
    (generator.record event).SameButLog other :=
  ⟨hsame.declarations, hsame.names⟩

theorem add (hsame : generator.SameButLog other) (declaration : Declaration) :
    (generator.add declaration).SameButLog (other.add declaration) where
  declarations := by simp only [Generator.add, hsame.declarations]
  names := by simp only [Generator.add, hsame.names]

theorem after_declare (hsame : generator.SameButLog other) (declaration : Declaration) :
    (generator.after (.declare declaration)).SameButLog (other.after (.declare declaration)) := by
  simp only [Generator.after, hsame.names]
  split
  · exact ((hsame.record _).symm.record _).symm.add declaration
  · exact hsame.add declaration

end Generator.SameButLog

/-- Two runs with the same outcome, and generators after them that differ in their logs at most. -/
def SameRun {α : Type} (run other : Except RepeatedName α × Generator) : Prop :=
  run.1 = other.1 ∧ run.2.SameButLog other.2

/-- A run depends on its declarations only: the other steps may as well be left out. -/
theorem sameRun_declarations (policy : CollisionPolicy) (steps : List Step) {generator other : Generator}
    (hsame : generator.SameButLog other) :
    SameRun (runFrom (performAll policy steps) generator)
      (runFrom (performAll policy ((declarationsIn steps).map .declare)) other) := by
  induction steps generalizing generator other with
  | nil => exact ⟨rfl, hsame⟩
  | cons step steps ih =>
    cases step with
    | declare declaration =>
      have hsplit : (declarationsIn (.declare declaration :: steps)).map Step.declare =
          .declare declaration :: (declarationsIn steps).map .declare := rfl
      have hrun := runFrom_declare policy declaration generator
      have hother := runFrom_declare policy declaration other
      rw [hsplit, performAll_cons, performAll_cons, Step.perform]
      rw [hsame.names] at hrun
      by_cases hrefused : declaration.name ∈ other.names ∧ policy = .error
      · rw [if_pos hrefused] at hrun hother
        rw [runFrom_bind_of_error hrun, runFrom_bind_of_error hother]
        exact ⟨rfl, hsame⟩
      · rw [if_neg hrefused] at hrun hother
        rw [runFrom_bind_of_ok hrun, runFrom_bind_of_ok hother]
        exact ih (hsame.after_declare declaration)
    | unknownNode property node => exact ih (hsame.record (.unknownNode property node))
    | unknownType property entry => exact ih (hsame.record (.unknownType property entry))

theorem sameRun_of_declarations (policy : CollisionPolicy) {steps others : List Step}
    (generator : Generator) (hdeclarations : declarationsIn steps = declarationsIn others) :
    SameRun (runFrom (performAll policy steps) generator)
      (runFrom (performAll policy others) generator) := by
  have hfirst := sameRun_declarations policy steps (.refl generator)
  have hsecond := sameRun_declarations policy others (.refl generator)
  rw [hdeclarations] at hfirst
  exact ⟨hfirst.1.trans hsecond.1.symm, hfirst.2.trans hsecond.2.symm⟩

/-- Schemas of the same type and with the same declarations are emitted with the same outcome and leave
the same declarations. -/
theorem runFrom_emit_congr (policy : CollisionPolicy) {visit other : Visit} (generator : Generator)
    (htype : typeOf visit = typeOf other) (hdeclarations : declarationsOf visit = declarationsOf other) :
    SameRun (runFrom (visit.emit policy) generator) (runFrom (other.emit policy) generator) := by
  have hsteps : declarationsIn (script visit) = declarationsIn (script other) := by
    rw [declarationsIn_script, declarationsIn_script, hdeclarations]
  have hsame := sameRun_of_declarations policy generator hsteps
  cases hrun : runFrom (performAll policy (script visit)) generator with
  | mk outcome after =>
    cases hother : runFrom (performAll policy (script other)) generator with
    | mk outcome' after' =>
      rw [hrun, hother] at hsame
      obtain ⟨houtcome, hafter⟩ := hsame
      cases houtcome
      cases outcome with
      | ok value =>
        rw [runFrom_emit_of_ok hrun, runFrom_emit_of_ok hother, htype]
        exact ⟨rfl, hafter⟩
      | error repeated =>
        rw [runFrom_emit_of_error hrun, runFrom_emit_of_error hother]
        exact ⟨rfl, hafter⟩

end SchemaTyping.Emission
