import SchemaTyping.Command.Arguments
import SchemaTyping.Proofs.Json.Reading

/-!
# What the arguments of a call can be

The arguments of a call are the defaults with the values of flags taken up one after the other. What
holds of the defaults and is kept whenever a value is taken up holds of the arguments of every call
(`holds_of_parse`). So no call asks for an output with an empty path.
-/

namespace SchemaTyping.Command

open Json (exists_of_bind_ok)

/-- Taking up the value of a flag keeps what holds of arguments. -/
def KeptBySet (holds : Arguments → Prop) : Prop :=
  ∀ {arguments after : Arguments} {flag : Flag} {value : String}, holds arguments →
    arguments.set flag value = .ok after → holds after

section

variable {holds : Arguments → Prop} (hset : KeptBySet holds) {progress after : Progress}

include hset

theorem holds_of_assign {flag : Flag} {value : String} (hprogress : holds progress.arguments)
    (hassign : progress.assign flag value = .ok after) : holds after.arguments := by
  unfold Progress.assign at hassign
  split at hassign
  · cases hassign
  · obtain ⟨arguments, hvalue, hassign⟩ := exists_of_bind_ok hassign
    cases hassign
    exact hset hprogress hvalue

theorem holds_of_settle (hprogress : holds progress.arguments) (hsettle : progress.settle = .ok after) :
    holds after.arguments := by
  unfold Progress.settle at hsettle
  split at hsettle
  · cases hsettle
    exact hprogress
  · cases hsettle
  · exact holds_of_assign hset hprogress hsettle

theorem holds_of_mark {flag : Flag} {long : Bool} (hprogress : holds progress.arguments)
    (hmark : progress.mark flag long = .ok after) :
    holds after.arguments := by
  obtain ⟨settled, hsettle, hmark⟩ := exists_of_bind_ok hmark
  have hsettled := holds_of_settle hset hprogress hsettle
  split at hmark
  · cases hmark
  · cases hmark
  · exact holds_of_assign hset hsettled hmark

theorem holds_of_expect {flag : Flag} {attached : Option String} (hprogress : holds progress.arguments)
    (hexpect : progress.expect flag attached = .ok after) : holds after.arguments := by
  obtain ⟨settled, hsettle, hexpect⟩ := exists_of_bind_ok hexpect
  have hsettled := holds_of_settle hset hprogress hsettle
  split at hexpect
  · exact holds_of_assign hset hsettled hexpect
  · cases hexpect
    exact hsettled

theorem holds_of_readLong {body : List Char} (hprogress : holds progress.arguments)
    (hread : progress.readLong body = .ok after) :
    holds after.arguments := by
  unfold Progress.readLong at hread
  extract_lets name attached at hread
  split at hread
  · cases hread
  · split at hread
    · exact holds_of_expect hset hprogress hread
    · split at hread
      · cases hread
      · exact holds_of_mark hset hprogress hread

theorem holds_of_readShort {letters : List Char} (hprogress : holds progress.arguments)
    (hread : progress.readShort letters = .ok after) :
    holds after.arguments := by
  induction letters generalizing progress with
  | nil =>
    cases hread
    exact hprogress
  | cons letter rest ih =>
    rw [Progress.readShort] at hread
    split at hread
    · cases hread
    · split at hread
      · split at hread
        · exact holds_of_expect hset hprogress hread
        · exact holds_of_expect hset hprogress hread
        · exact holds_of_expect hset hprogress hread
      · obtain ⟨marked, hmark, hread⟩ := exists_of_bind_ok hread
        exact ih (holds_of_mark hset hprogress hmark) hread

theorem holds_of_readAll {call : List String} (hprogress : holds progress.arguments)
    (hread : progress.readAll call = .ok after) :
    holds after.arguments := by
  induction call generalizing progress with
  | nil =>
    cases hread
    exact hprogress
  | cons argument rest ih =>
    rw [Progress.readAll] at hread
    split at hread
    · split at hread
      · cases hread
        exact hprogress
      · cases hread
    · obtain ⟨next, hlong, hread⟩ := exists_of_bind_ok hread
      exact ih (holds_of_readLong hset hprogress hlong) hread
    · obtain ⟨next, hshort, hread⟩ := exists_of_bind_ok hread
      exact ih (holds_of_readShort hset hprogress hshort) hread
    · obtain ⟨next, hvalue, hread⟩ := exists_of_bind_ok hread
      refine ih ?_ hread
      unfold Progress.readValue at hvalue
      split at hvalue
      · cases hvalue
        exact hprogress
      · cases hvalue

/-- What holds of the defaults and is kept when a value is taken up holds of the arguments of a call. -/
theorem holds_of_parse {call : List String} {arguments : Arguments} (hdefault : holds {})
    (hparse : Arguments.parse call = .ok arguments) :
    holds arguments := by
  obtain ⟨progress, hread, hparse⟩ := exists_of_bind_ok hparse
  obtain ⟨settled, hsettle, hparse⟩ := exists_of_bind_ok hparse
  cases hparse
  exact holds_of_settle hset (holds_of_readAll hset hdefault hread) hsettle

end

theorem keptBySet_output : KeptBySet fun arguments => arguments.output ≠ some "" := by
  intro arguments after flag value hbefore hset
  cases flag with
  | input =>
    obtain ⟨path, hpath, hset⟩ := exists_of_bind_ok hset
    cases hset
    exact hbefore
  | output =>
    obtain ⟨path, hpath, hset⟩ := exists_of_bind_ok hset
    cases hset
    unfold nonEmpty at hpath
    split at hpath
    · cases hpath
    · rename_i hvalue
      cases hpath
      exact fun hempty => hvalue (Option.some.inj hempty)
  | rootAlias =>
    unfold Arguments.set at hset
    simp only at hset
    split at hset
    · cases hset
      exact hbefore
    · cases hset
  | _ =>
    cases hset
    exact hbefore

theorem output_ne_empty_of_parse {call : List String} {arguments : Arguments}
    (hparse : Arguments.parse call = .ok arguments) :
    arguments.output ≠ some "" :=
  holds_of_parse keptBySet_output nofun hparse

end SchemaTyping.Command
