import SchemaTyping.Emission.Event
import SchemaTyping.Typing.Declaration

/-!
# Generating declarations

Schemas are turned into types one after the other, and the declarations that they need gather in the
order in which they come up. Two schemas may ask for one name. The policy then says whether both are
declared, with a warning, or the run fails; a failed run keeps what was declared before.
-/

namespace SchemaTyping.Emission

open Typing (Declaration)

/-- What happens when a name is declared a second time. -/
inductive CollisionPolicy where
  /-- Both declarations are kept, and the log says so. -/
  | warn
  /-- The second declaration fails. -/
  | error
  deriving DecidableEq, Repr

/-- What has been declared so far, the names in use, and the log. -/
structure Generator where
  declarations : List Declaration
  names : List String
  log : List Event
  deriving Repr

def Generator.empty : Generator := ⟨[], [], []⟩

/-- A name that was to be declared a second time under the strict policy. -/
structure RepeatedName where
  name : String
  deriving DecidableEq, Repr

/-- A step of a run, which changes the generator and may fail. What it changed before it failed stays
changed. -/
abbrev Emit (α : Type) := ExceptT RepeatedName (StateM Generator) α

def Generator.record (generator : Generator) (event : Event) : Generator :=
  { generator with log := generator.log ++ [event] }

/-- Adds a declaration, its name and its event. -/
def Generator.add (generator : Generator) (declaration : Declaration) : Generator :=
  { declarations := generator.declarations ++ [declaration]
    names :=
      if declaration.name ∈ generator.names then generator.names else declaration.name :: generator.names
    log := generator.log ++ [.declared declaration.name] }

def logEvent (event : Event) : Emit Unit :=
  modify (·.record event)

/-- Declares a name, in the way the policy says if it is in use. -/
def declare (policy : CollisionPolicy) (declaration : Declaration) : Emit Unit := do
  if declaration.name ∈ (← get).names then
    match policy with
    | .warn => logEvent (.repeatedName declaration.name)
    | .error => throw ⟨declaration.name⟩
  modify (·.add declaration)

end SchemaTyping.Emission
