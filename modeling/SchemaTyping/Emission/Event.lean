import SchemaTyping.Json.Printer

/-!
# What a run logs

Each declaration is logged, for those who look for it, and so is everything in a schema that was given up
on, as a warning. An event has a level, a message and one field that says which name or property it is
about.
-/

namespace SchemaTyping.Emission

open Json (Value)

inductive Level where
  | debug
  | warn
  deriving DecidableEq, Repr

inductive Event where
  | declared (name : String)
  | repeatedName (name : String)
  /-- A node of no known shape, met under a property. -/
  | unknownNode (property : String) (node : Value)
  /-- An entry of a list of types that names no type, met under a property. -/
  | unknownType (property : String) (entry : Value)
  deriving DecidableEq, Repr

inductive Subject where
  | name (name : String)
  | property (property : String)
  deriving DecidableEq, Repr

namespace Event

/-- An event's level: what was given up on is a warning. -/
def level : Event → Level
  | declared _ => .debug
  | repeatedName _ | unknownNode _ _ | unknownType _ _ => .warn

def message : Event → String
  | declared _ => "declare"
  | repeatedName _ => "declaration name emitted more than once"
  | unknownNode _ node => "unknown schema node " ++ node.render ++ ", using Any"
  | unknownType _ entry => "unknown type name " ++ entry.render ++ " in type list, using Any"

def subject : Event → Subject
  | declared name | repeatedName name => .name name
  | unknownNode property _ | unknownType property _ => .property property

end Event

end SchemaTyping.Emission
