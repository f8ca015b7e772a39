import SchemaTyping.Query.Trouble

/-!
# Filters

The form of a filter once it has been read. A string with filters in it is the sum of its parts, and an
object with several members is the sum of objects with one.
-/

namespace SchemaTyping.Query

inductive Comparison where
  | eq
  | ne
  | lt
  | le
  | gt
  | ge
  deriving DecidableEq, Repr

/-- A parameter of a definition: a filter, or a variable that stands for an output of one. -/
inductive Parameter where
  | filter (name : String)
  | value (name : String)
  deriving DecidableEq, Repr

/-- What an assignment does with the value that is there. -/
inductive Assignment where
  /-- The right side is a value for the place. -/
  | replace
  /-- The right side is a filter for the value that is there. -/
  | update
  | arithmetic (operation : Arithmetic)
  /-- The right side counts where the value that is there does not count as true. -/
  | alternative
  deriving DecidableEq, Repr

inductive Fold where
  /-- Gives the last state. The arguments are the first state and the step to the next one. -/
  | reduce
  /-- Gives every state but the first. A third argument may tell what is given of it. -/
  | foreach
  deriving DecidableEq, Repr

def Fold.word : Fold → String
  | .reduce => "reduce"
  | .foreach => "foreach"

def Fold.takes : Fold → Nat → Bool
  | .reduce, count => count = 2
  | .foreach, count => count = 2 || count = 3

mutual
inductive Filter where
  | identity
  /-- The input with all that is in it. -/
  | recurse
  | numeral (text : String)
  | string (text : String)
  /-- The outputs of a filter as strings. -/
  | asText (filter : Filter)
  | emptyArray
  | array (items : Filter)
  | emptyObject
  | member (key value : Filter)
  /-- An object with the member that the input has under a key. -/
  | ownMember (key : Filter)
  | negate (filter : Filter)
  | pipe (left right : Filter)
  /-- The right filter with a variable for each output of the left one. -/
  | bind (left : Filter) (name : String) (right : Filter)
  | comma (left right : Filter)
  | assign (kind : Assignment) (path right : Filter)
  | alternative (left right : Filter)
  | either (left right : Filter)
  | both (left right : Filter)
  | compare (comparison : Comparison) (left right : Filter)
  | calculate (operation : Arithmetic) (left right : Filter)
  | ifElse (condition onTrue onFalse : Filter)
  /-- The outputs up to a failure. -/
  | attempt (filter : Filter)
  /-- The outputs up to a failure, and what the handler makes of the failure. -/
  | tryCatch (filter handler : Filter)
  /-- Goes through the outputs of a source with a state. The arguments tell how; their number has to
  suit. -/
  | fold (kind : Fold) (source : Filter) (name : String) (arguments : List Filter)
  | label (name : String) (filter : Filter)
  | breakTo (name : String)
  | define (name : String) (parameters : List Parameter) (body rest : Filter)
  | call (name : String) (arguments : List Filter)
  | variable (name : String)
  /-- Steps from each output of a filter. A step marked `true` may fail without harm. -/
  | path (source : Filter) (steps : List (Step × Bool))

/-- A step of a path. What it needs is computed from the input of the whole path. -/
inductive Step where
  | each
  | index (key : Filter)
  | sliceFrom (start : Filter)
  | sliceTo (stop : Filter)
  | slice (start stop : Filter)
end

deriving instance Repr for Filter, Step
deriving instance Inhabited for Filter, Step

structure Definition where
  name : String
  parameters : List Parameter
  body : Filter
  deriving Repr

end SchemaTyping.Query
