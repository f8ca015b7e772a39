import SchemaTyping.Query.Datum

/-!
# What goes wrong in a filter

A filter fails by raising a value of its own, or because an operation is not defined on the values it
meets. Either way there is a value for whoever catches the failure: the one raised, or a text that names
the operation and the values.
-/

namespace SchemaTyping.Query

inductive Arithmetic where
  | add
  | sub
  | mul
  | div
  | rem
  deriving DecidableEq, Repr

def Arithmetic.sign : Arithmetic → String
  | .add => "+"
  | .sub => "-"
  | .mul => "*"
  | .div => "/"
  | .rem => "%"

inductive Kind where
  | integer
  | number
  | string
  | array
  /-- Something with items or members. -/
  | iterable
  /-- Something that slices are taken of. -/
  | rangeable
  deriving DecidableEq, Repr

def Kind.name : Kind → String
  | .integer => "integer"
  | .number => "number"
  | .string => "string"
  | .array => "array"
  | .iterable => "iterable (array or object)"
  | .rangeable => "rangeable (array or string)"

inductive Trouble where
  /-- A value raised by the filter itself. -/
  | raised (value : Datum)
  | notUsable (value : Datum) (kind : Kind)
  | notCalculable (left : Datum) (operation : Arithmetic) (right : Datum)
  | notIndexable (value index : Datum)
  | outOfBounds (index : Int)
  | noLength (value : Datum)
  /-- A filter that is to be updated leads to no place in its input. -/
  | notAPath
  deriving Repr

/-- The wording of a failure, for one that has words. -/
def Trouble.message : Trouble → String
  | .raised value => value.render
  | .notUsable value kind => "cannot use " ++ value.render ++ " as " ++ kind.name
  | .notCalculable left operation right =>
    "cannot calculate " ++ left.render ++ " " ++ operation.sign ++ " " ++ right.render
  | .notIndexable value index => "cannot index " ++ value.render ++ " with " ++ index.render
  | .outOfBounds index => "index " ++ String.ofList (Decimal.intChars index) ++ " out of bounds"
  | .noLength value => value.render ++ " has no length"
  | .notAPath => "invalid path expression"

def Trouble.caught : Trouble → Datum
  | .raised value => value
  | trouble => .string trouble.message

end SchemaTyping.Query
