import SchemaTyping.Command.Arguments
import SchemaTyping.Json.Pointer
import SchemaTyping.Query.Run

/-!
# Selecting a node

The node of a document that arguments ask for: the one that a pointer leads to, or the output of a query,
or, where both are given, the output of the query for the node that the pointer leads to.
-/

namespace SchemaTyping.Command

open Json (Value)
open Query (QueryError runQueryForOne)

inductive SelectionError where
  | unmatchedPointer (pointer : String)
  | failedQuery (expression : String) (error : QueryError)
  deriving Repr

def SelectionError.message : SelectionError → String
  | .unmatchedPointer pointer => "JSON pointer `" ++ pointer ++ "` does not match any node"
  | .failedQuery expression error => "applying jq expression `" ++ expression ++ "`: " ++ error.message

/-- The node that a pointer leads to, or the document itself if there is no pointer. -/
def point (pointer : Option String) (document : Value) : Except SelectionError Value :=
  match pointer with
  | none => .ok document
  | some pointer =>
    match document.pointer? pointer with
    | some node => .ok node
    | none => .error (.unmatchedPointer pointer)

/-- The one output of a query for a node, or the node itself if there is no query. -/
def refine (expression : Option String) (node : Value) : Except SelectionError Value :=
  match expression with
  | none => .ok node
  | some expression => (runQueryForOne expression node).mapError (.failedQuery expression)

/-- The node of a document that arguments ask for. -/
def select (arguments : Arguments) (document : Value) : Except SelectionError Value := do
  refine arguments.jqExpr (← point arguments.jsonPointer document)

end SchemaTyping.Command
