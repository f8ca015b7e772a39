import SchemaTyping.Json.Reader
import SchemaTyping.Query.Evaluation

/-!
# Queries

A query is the text of a filter with a JSON document for its input. Its outputs are printed and read
back, so they are JSON as any text is. The first thing that goes wrong, in the text, in the run or in
reading an output back, is the query's failure.
-/

namespace SchemaTyping.Query

open Json (Value LocatedFault)

inductive QueryError where
  | notAFilter
  | unknownNames (names : List Unknown) (text : String)
  | halted (reason : Halt)
  /-- An output's text is not read as JSON. -/
  | unreadable (fault : LocatedFault)
  | wrongCount (count : Nat)
  deriving Repr

def Unknown.line (text : String) (unknown : Unknown) : String :=
  let report (name kind : String) : String := "undefined `" ++ name ++ "`: " ++ kind ++ " in `" ++ text ++ "`\n"
  match unknown with
  | .filter name arity => report name ("Filter(" ++ String.ofList (Decimal.natChars arity) ++ ")")
  | .variable name => report ("$" ++ name) "Var"
  | .label name => report ("$" ++ name) "Label"

def QueryError.message : QueryError → String
  | .notAFilter => "jq filter failed: the expression is not a filter"
  | .unknownNames names text => "jq filter failed: " ++ String.join (names.map (Unknown.line text))
  | .halted (.failed trouble) => "jq filter failed: " ++ trouble.message
  | .halted (.broken _) => "jq filter failed: a break leads to no label"
  | .halted .exhausted => "jq filter failed: too many steps"
  | .unreadable fault => "jq filter failed: filter output is not JSON: " ++ fault.message
  | .wrongCount count =>
    "jq filter produced " ++ String.ofList (Decimal.natChars count) ++ " documents, expected exactly one"

/-- The filter that a text writes, with all its names known. -/
def compile (text : String) : Except QueryError Filter :=
  match Filter.parse? text with
  | none => .error .notAFilter
  | some filter =>
    match filter.unknown Names.empty with
    | [] => .ok filter
    | names => .error (.unknownNames names text)

/-- The documents that outputs print as, after those that are given, last one first. -/
def documentsAfter (found : List Value) : Outputs Datum → Except QueryError (List Value)
  | .done => .ok found.reverse
  | .halt reason => .error (.halted reason)
  | .item x rest =>
    match Json.parse x.render with
    | .ok value => documentsAfter (value :: found) (rest ())
    | .error fault => .error (.unreadable fault)

def runQuery (text : String) (input : Value) : Except QueryError (List Value) := do
  let filter ← compile text
  documentsAfter [] (filter.outputs (.ofJson input))

/-- The output of a query that has to have exactly one. -/
def runQueryForOne (text : String) (input : Value) : Except QueryError Value := do
  match ← runQuery text input with
  | [value] => .ok value
  | values => .error (.wrongCount values.length)

end SchemaTyping.Query
