import SchemaTyping.Emission.Generator
import SchemaTyping.Schema.Node
import SchemaTyping.Text.Case

/-!
# The types of schemas

The type of a schema, by its shape. Objects and enumerations are declared, under the capitalised name of
the property they stand under; lists and unions pass the name on to what they hold. A declaration comes
after those of its parts, so apart from references every name is declared before it is used. A schema
that nothing is known about is `Any`, with a warning.
-/

namespace SchemaTyping.Emission

open Json (Value)
open Schema (Node Primitive)
open Text (capitalize)
open Typing (TypeExpr Field Declaration Body quoteLiteral)

/-- The characters after the last slash, or all if there is none. -/
def afterLastSlash (pointer : List Char) : List Char :=
  (pointer.reverse.takeWhile (· ≠ '/')).reverse

/-- The name that a reference asks for: the last part of its pointer. -/
def referenceName (pointer : String) : String :=
  String.ofList (afterLastSlash pointer.toList)

/-- The type of an entry in a list of types. -/
def entryType (property : String) (entry : Value) : Emit TypeExpr :=
  let primitive? :=
    match entry with
    | .string name => Primitive.ofName? name
    | _ => none
  match primitive? with
  | some type => pure (.primitive type)
  | none => do
    logEvent (.unknownType property entry)
    pure .any

def entryTypes (property : String) : List Value → Emit (List TypeExpr)
  | [] => pure []
  | entry :: entries => do
    let type ← entryType property entry
    let types ← entryTypes property entries
    pure (type :: types)

mutual
/-- The type of a schema that stands under a property, after declaring what it needs. -/
def emit (policy : CollisionPolicy) (property : String) : Node → Emit TypeExpr
  | .any => pure .any
  | .literal values => do
    declare policy ⟨capitalize property, .literal (values.map quoteLiteral)⟩
    pure (.declared (capitalize property))
  | .reference pointer => pure (.reference (referenceName pointer))
  | .record properties required => do
    let fields ← emitFields policy required properties
    declare policy ⟨capitalize property, .record fields⟩
    pure (.declared (capitalize property))
  | .anyList => pure (.list .any)
  | .list item => do
    let type ← emit policy property item
    pure (.list type)
  | .union alternatives => do
    let arms ← emitAll policy property alternatives
    pure (.union arms)
  | .primitive type => pure (.primitive type)
  | .types names => do
    let arms ← entryTypes property names
    pure (.union arms)
  | .unrecognized value => do
    logEvent (.unknownNode property value)
    pure .any

/-- The fields of an object's properties, each emitted under its own key. -/
def emitFields (policy : CollisionPolicy) (required : List String) : List (String × Node) → Emit (List Field)
  | [] => pure []
  | (key, node) :: rest => do
    let type ← emit policy key node
    let fields ← emitFields policy required rest
    pure (⟨key, type, required.contains key⟩ :: fields)

def emitAll (policy : CollisionPolicy) (property : String) : List Node → Emit (List TypeExpr)
  | [] => pure []
  | node :: rest => do
    let type ← emit policy property node
    let types ← emitAll policy property rest
    pure (type :: types)
end

end SchemaTyping.Emission
