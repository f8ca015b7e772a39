import SchemaTyping.Decode.FromText
import SchemaTyping.Emission.Types

/-!
# Converting documents

A schema document becomes a module: its definitions in reverse order, then its root. The reversal puts a
definition before those that refer to it when a document lists what depends before what it depends on;
nothing is sorted.
-/

namespace SchemaTyping.Emission

open Decode (Mismatch Found Target DocumentError)
open Json (Value Members LocatedFault)
open Schema (Node)
open Text (Location)
open Typing (TypeExpr RootAlias renderModule)

/-- The choices that a conversion leaves open. -/
structure Options where
  rootAlias : RootAlias := .bracket
  rootName : String := "root"
  collisions : CollisionPolicy := .warn
  deriving DecidableEq, Repr

inductive ConversionError where
  | malformed (fault : LocatedFault)
  /-- The document is a value of another kind than an object. -/
  | notAnObject (kind : String)
  /-- A part of the document is not what it has to be. -/
  | mismatched (mismatch : Mismatch) (location : Option Location)
  | repeatedName (name : String)
  deriving DecidableEq, Repr

def ConversionError.message : ConversionError → String
  | .malformed fault => "failed to parse JSON input: " ++ fault.message
  | .notAnObject kind => "schema document must be a JSON object, found " ++ kind
  | .mismatched mismatch location =>
    "invalid schema document at " ++ Decode.pathText mismatch.path ++ ": " ++
      Decode.mismatchText mismatch location
  | .repeatedName name => "declaration `" ++ name ++ "` is emitted more than once"

def ConversionError.ofDocument : DocumentError → ConversionError
  | .malformed fault => .malformed fault
  | .mismatched mismatch location => .mismatched mismatch location

/-- The keys that may hold a document's definitions. The first one that is there, with a value that is
not null, is read. -/
def definitionKeys : List String := ["definitions", "$defs"]

def definitionsOf? (document : Members) : Option (String × Value) :=
  definitionKeys.findSome? fun key =>
    match document.lookup key with
    | none | some .null => none
    | some value => some (key, value)

/-- A document's definitions, which have to be an object. -/
def definitions (document : Members) : Except Mismatch Members :=
  match definitionsOf? document with
  | none => .ok []
  | some (_, .object members) => .ok members
  | some (key, value) => .error (((Target.map .any).mismatch (Found.ofValue value)).within (.key key))

/-- Emits definitions in the order given, each under its key. -/
def emitDefinitions (policy : CollisionPolicy) : Members → Emit Unit
  | [] => pure ()
  | (key, value) :: rest => do
    let _ ← emit policy key (Node.ofValue value)
    emitDefinitions policy rest

/-- Emits a document's definitions, last one first, and then its root. -/
def emitDocument (options : Options) (document definitions : Members) : Emit TypeExpr := do
  emitDefinitions options.collisions definitions.reverse
  emit options.collisions options.rootName (Node.ofValue (.object document))

/-- The module of a schema document, with what was logged on the way to it or to the failure. -/
def convert (options : Options) : Value → Except ConversionError String × List Event
  | .object document =>
    match definitions document with
    | .error mismatch => (.error (.mismatched mismatch none), [])
    | .ok definitions =>
      match (emitDocument options document definitions).run.run .empty with
      | (.ok root, generator) =>
        (.ok (renderModule options.rootAlias generator.declarations root), generator.log)
      | (.error repeated, generator) => (.error (.repeatedName repeated.name), generator.log)
  | value => (.error (.notAnObject value.kind), [])

/-- The module of the schema document that a text starts with. -/
def convertText (options : Options) (text : String) : Except ConversionError String × List Event :=
  match Json.parse text with
  | .ok value => convert options value
  | .error fault => (.error (.malformed fault), [])

end SchemaTyping.Emission
