import SchemaTyping.Json.Value

/-!
# The shape of a schema node

A schema node has no tag. Its shape is told from the keys it has, and since a node may have keys of
several shapes the keys are looked at in a fixed order: `enum`, `$ref`, the type `object`, the type
`array`, `anyOf`, a primitive type, a list of types. The first one that is there decides, and if its
value is not of the right kind the node is not recognised, whatever other keys it has.
-/

namespace SchemaTyping.Schema

open Json (Value Members)

inductive Primitive where
  | string
  | integer
  | boolean
  | number
  | null
  deriving DecidableEq, Repr

namespace Primitive

def name : Primitive → String
  | string => "string"
  | integer => "integer"
  | boolean => "boolean"
  | number => "number"
  | null => "null"

/-- The type that a schema names. Names are matched exactly. -/
def ofName? (name : String) : Option Primitive :=
  [string, integer, boolean, number, null].find? (·.name = name)

def pythonName : Primitive → String
  | string => "str"
  | integer => "int"
  | boolean => "bool"
  | number => "float"
  | null => "None"

end Primitive

/-- What kind of schema a node is, with the parts that matter for that kind. -/
inductive Shape where
  /-- No constraint: `null`, a boolean, or no key at all. -/
  | empty
  | enum (values : List Value)
  | reference (pointer : String)
  | object (properties : Option Members) (required : List String)
  | array (items : Option Value)
  | anyOf (alternatives : List Value)
  | primitive (type : Primitive)
  /-- A list of type names. -/
  | types (names : List Value)
  | unrecognized
  deriving DecidableEq, Repr

/-- The strings of a list, each at its first place only. -/
def distinctStrings (values : List Value) : List String :=
  values.foldl
    (fun found value =>
      match value with
      | .string s => if s ∈ found then found else found ++ [s]
      | _ => found)
    []

def requiredNames (members : Members) : List String :=
  match members.lookup "required" with
  | some (.array values) => distinctStrings values
  | _ => []

def properties? (members : Members) : Option Members :=
  match members.lookup "properties" with
  | some (.object properties) => some properties
  | _ => none

/-- The shape of a node whose type is neither `object` nor `array`. -/
def classifyType (members : Members) : Shape :=
  match members.lookup "anyOf" with
  | some (.array alternatives) => .anyOf alternatives
  | some _ => .unrecognized
  | none =>
    match members.lookup "type" with
    | some (.string name) =>
      match Primitive.ofName? name with
      | some type => .primitive type
      | none => .unrecognized
    | some (.array names) => .types names
    | _ => .unrecognized

def classifyMembers (members : Members) : Shape :=
  match members.lookup "enum" with
  | some (.array values) => .enum values
  | some _ => .unrecognized
  | none =>
    match members.lookup "$ref" with
    | some (.string pointer) => .reference pointer
    | some _ => .unrecognized
    | none =>
      if members.lookup "type" = some (.string "object") then
        .object (properties? members) (requiredNames members)
      else if members.lookup "type" = some (.string "array") then .array (members.lookup "items")
      else classifyType members

def classify : Value → Shape
  | .null | .bool _ | .object [] => .empty
  | .object members => classifyMembers members
  | _ => .unrecognized

end SchemaTyping.Schema
