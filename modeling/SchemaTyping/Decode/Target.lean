import SchemaTyping.Decimal.Layout
import SchemaTyping.Json.Printer
import SchemaTyping.Text.Quoted

/-!
# What a document is expected to be

A `Target` describes the values that a typed reading accepts. A value that is JSON and not of its target
is a mismatch: where in the document it was met, what was found, and what was expected there.
-/

namespace SchemaTyping.Decode

open Json (Value Number Members)

/-- The kinds of value a typed reading can ask for. -/
inductive Target where
  | any
  | string
  | bool
  /-- An integer of 64 bits with a sign. -/
  | int64
  /-- An integer from 0 to 255. -/
  | uint8
  /-- A value, or `null` for its absence. -/
  | optional (value : Target)
  | list (item : Target)
  | map (value : Target)
  /-- An object with named fields, or a list of the fields' values in order. -/
  | record (name : String) (fields : List (String × Target))
  deriving Repr

inductive Step where
  | key (key : String)
  | index (index : Nat)
  deriving DecidableEq, Repr

abbrev Path := List Step

def natText (n : Nat) : String :=
  String.ofList (Decimal.natChars n)

/-- A path's steps, with a point before each key but one that starts the path. -/
def pathTail : Path → String
  | [] => ""
  | .key key :: rest => "." ++ key ++ pathTail rest
  | .index i :: rest => "[" ++ natText i ++ "]" ++ pathTail rest

/-- A path as messages give it, where a lone point stands for the root. -/
def pathText : Path → String
  | [] => "."
  | .key key :: rest => key ++ pathTail rest
  | .index i :: rest => "[" ++ natText i ++ "]" ++ pathTail rest

/-- What a mismatch found, as far as its message tells. -/
inductive Found where
  | null
  | bool (value : Bool)
  | number (value : Number)
  | string (text : String)
  | list
  | map
  deriving DecidableEq, Repr

def Found.ofValue : Value → Found
  | .null => .null
  | .bool b => .bool b
  | .number n => .number n
  | .string s => .string s
  | .array _ => .list
  | .object _ => .map

def Found.describe : Found → String
  | .null => "null"
  | .bool b => "boolean `" ++ (if b then "true" else "false") ++ "`"
  | .number (.int i) => "integer `" ++ String.ofList (Decimal.intChars i) ++ "`"
  | .number (.float x) => "floating point `" ++ String.ofList (Number.float x).chars ++ "`"
  | .string s => "string " ++ Text.quoteVisible s
  | .list => "sequence"
  | .map => "map"

inductive Reason where
  | invalidType (found : Found) (expected : String)
  | invalidValue (found : Found) (expected : String)
  /-- A list with too many items, or too few, for a record. -/
  | invalidLength (length : Nat) (expected : String)
  | missingField (name : String)
  | duplicateField (name : String)
  deriving DecidableEq, Repr

def Reason.message : Reason → String
  | .invalidType found expected => "invalid type: " ++ found.describe ++ ", expected " ++ expected
  | .invalidValue found expected => "invalid value: " ++ found.describe ++ ", expected " ++ expected
  | .invalidLength length expected => "invalid length " ++ natText length ++ ", expected " ++ expected
  | .missingField name => "missing field `" ++ name ++ "`"
  | .duplicateField name => "duplicate field `" ++ name ++ "`"

structure Mismatch where
  path : Path
  reason : Reason
  deriving DecidableEq, Repr

def Mismatch.within (step : Step) (mismatch : Mismatch) : Mismatch :=
  ⟨step :: mismatch.path, mismatch.reason⟩

namespace Target

def describe : Target → String
  | any => "any value"
  | string => "a string"
  | bool => "a boolean"
  | int64 => "i64"
  | uint8 => "u8"
  | optional _ => "an option"
  | list _ => "a sequence"
  | map _ => "a map"
  | record name _ => "struct " ++ name

def describeLength (name : String) (fields : List (String × Target)) : String :=
  "struct " ++ name ++ " with " ++ natText fields.length ++
    (if fields.length = 1 then " element" else " elements")

/-- Whether a record may leave a field of this target out. -/
def isOptional : Target → Bool
  | optional _ => true
  | _ => false

/-- Why a found value that is no list and no object is not of a target. -/
def mismatch (target : Target) (found : Found) : Mismatch :=
  ⟨[], .invalidType found target.describe⟩

def intWithin (low high : Int) (target : Target) (n : Number) : Except Mismatch Value :=
  match n with
  | .int i =>
    if low ≤ i ∧ i ≤ high then .ok (.number n)
    else .error ⟨[], .invalidValue (.number n) target.describe⟩
  | .float _ => .error (target.mismatch (.number n))

/-- A record's members in the order of its fields. A field that is not there is `null` if it is optional,
and the first that is neither is missing. -/
def complete (read : Members) : List (String × Target) → Except Mismatch Members
  | [] => .ok []
  | (name, target) :: fields => do
    let value ←
      match read.lookup name with
      | some value => .ok value
      | none => if target.isOptional then .ok .null else .error ⟨[], .missingField name⟩
    let members ← complete read fields
    .ok ((name, value) :: members)

end Target

def stringMap : Target := .map .string

def integerLists : Target := .map (.list .int64)

/-- A document of which only the definitions matter. -/
def definitionsRecord : Target := .record "Defs" [("definitions", .map .any)]

/-- A record with a field of each kind: required, repeated, optional, and optional with structure. -/
def profileRecord : Target :=
  .record "Profile"
    [("name", .string), ("tags", .list .string), ("limit", .optional .uint8),
      ("nested", .optional (.map (.list .bool)))]

end SchemaTyping.Decode
