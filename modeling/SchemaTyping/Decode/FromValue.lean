import SchemaTyping.Decode.Target

/-!
# Typed reading of a value

A value is read as a target by walking both together. The first mismatch in the order of the document is
the one reported, except that a record's missing fields are looked for after all of its members.
-/

namespace SchemaTyping.Decode

open Json (Value Number Members)

def readEach (item : Value → Except Mismatch Value) : (index : Nat) → List Value → Except Mismatch (List Value)
  | _, [] => .ok []
  | index, value :: values => do
    let x ← (item value).mapError (·.within (.index index))
    let xs ← readEach item (index + 1) values
    .ok (x :: xs)

def readEachMember (item : Value → Except Mismatch Value) : Members → Except Mismatch Members
  | [] => .ok []
  | (key, value) :: members => do
    let x ← (item value).mapError (·.within (.key key))
    let xs ← readEachMember item members
    .ok ((key, x) :: xs)

/-- Reads the members whose keys a record has fields for, and passes over the others. -/
def readKnown (field : String → Option (Value → Except Mismatch Value)) : Members → Except Mismatch Members
  | [] => .ok []
  | (key, value) :: members =>
    match field key with
    | none => readKnown field members
    | some read => do
      let x ← (read value).mapError (·.within (.key key))
      let xs ← readKnown field members
      .ok ((key, x) :: xs)

mutual
def Target.ofValue : Target → Value → Except Mismatch Value
  | .any, value => .ok value
  | .string, .string s => .ok (.string s)
  | .bool, .bool b => .ok (.bool b)
  | .int64, .number n => Target.int64.intWithin (-0x8000000000000000) 0x7fffffffffffffff n
  | .uint8, .number n => Target.uint8.intWithin 0 255 n
  | .optional _, .null => .ok .null
  | .optional target, value => target.ofValue value
  | .list target, .array items => do
    let values ← readEach target.ofValue 0 items
    .ok (.array values)
  | .map target, .object members => do
    let values ← readEachMember target.ofValue members
    .ok (.object values)
  | .record _ fields, .object members => do
    let read ← readKnown (fieldOfValue fields) members
    let values ← Target.complete read fields
    .ok (.object values)
  | .record name fields, .array items => do
    let values ← fieldsOfItems (Target.describeLength name fields) 0 items.length fields items
    .ok (.object values)
  | target, value => .error (target.mismatch (Found.ofValue value))

/-- How a record reads the member of a key, if it has a field of that name. -/
def fieldOfValue : List (String × Target) → String → Option (Value → Except Mismatch Value)
  | [], _ => none
  | (name, target) :: fields, key => if name = key then some target.ofValue else fieldOfValue fields key

/-- Reads a list's items as a record's fields from `index` on, of `length` items in all. -/
def fieldsOfItems (expected : String) (index length : Nat) :
    List (String × Target) → List Value → Except Mismatch Members
  | [], [] => .ok []
  | [], _ :: _ => .error ⟨[], .invalidLength length "fewer elements in array"⟩
  | _ :: _, [] => .error ⟨[], .invalidLength index expected⟩
  | (name, target) :: fields, value :: values => do
    let x ← (target.ofValue value).mapError (·.within (.index index))
    let xs ← fieldsOfItems expected (index + 1) length fields values
    .ok ((name, x) :: xs)
end

end SchemaTyping.Decode
