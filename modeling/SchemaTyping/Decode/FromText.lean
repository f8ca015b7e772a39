import SchemaTyping.Decode.FromValue
import SchemaTyping.Decode.Skip

/-!
# Typed reading of a text

A text is read as a target without building the value first, and the first thing wrong in reading order
wins, be it a fault in the JSON or a mismatch. A mismatched scalar is read to its end before it is
reported; a mismatched list or object is reported where it opens.
-/

namespace SchemaTyping.Decode

open Json (Value Number Members Cursor Fault LocatedFault)
open Text (Location)

inductive Failure where
  | malformed (fault : Fault)
  | mismatched (mismatch : Mismatch) (offset : Nat)
  deriving Repr

def Failure.within (step : Step) : Failure → Failure
  | .malformed fault => .malformed fault
  | .mismatched mismatch offset => .mismatched (mismatch.within step) offset

/-- A reading of JSON as a part of a typed one. -/
def lift {α : Type} (read : Except Fault α) : Except Failure α :=
  read.mapError .malformed

/-- Reports what a value shows of itself, instead of being of a target, at a cursor. -/
def refuse {α : Type} (target : Target) (found : Found) (cursor : Cursor) : Except Failure α :=
  .error (.mismatched (target.mismatch found) cursor.offset)

/-- A scalar, read to its end and then judged. A list or an object is refused before its bracket. -/
def readScalar (target : Target) (cursor : Cursor) : Except Failure (Value × Cursor) :=
  let cursor := cursor.skipBlanks
  match cursor.rest with
  | '[' :: _ => refuse target .list cursor
  | '{' :: _ => refuse target .map cursor
  | _ => do
    let (value, cursor) ← lift (Json.readValue 0 cursor)
    match target.ofValue value with
    | .ok value => .ok (value, cursor)
    | .error mismatch => .error (.mismatched mismatch cursor.offset)

/-- The end of a list that stands for a record, after the last of the record's fields. -/
def closeList (cursor : Cursor) : Except Fault (Unit × Cursor) :=
  let cursor := cursor.skipBlanks
  match cursor.rest with
  | [] => .error (cursor.lookedFault .endInList)
  | ']' :: rest => .ok ((), ⟨rest, cursor.offset + 1⟩)
  | ',' :: rest =>
    let cursor := (Cursor.mk rest (cursor.offset + 1)).skipBlanks
    match cursor.rest with
    | ']' :: _ => .error (cursor.lookedFault .trailingComma)
    | _ => .error (cursor.lookedFault .trailingCharacters)
  | _ => .error (cursor.lookedFault .trailingCharacters)

abbrev ValueReader := Cursor → Except Failure (Value × Cursor)

/-- The value of a member, after its key, taken up among the members before it. A key that has been read
before gets its new value in its old place. -/
def readMemberValue (value : ValueReader) (members : Members) (key : String) (cursor : Cursor) :
    Except Failure (Members × Cursor) := do
  let ((), cursor) ← lift (Json.readColon cursor)
  let (x, cursor) ← (value cursor).mapError (·.within (.key key))
  .ok (members.insert key x, cursor)

def readMapMember (value : ValueReader) (members : Members) (cursor : Cursor) :
    Except Failure (Members × Cursor) := do
  let (key, cursor) ← lift (Json.readString cursor)
  readMemberValue value members key cursor

/-- Where an object is left that is given up after a key: after its closing brace, if that comes next. -/
def leaveObject (cursor : Cursor) : Nat :=
  let cursor := cursor.skipBlanks
  match cursor.rest with
  | '}' :: _ => cursor.offset + 1
  | _ => cursor.offset

/-- A member of a record: the value of its field, which no earlier member may have given, or anything if
there is no field of that name. -/
def readRecordMember (field : String → Option ValueReader) (members : Members) (cursor : Cursor) :
    Except Failure (Members × Cursor) := do
  let (key, cursor) ← lift (Json.readString cursor)
  match field key with
  | none =>
    let ((), cursor) ← lift (Json.readColon cursor)
    let ((), cursor) ← lift (skipValue cursor)
    .ok (members, cursor)
  | some value =>
    if (members.lookup key).isSome then
      .error (.mismatched ⟨[], .duplicateField key⟩ (leaveObject cursor))
    else readMemberValue value members key cursor

/-- Enters a list or an object, if `depth` allows one more. -/
def enter (depth : Nat) (cursor : Cursor) (inside : Nat → ValueReader) : Except Failure (Value × Cursor) :=
  match depth with
  | 0 => .error (.malformed (cursor.lookedFault .tooDeep))
  | depth + 1 => inside depth ⟨cursor.rest.drop 1, cursor.offset + 1⟩

mutual
/-- Reads a value from a text as a target, with `depth` more lists and objects allowed. -/
def Target.read : Target → (depth : Nat) → ValueReader
  | .any, depth, cursor => lift (Json.readValue depth cursor)
  | .string, _, cursor => readScalar .string cursor
  | .bool, _, cursor => readScalar .bool cursor
  | .int64, _, cursor => readScalar .int64 cursor
  | .uint8, _, cursor => readScalar .uint8 cursor
  | .optional target, depth, cursor =>
    match cursor.skipBlanks.rest with
    | 'n' :: _ => lift (Json.readValue 0 cursor)
    | _ => target.read depth cursor
  | .list target, depth, cursor =>
    let cursor := cursor.skipBlanks
    match cursor.rest with
    | '[' :: _ =>
      enter depth cursor fun depth cursor => do
        let item (index : Nat) (cursor : Cursor) : Except Failure (Value × Cursor) :=
          (target.read depth cursor).mapError (·.within (.index index))
        let (items, cursor) ← Json.readList .malformed item cursor
        .ok (.array items, cursor)
    | _ => readScalar (.list target) cursor
  | .map target, depth, cursor =>
    let cursor := cursor.skipBlanks
    match cursor.rest with
    | '{' :: _ =>
      enter depth cursor fun depth cursor => do
        let (members, cursor) ←
          Json.readObject .malformed (readMapMember (target.read depth)) [] cursor
        .ok (.object members, cursor)
    | _ => readScalar (.map target) cursor
  | .record name fields, depth, cursor =>
    let cursor := cursor.skipBlanks
    match cursor.rest with
    | '[' :: _ =>
      enter depth cursor fun depth cursor => do
        let (members, cursor) ← readInOrder (Target.describeLength name fields) fields 0 depth cursor
        .ok (.object members, cursor)
    | '{' :: _ =>
      enter depth cursor fun depth cursor => do
        let (read, cursor) ←
          Json.readObject .malformed (readRecordMember (fieldReader fields depth)) [] cursor
        match Target.complete read fields with
        | .ok members => .ok (.object members, cursor)
        | .error mismatch => .error (.mismatched mismatch cursor.offset)
    | _ => readScalar (.record name fields) cursor

/-- What reads the member of a key from a text, if a record has a field of that name. -/
def fieldReader : List (String × Target) → (depth : Nat) → String → Option ValueReader
  | [], _, _ => none
  | (name, target) :: fields, depth, key =>
    if name = key then some (target.read depth) else fieldReader fields depth key

/-- Reads the items of a list as a record's fields from `index` on, and the closing bracket. -/
def readInOrder (expected : String) : List (String × Target) → (index depth : Nat) → Cursor →
    Except Failure (Members × Cursor)
  | [], _, _, cursor => do
    let ((), cursor) ← lift (closeList cursor)
    .ok ([], cursor)
  | (name, target) :: fields, index, depth, cursor => do
    match ← lift (Json.nextItem (index == 0) cursor) with
    | (false, cursor) => .error (.mismatched ⟨[], .invalidLength index expected⟩ cursor.offset)
    | (true, cursor) =>
      let (x, cursor) ← (target.read depth cursor).mapError (·.within (.index index))
      let (members, cursor) ← readInOrder expected fields (index + 1) depth cursor
      .ok ((name, x) :: members, cursor)
end

/-- What is wrong with a document that is read as a target. A mismatch has a place if the document was a
text. -/
inductive DocumentError where
  | malformed (fault : LocatedFault)
  | mismatched (mismatch : Mismatch) (location : Option Location)
  deriving DecidableEq, Repr

def mismatchText (mismatch : Mismatch) (location : Option Location) : String :=
  mismatch.reason.message ++
    match location with
    | some location => Json.describeLocation location
    | none => ""

def Failure.locate (text : List Char) : Failure → DocumentError
  | .malformed fault => .malformed (fault.locate text)
  | .mismatched mismatch offset => .mismatched mismatch (some (Location.ofOffset text offset))

/-- Reads the first value of a text as a target. What follows it is not looked at. -/
def ofText (target : Target) (text : String) : Except DocumentError Value :=
  match target.read Json.depthLimit (Cursor.start text.toList) with
  | .ok (value, _) => .ok value
  | .error failure => .error (failure.locate text.toList)

def ofValue (target : Target) (value : Value) : Except DocumentError Value :=
  (target.ofValue value).mapError (.mismatched · none)

end SchemaTyping.Decode
