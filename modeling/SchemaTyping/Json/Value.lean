/-!
# JSON values

A JSON document as a tree. An object lists its members in the order in which their keys were first
written, and no operation here gives a key a second place: writing a key again changes the value where it
stands. Integers are kept apart from doubles, because they print differently and a reader of integers
refuses a double.
-/

namespace SchemaTyping.Json

/-- A number, either written as an integer that fits 64 bits or a double. -/
inductive Number where
  | int (value : Int)
  | float (value : Float)
  deriving DecidableEq, Repr

inductive Value where
  | null
  | bool (value : Bool)
  | number (value : Number)
  | string (text : String)
  | array (items : List Value)
  | object (members : List (String × Value))
  deriving Repr

/-- The members of an object, in order. -/
abbrev Members := List (String × Value)

instance : Inhabited Value := ⟨.null⟩

mutual
def Value.same : Value → Value → Bool
  | .null, .null => true
  | .bool a, .bool b => a == b
  | .number a, .number b => decide (a = b)
  | .string a, .string b => a == b
  | .array a, .array b => sameItems a b
  | .object a, .object b => sameMembers a b
  | _, _ => false

def sameItems : List Value → List Value → Bool
  | [], [] => true
  | a :: as, b :: bs => a.same b && sameItems as bs
  | _, _ => false

def sameMembers : Members → Members → Bool
  | [], [] => true
  | (k, a) :: as, (l, b) :: bs => k == l && a.same b && sameMembers as bs
  | _, _ => false
end

mutual
theorem Value.same_iff : (a b : Value) → (a.same b = true ↔ a = b)
  | .null, b => by cases b <;> simp [Value.same]
  | .bool _, b => by cases b <;> simp [Value.same]
  | .number _, b => by cases b <;> simp [Value.same]
  | .string _, b => by cases b <;> simp [Value.same]
  | .array as, b => by cases b <;> simp [Value.same, sameItems_iff as]
  | .object as, b => by cases b <;> simp [Value.same, sameMembers_iff as]

theorem sameItems_iff : (as bs : List Value) → (sameItems as bs = true ↔ as = bs)
  | [], bs => by cases bs <;> simp [sameItems]
  | a :: as, bs => by cases bs <;> simp [sameItems, Value.same_iff a, sameItems_iff as]

theorem sameMembers_iff : (as bs : Members) → (sameMembers as bs = true ↔ as = bs)
  | [], bs => by cases bs <;> simp [sameMembers]
  | (k, a) :: as, bs => by
    cases bs <;> simp [sameMembers, Value.same_iff a, sameMembers_iff as, Prod.ext_iff]
end

instance : DecidableEq Value := fun a b => decidable_of_iff _ (Value.same_iff a b)

namespace Members

/-- Gives a key a value: in its place if it has one, else at the end. -/
def insert : Members → String → Value → Members
  | [], key, value => [(key, value)]
  | (k, v) :: rest, key, value =>
    if k = key then (k, value) :: rest else (k, v) :: insert rest key value

/-- The members that remain of a list in which keys may repeat: each key at its first place with its
last value. -/
def collapse (written : Members) : Members :=
  written.foldl (fun members (key, value) => members.insert key value) []

end Members

def Value.kind : Value → String
  | .null => "null"
  | .bool _ => "a boolean"
  | .number _ => "a number"
  | .string _ => "a string"
  | .array _ => "an array"
  | .object _ => "an object"

end SchemaTyping.Json
