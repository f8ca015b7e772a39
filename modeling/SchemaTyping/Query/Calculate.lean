import SchemaTyping.Query.Order
import SchemaTyping.Query.Trouble

/-!
# Calculating

The operators of arithmetic on values of every type: numbers are calculated with, strings and lists are
joined, repeated, split and taken from one another, objects are merged. A list or an object that comes of
it is made at the place of the calculation.
-/

namespace SchemaTyping.Query

/-- What is left of a double after dividing it by another toward zero. It has the sign of the
dividend. -/
def floatRemainder (x y : Float) : Float :=
  if x.isNaN ∨ y.isNaN ∨ x.isInf ∨ y == 0 then 0 / 0
  else if y.isInf then x
  else
    let a := Decimal.Magnitude.ofFloat x
    let b := Decimal.Magnitude.ofFloat y
    let exponent := min a.exponent b.exponent
    let left := a.mantissa * Decimal.powerNum 2 (a.exponent - exponent)
    let right := b.mantissa * Decimal.powerNum 2 (b.exponent - exponent)
    let magnitude := (left % right).toUInt64.toFloat.scaleB exponent
    if Decimal.isNegative x then -magnitude else magnitude

/-- The members of two objects, the second one's values where both have a key. -/
def mergeEntries (left right : Entries) : Entries :=
  right.foldl (fun merged (key, value) => merged.insert key value) left

/-- Merges two objects, and the objects that both have under a key, down to a depth. Each merged object
is made at a place of its own. -/
def mergeDeep : (depth : Nat) → Place → Entries → Entries → Datum
  | 0, place, left, right => (Datum.object (mergeEntries left right)).madeAt place
  | depth + 1, place, left, right =>
    let merged := right.zipIdx.foldl
      (fun merged ((key, value), turn) =>
        match merged.lookup key, value with
        | some (.object inner), .object added => merged.insert key (mergeDeep depth (turn :: place) inner added)
        | _, _ => merged.insert key value)
      left
    (Datum.object merged).madeAt place

/-- The parts of a text between separators that are not empty. `part` holds what has been read of the
part, last character first, and `budget` is at least the number of characters left. -/
def splitBetween (separator : List Char) : (budget : Nat) → (part text : List Char) → List (List Char)
  | 0, part, _ => [part.reverse]
  | budget + 1, part, text =>
    match text with
    | [] => [part.reverse]
    | c :: rest =>
      if separator.isPrefixOf text then
        part.reverse :: splitBetween separator budget [] (text.drop separator.length)
      else splitBetween separator budget (c :: part) rest

/-- The parts of a string between separators: none of an empty string, and the characters if the
separator is empty. -/
def splitString (text separator : String) : List String :=
  if text.isEmpty then []
  else if separator.isEmpty then text.toList.map String.singleton
  else (splitBetween separator.toList (text.length + 1) [] text.toList).map String.ofList

def repeatString (text : String) (count : Nat) : String :=
  String.ofList (List.replicate count text.toList).flatten

def Arithmetic.onFloats : Arithmetic → Float → Float → Float
  | .add, x, y => x + y
  | .sub, x, y => x - y
  | .mul, x, y => x * y
  | .div, x, y => x / y
  | .rem, x, y => floatRemainder x y

/-- An operation on two numbers. Integers stay integers except in a division; the remainder of an integer
by zero is not defined. -/
def Arithmetic.onNumbers (operation : Arithmetic) (left right : Datum) : Except Trouble Datum :=
  match operation, left, right with
  | .add, .int i, .int j => .ok (.int (i + j))
  | .sub, .int i, .int j => .ok (.int (i - j))
  | .mul, .int i, .int j => .ok (.int (i * j))
  | .rem, .int i, .int j =>
    if j = 0 then .error (.notCalculable left .rem right) else .ok (.int (Int.tmod i j))
  | _, _, _ => .ok (.ofFloat (operation.onFloats left.toFloat right.toFloat))

def Arithmetic.apply (operation : Arithmetic) (place : Place) (left right : Datum) : Except Trouble Datum :=
  match operation, left, right with
  | .add, .null, value => .ok value
  | .add, value, .null => .ok value
  | _, _, _ =>
    let left := left.settled
    let right := right.settled
    match operation, left, right with
    | .add, .string a, .string b => .ok (.string (a ++ b))
    | .add, .array a, .array b => .ok ((Datum.array (a ++ b)).madeAt place)
    | .add, .object a, .object b => .ok ((Datum.object (mergeEntries a b)).madeAt place)
    | .sub, .array a, .array b =>
      .ok ((Datum.array (a.filter fun x => !b.any fun y => y.order x = .eq)).madeAt place)
    | .mul, .string s, .int i => .ok (if 0 < i then .string (repeatString s i.toNat) else .null)
    | .mul, .int i, .string s => .ok (if 0 < i then .string (repeatString s i.toNat) else .null)
    | .mul, .object a, .object b => .ok (mergeDeep (Datum.object b).depth place a b)
    | .div, .string a, .string b => .ok (.array ((splitString a b).map .string))
    | _, _, _ =>
      if left.kindRank = 2 ∧ right.kindRank = 2 then operation.onNumbers left right
      else .error (.notCalculable left operation right)

def Datum.negate (value : Datum) : Except Trouble Datum :=
  match value.settled with
  | .int i => .ok (.int (-i))
  | .float x => .ok (.float (-x))
  | .nan mark => .ok (.nan mark)
  | _ => .error (.notUsable value .number)

/-- The magnitude of a number, or the size of something that has one. Nothing has size zero. -/
def Datum.length (value : Datum) : Except Trouble Datum :=
  match value.settled with
  | .null => .ok (.int 0)
  | .int i => .ok (.int i.natAbs)
  | .float x => .ok (.float x.abs)
  | .nan mark => .ok (.nan mark)
  | .string s => .ok (.int s.length)
  | .array items => .ok (.int items.length)
  | .object members => .ok (.int members.length)
  | _ => .error (.noLength value)

end SchemaTyping.Query
