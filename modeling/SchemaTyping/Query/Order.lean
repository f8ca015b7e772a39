import SchemaTyping.Query.Datum

/-!
# The order of values

All values are in one order: `null`, booleans, numbers, strings, lists, objects. Numbers compare as
doubles where one of them is one; the two zeros are equal, and what is no number comes before everything,
itself included. Objects compare by their sorted keys and then by the values in that order.

Equality goes by the same order except inside lists and objects, where what is no number equals what
bears the same mark.
-/

namespace SchemaTyping.Query

def compareFloats (x y : Float) : Ordering :=
  if x < y then .lt
  else if y < x then .gt
  else .eq

/-- The order of texts, by code points. -/
def compareChars : List Char → List Char → Ordering
  | [], [] => .eq
  | [], _ :: _ => .lt
  | _ :: _, [] => .gt
  | a :: as, b :: bs => (compare a.toNat b.toNat).then (compareChars as bs)

def compareStrings (a b : String) : Ordering :=
  compareChars a.toList b.toList

def compareKeys : List String → List String → Ordering
  | [], [] => .eq
  | [], _ :: _ => .lt
  | _ :: _, [] => .gt
  | a :: as, b :: bs => (compareStrings a b).then (compareKeys as bs)

/-- Puts an entry before the first one whose key is greater. -/
def insertByKey {α : Type} (entry : String × α) : List (String × α) → List (String × α)
  | [] => [entry]
  | first :: rest =>
    if compareStrings entry.1 first.1 = .lt then entry :: first :: rest
    else first :: insertByKey entry rest

def sortByKey {α : Type} (entries : List (String × α)) : List (String × α) :=
  entries.foldr insertByKey []

def Datum.kindRank : Datum → Nat
  | .null => 0
  | .bool _ => 1
  | .int _ | .float _ | .nan _ | .numeral _ => 2
  | .string _ => 3
  | .array _ => 4
  | .object _ => 5

def Datum.toFloat : Datum → Float
  | .int i => intToFloat i
  | .float x => x
  | .nan _ => 0 / 0
  | .numeral text => floatOfNumeral text
  | _ => 0

/-- How things that are no numbers compare with one another, by their marks. -/
abbrev MarkOrder := Place → Place → Ordering

/-- Whatever its mark, what is no number comes before its like. -/
def alwaysBefore : MarkOrder :=
  fun _ _ => .lt

/-- What is no number equals its like of the same mark. -/
def equalIfSame : MarkOrder :=
  fun a b => if a = b then .eq else .lt

/-- The order of two numbers. Two integers compare exactly. -/
def compareNumbers (marks : MarkOrder) : Datum → Datum → Ordering
  | .int i, .int j => compare i j
  | .nan a, .nan b => marks a b
  | .nan _, _ => .lt
  | _, .nan _ => .gt
  | a, b => compareFloats a.toFloat b.toFloat

def Datum.depth : Datum → Nat
  | .array items => 1 + listDepth items
  | .object members => 1 + entriesDepth members
  | _ => 0
where
  listDepth : List Datum → Nat
    | [] => 0
    | item :: items => max item.depth (listDepth items)
  entriesDepth : List (String × Datum) → Nat
    | [] => 0
    | (_, value) :: rest => max value.depth (entriesDepth rest)

/-- The order of two lists, by an order of their items. -/
def compareLists (order : Datum → Datum → Ordering) : List Datum → List Datum → Ordering
  | [], [] => .eq
  | [], _ :: _ => .lt
  | _ :: _, [] => .gt
  | a :: as, b :: bs => (order a b).then (compareLists order as bs)

/-- The order of two values that nest at most `depth` deep. -/
def compareWithin (marks : MarkOrder) : (depth : Nat) → Datum → Datum → Ordering
  | 0, a, b =>
    match a, b with
    | .bool x, .bool y => compare x.toNat y.toNat
    | .string s, .string t => compareStrings s t
    | _, _ =>
      if a.kindRank = 2 ∧ b.kindRank = 2 then compareNumbers marks a b
      else compare a.kindRank b.kindRank
  | depth + 1, a, b =>
    match a, b with
    | .array xs, .array ys => compareLists (compareWithin marks depth) xs ys
    | .object [], .object [] => .eq
    | .object [], .object _ => .lt
    | .object _, .object [] => .gt
    | .object xs, .object ys =>
      let xs := sortByKey xs
      let ys := sortByKey ys
      (compareKeys (xs.map (·.1)) (ys.map (·.1))).then
        (compareLists (compareWithin marks depth) (xs.map (·.2)) (ys.map (·.2)))
    | _, _ => compareWithin marks depth a b

def Datum.order (a b : Datum) : Ordering :=
  compareWithin alwaysBefore (max a.depth b.depth + 1) a b

/-- Whether two values are equal. Objects are equal whatever the order of their members. -/
def Datum.equals (a b : Datum) : Bool :=
  !a.isNaN && compareWithin equalIfSame (max a.depth b.depth + 1) a b = .eq

/-- Values in order, equal ones as they were. -/
def sortData (items : List Datum) : List Datum :=
  items.mergeSort fun a b => a.order b ≠ .gt

end SchemaTyping.Query
