import SchemaTyping.Decimal.Double
import SchemaTyping.Json.Printer
import SchemaTyping.Json.Pointer

/-!
# Values of filters

What a filter works on is JSON with three kinds of number: integers of 64 bits, doubles, and numerals
kept as they are written. A numeral goes through a filter unchanged unless something is calculated with
it, and only then becomes the nearest double.

A calculation may also give what is no number. That equals nothing, but a list or an object that holds it
equals itself, and no other that holds it. So what is no number bears a mark, which tells where the list
or the object around it was made.
-/

namespace SchemaTyping.Query

open Json (Value)
open Decimal (Layout)

/-- A place in the run of a filter: the turns that lead to it, last one first. -/
abbrev Place := List Nat

inductive Datum where
  | null
  | bool (value : Bool)
  | int (value : Int)
  /-- A double that is a number or infinite. -/
  | float (value : Float)
  /-- What is no number, with the mark of what holds it. -/
  | nan (mark : Place)
  | numeral (text : String)
  | string (text : String)
  | array (items : List Datum)
  | object (members : List (String × Datum))
  deriving Repr, Inhabited

abbrev Entries := List (String × Datum)

def Datum.ofFloat (x : Float) : Datum :=
  if x.isNaN then .nan [] else .float x

/-- Whether a value is no number though its type is that of numbers. -/
def Datum.isNaN : Datum → Bool
  | .nan _ => true
  | _ => false

/-- A value with the mark of a place, if it bears one. -/
def Datum.markedAt (place : Place) : Datum → Datum
  | .nan _ => .nan place
  | datum => datum

/-- A list or an object as made at a place: each thing in it that is no number gets a mark of its own. -/
def Datum.madeAt (place : Place) : Datum → Datum
  | .array items =>
    if items.any Datum.isNaN then .array (items.mapIdx fun i item => item.markedAt (i :: place))
    else .array items
  | .object members =>
    if members.any (·.2.isNaN) then
      .object (members.mapIdx fun i (key, value) => (key, value.markedAt (i :: place)))
    else .object members
  | datum => datum

def Entries.insert : Entries → String → Datum → Entries
  | [], key, value => [(key, value)]
  | (k, v) :: rest, key, value =>
    if k = key then (k, value) :: rest else (k, v) :: Entries.insert rest key value

def fitsInt (i : Int) : Bool :=
  -0x8000000000000000 ≤ i ∧ i < 0x8000000000000000

mutual
/-- A JSON value as a filter sees it. A number that is no integer of 64 bits keeps its JSON text. -/
def Datum.ofJson : Value → Datum
  | .null => .null
  | .bool b => .bool b
  | .number (.int i) => if fitsInt i then .int i else .numeral (String.ofList (Decimal.intChars i))
  | .number (.float x) => .numeral (String.ofList (Json.Number.float x).chars)
  | .string s => .string s
  | .array items => .array (dataOfJson items)
  | .object members => .object (entriesOfJson members)

def dataOfJson : List Value → List Datum
  | [] => []
  | value :: rest => Datum.ofJson value :: dataOfJson rest

def entriesOfJson : List (String × Value) → List (String × Datum)
  | [] => []
  | (key, value) :: rest => (key, Datum.ofJson value) :: entriesOfJson rest
end

/-- Doubles are written without an exponent from a ten-thousandth on, as long as at most sixteen digits
stand before the point. Of two decimals that are equally near the greater one is written. -/
def floatLayout : Layout := ⟨-3, 16, false, .upward⟩

def escapeChar (c : Char) : List Char :=
  if c = '"' then ['\\', '"']
  else if c = '\\' then ['\\', '\\']
  else if c = '\t' then ['\\', 't']
  else if c = '\n' then ['\\', 'n']
  else if c = '\r' then ['\\', 'r']
  else if c.toNat < 0x20 then '\\' :: 'u' :: Json.hexDigits c.toNat
  else [c]

def stringChars (text : String) : List Char :=
  '"' :: text.toList.flatMap escapeChar ++ ['"']

mutual
/-- The characters of a value's JSON text. What is infinite or no number stands as `null`. -/
def Datum.chars : Datum → List Char
  | .null => "null".toList
  | .bool true => "true".toList
  | .bool false => "false".toList
  | .int i => Decimal.intChars i
  | .float x => if Decimal.isFinite x then floatLayout.chars x else "null".toList
  | .nan _ => "null".toList
  | .numeral text => text.toList
  | .string s => stringChars s
  | .array [] => ['[', ']']
  | .array (item :: items) => '[' :: item.chars ++ moreItems items
  | .object [] => ['{', '}']
  | .object ((key, value) :: members) =>
    '{' :: stringChars key ++ ':' :: value.chars ++ moreEntries members

def moreItems : List Datum → List Char
  | [] => [']']
  | item :: items => ',' :: item.chars ++ moreItems items

def moreEntries : List (String × Datum) → List Char
  | [] => ['}']
  | (key, value) :: members => ',' :: stringChars key ++ ':' :: value.chars ++ moreEntries members
end

def Datum.render (datum : Datum) : String :=
  String.ofList datum.chars

/-- Whether a value counts as true: every one but `null` and `false`. -/
def Datum.isTrue : Datum → Bool
  | .null | .bool false => false
  | _ => true

def Datum.typeName : Datum → String
  | .null => "null"
  | .bool _ => "boolean"
  | .int _ | .float _ | .nan _ | .numeral _ => "number"
  | .string _ => "string"
  | .array _ => "array"
  | .object _ => "object"

def intToFloat (i : Int) : Float :=
  let magnitude := (Decimal.Scientific.nearest ⟨i.natAbs, 0⟩)
  if i < 0 then -magnitude else magnitude

def decimalOfNumeral (text : List Char) : Decimal.Scientific :=
  let value (digits : List Char) : Nat := digits.foldl (fun n c => n * 10 + (c.toNat - '0'.toNat)) 0
  let whole := text.takeWhile Char.isDigit
  let rest := text.dropWhile Char.isDigit
  let (fraction, rest) :=
    match rest with
    | '.' :: rest => (rest.takeWhile Char.isDigit, rest.dropWhile Char.isDigit)
    | _ => ([], rest)
  let exponent : Int :=
    match rest with
    | _ :: '-' :: digits => -(value digits : Int)
    | _ :: '+' :: digits => value digits
    | _ :: digits => value digits
    | [] => 0
  ⟨value (whole ++ fraction), exponent - fraction.length⟩

def floatOfNumeral (text : String) : Float :=
  match text.toList with
  | '-' :: rest => -(decimalOfNumeral rest).nearest
  | chars => (decimalOfNumeral chars).nearest

/-- The value that a numeral in a filter stands for: an integer if it is one and fits, else the
numeral. -/
def Datum.ofNumeral (text : String) : Datum :=
  match Json.decimal? text.toList with
  | some n => if fitsInt n then .int n else .numeral text
  | none => .numeral text

/-- A value with a numeral in it made a double. -/
def Datum.settled : Datum → Datum
  | .numeral text => .float (floatOfNumeral text)
  | datum => datum

end SchemaTyping.Query
