import SchemaTyping.Decimal.Double
import SchemaTyping.Json.Cursor
import SchemaTyping.Json.Value

/-!
# Reading numbers

Digits are gathered into a 64-bit significand and a power of ten. A numeral without a fraction and
without an exponent that fits 64 bits is an integer. Any other is a double, made from the significand by
one multiplication or division with a power of ten, which is fast and may miss the nearest double by a
little. The texts that this library writes read back exactly all the same where no double is involved.
-/

namespace SchemaTyping.Json

open Decimal (powerOfTen)

def digit? (c : Char) : Option Nat :=
  if '0' ≤ c ∧ c ≤ '9' then some (c.toNat - '0'.toNat) else none

/-- The least natural number that takes more than 64 bits. -/
def significandBound : Nat := 0x10000000000000000

/-- Adds digits to a significand while it fits 64 bits, counting them. -/
def gatherDigits (significand taken : Nat) : List Char → Nat → Nat × Nat × Cursor
  | [], offset => (significand, taken, ⟨[], offset⟩)
  | c :: rest, offset =>
    match digit? c with
    | some d =>
      if significand * 10 + d < significandBound then
        gatherDigits (significand * 10 + d) (taken + 1) rest (offset + 1)
      else (significand, taken, ⟨c :: rest, offset⟩)
    | none => (significand, taken, ⟨c :: rest, offset⟩)

/-- Moves over digits, counting them. -/
def skipDigits (skipped : Nat) : List Char → Nat → Nat × Cursor
  | [], offset => (skipped, ⟨[], offset⟩)
  | c :: rest, offset =>
    if (digit? c).isSome then skipDigits (skipped + 1) rest (offset + 1)
    else (skipped, ⟨c :: rest, offset⟩)

/-- Divides by powers of ten in steps, the least exponent first made small enough to have a double.
`rounds` bounds the steps. -/
def divideByPower : (rounds : Nat) → Float → (exponent : Nat) → Float
  | 0, x, _ => x
  | rounds + 1, x, exponent =>
    if exponent ≤ 308 then x / powerOfTen exponent
    else if x == 0 then x
    else divideByPower rounds (x / powerOfTen 308) (exponent - 308)

/-- `significand * 10 ^ exponent` as a double, by one rounding for the significand and one for each power
of ten; nothing if the result is too large. -/
def scale? (significand : Nat) (exponent : Int) : Option Float :=
  let x := significand.toUInt64.toFloat
  match exponent with
  | .negSucc e => some (divideByPower (e + 1) x (e + 1))
  | .ofNat e =>
    if e ≤ 308 then
      let scaled := x * powerOfTen e
      if Decimal.isFinite scaled then some scaled else none
    else if x == 0 then some x
    else none

/-- A numeral's value as a double with its sign, at the cursor after the numeral. -/
def floatAt (negative : Bool) (significand : Nat) (exponent : Int) (cursor : Cursor) :
    Except Fault (Number × Cursor) :=
  match scale? significand exponent with
  | some x => .ok (.float (if negative then -x else x), cursor)
  | none => .error (cursor.fault .numberOutOfRange)

/-- The least natural number that takes more than 31 bits: no exponent reaches it. -/
def exponentBound : Nat := 0x80000000

/-- An exponent's further digits. One too large makes a zero, or a fault, whatever digits follow. -/
def exponentDigits (negative : Bool) (significand : Nat) (base : Int) (down : Bool) (exponent : Nat) :
    List Char → Nat → Except Fault (Number × Cursor)
  | [], offset =>
    floatAt negative significand (if down then base - exponent else base + exponent) ⟨[], offset⟩
  | c :: rest, offset =>
    match digit? c with
    | some d =>
      if exponent * 10 + d < exponentBound then
        exponentDigits negative significand base down (exponent * 10 + d) rest (offset + 1)
      else if significand ≠ 0 ∧ ¬down then
        .error (Cursor.fault ⟨rest, offset + 1⟩ .numberOutOfRange)
      else
        .ok (.float (if negative then -0.0 else 0.0), (skipDigits 0 rest (offset + 1)).2)
    | none =>
      floatAt negative significand (if down then base - exponent else base + exponent) ⟨c :: rest, offset⟩

/-- An exponent, from the character after its letter. -/
def exponentPart (negative : Bool) (significand : Nat) (base : Int) (cursor : Cursor) :
    Except Fault (Number × Cursor) :=
  let (down, cursor) : Bool × Cursor :=
    match cursor.rest with
    | '-' :: rest => (true, ⟨rest, cursor.offset + 1⟩)
    | '+' :: rest => (false, ⟨rest, cursor.offset + 1⟩)
    | _ => (false, cursor)
  match cursor.rest with
  | [] => .error (cursor.fault .endInValue)
  | c :: rest =>
    match digit? c with
    | some d => exponentDigits negative significand base down d rest (cursor.offset + 1)
    | none => .error (cursor.lookedFault .invalidNumber)

/-- What may follow the digits of a numeral that is not an integer: an exponent, or nothing. -/
def afterDigits (negative : Bool) (significand : Nat) (exponent : Int) (cursor : Cursor) :
    Except Fault (Number × Cursor) :=
  match cursor.rest with
  | 'e' :: rest => exponentPart negative significand exponent ⟨rest, cursor.offset + 1⟩
  | 'E' :: rest => exponentPart negative significand exponent ⟨rest, cursor.offset + 1⟩
  | _ => floatAt negative significand exponent cursor

/-- A fraction, from the character after its point. `dropped` counts the digits before the point that the
significand had no room for. -/
def fractionPart (negative : Bool) (significand dropped : Nat) (cursor : Cursor) : Except Fault (Number × Cursor) :=
  let (significand, taken, cursor) := gatherDigits significand 0 cursor.rest cursor.offset
  let (skipped, cursor) := skipDigits 0 cursor.rest cursor.offset
  if taken + skipped = 0 then
    match cursor.rest with
    | [] => .error (cursor.lookedFault .endInValue)
    | _ :: _ => .error (cursor.lookedFault .invalidNumber)
  else afterDigits negative significand ((dropped : Int) - taken) cursor

/-- The number with a significand and no fraction and no exponent: an integer if it fits 64 bits with its
sign. Minus zero is a double, since no integer is. -/
def wholeNumber (negative : Bool) (significand : Nat) : Number :=
  if negative then
    if significand = 0 ∨ 0x8000000000000000 < significand then .float (-significand.toUInt64.toFloat)
    else .int (-significand)
  else .int significand

def unsignedNumber (negative : Bool) (cursor : Cursor) : Except Fault (Number × Cursor) :=
  let (significand, _, cursor) := gatherDigits 0 0 cursor.rest cursor.offset
  let (dropped, cursor) := skipDigits 0 cursor.rest cursor.offset
  match cursor.rest with
  | '.' :: rest => fractionPart negative significand dropped ⟨rest, cursor.offset + 1⟩
  | 'e' :: rest => exponentPart negative significand dropped ⟨rest, cursor.offset + 1⟩
  | 'E' :: rest => exponentPart negative significand dropped ⟨rest, cursor.offset + 1⟩
  | _ =>
    if dropped = 0 then .ok (wholeNumber negative significand, cursor)
    else floatAt negative significand dropped cursor

/-- A number at the cursor: no digit may follow a leading zero. -/
def readMagnitude (negative : Bool) (cursor : Cursor) : Except Fault (Number × Cursor) :=
  match cursor.rest with
  | [] => .error (cursor.fault .endInValue)
  | c :: rest =>
    match digit? c, rest with
    | none, _ => .error (cursor.lookedFault .invalidNumber)
    | some 0, next :: _ =>
      if (digit? next).isSome then .error (Cursor.lookedFault ⟨rest, cursor.offset + 1⟩ .invalidNumber)
      else unsignedNumber negative cursor
    | some _, _ => unsignedNumber negative cursor

def readNumber (cursor : Cursor) : Except Fault (Number × Cursor) :=
  match cursor.rest with
  | '-' :: rest => readMagnitude true ⟨rest, cursor.offset + 1⟩
  | _ => readMagnitude false cursor

end SchemaTyping.Json
