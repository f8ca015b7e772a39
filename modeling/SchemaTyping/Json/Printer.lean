import SchemaTyping.Decimal.Layout
import SchemaTyping.Json.Value

/-!
# Compact JSON text

The one text that this library writes for a JSON value: no spaces, members in their order, and in strings
only the escapes that the grammar requires, with a letter where it has one.
-/

namespace SchemaTyping.Json

open Decimal (intChars Layout)

/-- Doubles are written without an exponent from a hundred-thousandth up to seventeen digits, and a
positive exponent has its sign. -/
def numberLayout : Layout := ⟨-4, 16, true, .toEven⟩

def hexDigits (code : Nat) : List Char :=
  [code / 4096 % 16, code / 256 % 16, code / 16 % 16, code % 16].map Nat.digitChar

def escapeChar (c : Char) : List Char :=
  if c = '"' then ['\\', '"']
  else if c = '\\' then ['\\', '\\']
  else if c = '\x08' then ['\\', 'b']
  else if c = '\t' then ['\\', 't']
  else if c = '\n' then ['\\', 'n']
  else if c = '\x0c' then ['\\', 'f']
  else if c = '\r' then ['\\', 'r']
  else if c.toNat < 0x20 then '\\' :: 'u' :: hexDigits c.toNat
  else [c]

def stringChars (text : String) : List Char :=
  '"' :: text.toList.flatMap escapeChar ++ ['"']

/-- A number. An infinity or a NaN has no numeral, and stands as `null`. -/
def Number.chars : Number → List Char
  | .int i => intChars i
  | .float x => if Decimal.isFinite x then numberLayout.chars x else "null".toList

mutual
def Value.chars : Value → List Char
  | .null => "null".toList
  | .bool true => "true".toList
  | .bool false => "false".toList
  | .number n => n.chars
  | .string s => stringChars s
  | .array [] => ['[', ']']
  | .array (item :: items) => '[' :: item.chars ++ moreItems items
  | .object [] => ['{', '}']
  | .object ((key, value) :: members) =>
    '{' :: stringChars key ++ ':' :: value.chars ++ moreMembers members

/-- The items after the first one, and the bracket that closes them. -/
def moreItems : List Value → List Char
  | [] => [']']
  | item :: items => ',' :: item.chars ++ moreItems items

/-- The members after the first one, and the brace that closes them. -/
def moreMembers : List (String × Value) → List Char
  | [] => ['}']
  | (key, value) :: members => ',' :: stringChars key ++ ':' :: value.chars ++ moreMembers members
end

def Value.render (value : Value) : String :=
  String.ofList value.chars

end SchemaTyping.Json
