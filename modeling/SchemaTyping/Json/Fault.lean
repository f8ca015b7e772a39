import SchemaTyping.Text.Basic

/-!
# What is wrong with a text that is not JSON

A reader that meets something the grammar does not allow says what it met and where. The place is a byte
offset until the text is at hand to turn it into a line and a column.
-/

namespace SchemaTyping.Json

open Text (Location)

/-- What a reader found that the grammar does not allow. -/
inductive Cause where
  | endInValue
  | endInList
  | endInObject
  | endInString
  | expectedValue
  | expectedWord
  | expectedColon
  | expectedCommaOrBracket
  | expectedCommaOrBrace
  | keyNotString
  | trailingComma
  | trailingCharacters
  | invalidNumber
  | numberOutOfRange
  | controlCharacter
  | invalidEscape
  | loneSurrogate
  | missingLowSurrogate
  | tooDeep
  deriving DecidableEq, Repr

def Cause.message : Cause → String
  | .endInValue => "EOF while parsing a value"
  | .endInList => "EOF while parsing a list"
  | .endInObject => "EOF while parsing an object"
  | .endInString => "EOF while parsing a string"
  | .expectedValue => "expected value"
  | .expectedWord => "expected ident"
  | .expectedColon => "expected `:`"
  | .expectedCommaOrBracket => "expected `,` or `]`"
  | .expectedCommaOrBrace => "expected `,` or `\x7d`"
  | .keyNotString => "key must be a string"
  | .trailingComma => "trailing comma"
  | .trailingCharacters => "trailing characters"
  | .invalidNumber => "invalid number"
  | .numberOutOfRange => "number out of range"
  | .controlCharacter => "control character (\\u0000-\\u001F) found while parsing a string"
  | .invalidEscape => "invalid escape"
  | .loneSurrogate => "lone leading surrogate in hex escape"
  | .missingLowSurrogate => "unexpected end of hex escape"
  | .tooDeep => "recursion limit exceeded"

structure Fault where
  cause : Cause
  offset : Nat
  deriving DecidableEq, Repr

structure LocatedFault where
  cause : Cause
  location : Location
  deriving DecidableEq, Repr

/-- A fault in a text, with the offset turned into a line and a column of that text. -/
def Fault.locate (text : List Char) (fault : Fault) : LocatedFault :=
  ⟨fault.cause, Location.ofOffset text fault.offset⟩

def describeLocation (location : Location) : String :=
  " at line " ++ String.ofList (Nat.toDigits 10 location.line) ++
    " column " ++ String.ofList (Nat.toDigits 10 location.column)

def LocatedFault.message (fault : LocatedFault) : String :=
  fault.cause.message ++ describeLocation fault.location

end SchemaTyping.Json
