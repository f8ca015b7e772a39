import SchemaTyping.Json.Cursor

/-!
# Reading strings

The characters between a string's quotes. An escape by number stands for one UTF-16 unit, so a character
above 65535 takes two of them, a high surrogate and a low one, and neither may stand alone.
-/

namespace SchemaTyping.Json

open Text (byteLength)

def hexDigit? (c : Char) : Option Nat :=
  if '0' ≤ c ∧ c ≤ '9' then some (c.toNat - '0'.toNat)
  else if 'a' ≤ c ∧ c ≤ 'f' then some (c.toNat - 'a'.toNat + 10)
  else if 'A' ≤ c ∧ c ≤ 'F' then some (c.toNat - 'A'.toNat + 10)
  else none

def hexUnit? : List Char → Option Nat
  | [a, b, c, d] => do
    return (((← hexDigit? a) * 16 + (← hexDigit? b)) * 16 + (← hexDigit? c)) * 16 + (← hexDigit? d)
  | _ => none

/-- The UTF-16 unit at a cursor after the letter of its escape. The four bytes are read before they are
judged, so a text that ends among them is cut short, not wrong. -/
def readUnit (cursor : Cursor) : Except Fault (Nat × Cursor) :=
  let four := cursor.rest.take 4
  if byteLength four < 4 then
    .error ⟨.endInString, cursor.offset + byteLength four⟩
  else
    match hexUnit? four with
    | some unit => .ok (unit, cursor.skip 4)
    | none => .error ⟨.invalidEscape, cursor.offset + 4⟩

/-- Whether a UTF-16 unit is the second half of a character. -/
def isLowSurrogate (unit : Nat) : Bool :=
  0xDC00 ≤ unit && unit ≤ 0xDFFF

def isHighSurrogate (unit : Nat) : Bool :=
  0xD800 ≤ unit && unit ≤ 0xDBFF

def surrogatePair (high low : Nat) : Char :=
  Char.ofNat (0x10000 + (high - 0xD800) * 0x400 + (low - 0xDC00))

/-- The low surrogate that has to follow a high one. -/
def readLowSurrogate (high : Nat) (cursor : Cursor) : Except Fault (Char × Cursor) :=
  match cursor.rest with
  | [] => .error (cursor.fault .endInString)
  | '\\' :: [] => .error (Cursor.fault ⟨[], cursor.offset + 1⟩ .endInString)
  | '\\' :: 'u' :: rest => do
    let (low, after) ← readUnit ⟨rest, cursor.offset + 2⟩
    if isLowSurrogate low then .ok (surrogatePair high low, after) else .error (after.fault .loneSurrogate)
  | '\\' :: rest => .error (Cursor.lookedFault ⟨rest, cursor.offset + 1⟩ .missingLowSurrogate)
  | _ => .error (cursor.lookedFault .missingLowSurrogate)

/-- The character of an escape by number, after its letter. -/
def readUnicodeEscape (cursor : Cursor) : Except Fault (Char × Cursor) := do
  let (unit, after) ← readUnit cursor
  if isLowSurrogate unit then .error (after.fault .loneSurrogate)
  else if isHighSurrogate unit then readLowSurrogate unit after
  else .ok (Char.ofNat unit, after)

def escapedBy? (letter : Char) : Option Char :=
  match letter with
  | '"' => some '"'
  | '\\' => some '\\'
  | '/' => some '/'
  | 'b' => some '\x08'
  | 'f' => some '\x0c'
  | 'n' => some '\n'
  | 'r' => some '\r'
  | 't' => some '\t'
  | _ => none

def readEscape (cursor : Cursor) : Except Fault (Char × Cursor) :=
  match cursor.rest with
  | [] => .error (cursor.fault .endInString)
  | 'u' :: rest => readUnicodeEscape ⟨rest, cursor.offset + 1⟩
  | letter :: rest =>
    match escapedBy? letter with
    | some c => .ok (c, ⟨rest, cursor.offset + 1⟩)
    | none => .error (cursor.lookedFault .invalidEscape)

/-- The characters up to the closing quote, which is read too. `budget` is at least the number of
characters left, so that at zero the text has ended. -/
def readChars : (budget : Nat) → Cursor → Except Fault (List Char × Cursor)
  | 0, cursor => .error (cursor.fault .endInString)
  | budget + 1, cursor =>
    match cursor.rest with
    | [] => .error (cursor.fault .endInString)
    | '"' :: rest => .ok ([], ⟨rest, cursor.offset + 1⟩)
    | '\\' :: rest => do
      let (c, after) ← readEscape ⟨rest, cursor.offset + 1⟩
      let (cs, after) ← readChars budget after
      .ok (c :: cs, after)
    | c :: rest =>
      if c.toNat < 0x20 then .error (cursor.lookedFault .controlCharacter)
      else do
        let (cs, after) ← readChars budget ⟨rest, cursor.offset + c.utf8Size⟩
        .ok (c :: cs, after)

/-- A string from the character after its opening quote. -/
def readString (cursor : Cursor) : Except Fault (String × Cursor) := do
  let (cs, after) ← readChars cursor.rest.length cursor
  .ok (String.ofList cs, after)

end SchemaTyping.Json
