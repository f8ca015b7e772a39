import SchemaTyping.Json.Reader

/-!
# Passing over a value

A record passes over the members it has no field for. Nothing is built, so neither the depth of such a
value nor the size of its numbers is bounded, and a string's escapes need only be well formed. The open
brackets are kept on a stack.
-/

namespace SchemaTyping.Decode

open Json

inductive Bracket where
  | list
  | object
  deriving DecidableEq, Repr

def Bracket.closing : Bracket → Char
  | .list => ']'
  | .object => '}'

def Bracket.endCause : Bracket → Cause
  | .list => .endInList
  | .object => .endInObject

def Bracket.commaCause : Bracket → Cause
  | .list => .expectedCommaOrBracket
  | .object => .expectedCommaOrBrace

/-- Passes over the characters up to a string's closing quote. -/
def skipChars : (budget : Nat) → Cursor → Except Fault (Unit × Cursor)
  | 0, cursor => .error (cursor.fault .endInString)
  | budget + 1, cursor =>
    match cursor.rest with
    | [] => .error (cursor.fault .endInString)
    | '"' :: rest => .ok ((), ⟨rest, cursor.offset + 1⟩)
    | '\\' :: [] => .error (Cursor.fault ⟨[], cursor.offset + 1⟩ .endInString)
    | '\\' :: 'u' :: rest => do
      let (_, cursor) ← readUnit ⟨rest, cursor.offset + 2⟩
      skipChars budget cursor
    | '\\' :: letter :: rest =>
      if (escapedBy? letter).isSome then skipChars budget ⟨rest, cursor.offset + 2⟩
      else .error (Cursor.lookedFault ⟨letter :: rest, cursor.offset + 1⟩ .invalidEscape)
    | c :: rest =>
      if c.toNat < 0x20 then .error (cursor.fault .controlCharacter)
      else skipChars budget ⟨rest, cursor.offset + c.utf8Size⟩

/-- Passes over a string from the character after its opening quote. -/
def skipString (cursor : Cursor) : Except Fault (Unit × Cursor) :=
  skipChars cursor.rest.length cursor

/-- The cursor after one digit, which has to be there. -/
def skipDigit (cursor : Cursor) : Except Fault (Unit × Cursor) :=
  match cursor.rest with
  | [] => .error (cursor.fault .invalidNumber)
  | c :: rest =>
    if (digit? c).isSome then .ok ((), ⟨rest, cursor.offset + 1⟩)
    else .error (cursor.lookedFault .invalidNumber)

def skipExponent (cursor : Cursor) : Except Fault (Unit × Cursor) :=
  let afterLetter (rest : List Char) : Except Fault (Unit × Cursor) := do
    let signed : Cursor :=
      match rest with
      | '+' :: rest => ⟨rest, cursor.offset + 2⟩
      | '-' :: rest => ⟨rest, cursor.offset + 2⟩
      | _ => ⟨rest, cursor.offset + 1⟩
    let ((), cursor) ← skipDigit signed
    .ok ((), (skipDigits 0 cursor.rest cursor.offset).2)
  match cursor.rest with
  | 'e' :: rest => afterLetter rest
  | 'E' :: rest => afterLetter rest
  | _ => .ok ((), cursor)

/-- Passes over a number without its sign. -/
def skipNumber (cursor : Cursor) : Except Fault (Unit × Cursor) := do
  let ((), first) ← skipDigit cursor
  let (more, whole) := skipDigits 0 first.rest first.offset
  if cursor.rest.head? = some '0' ∧ more ≠ 0 then .error (first.lookedFault .invalidNumber)
  else
    match whole.rest with
    | '.' :: rest =>
      let (fraction, cursor) := skipDigits 0 rest (whole.offset + 1)
      if fraction = 0 then .error (cursor.lookedFault .invalidNumber) else skipExponent cursor
    | _ => skipExponent whole

/-- Passes over a key and its colon, from before the quote that opens the key. -/
def skipKey (cursor : Cursor) : Except Fault (Unit × Cursor) :=
  let cursor := cursor.skipBlanks
  match cursor.rest with
  | [] => .error (cursor.lookedFault .endInObject)
  | '"' :: rest => do
    let ((), cursor) ← skipString ⟨rest, cursor.offset + 1⟩
    readColon cursor
  | _ => .error (cursor.lookedFault .keyNotString)

/-- Moves from the end of a value to the start of the next one within the open brackets, closing those
that end on the way. No bracket is left open when the outermost value has ended. -/
def skipToNext : List Bracket → Cursor → Except Fault (List Bracket × Cursor)
  | [], cursor => .ok ([], cursor)
  | bracket :: outer, cursor =>
    let cursor := cursor.skipBlanks
    match cursor.rest with
    | [] => .error (cursor.lookedFault bracket.endCause)
    | c :: rest =>
      if c = ',' then
        match bracket with
        | .list => .ok (bracket :: outer, ⟨rest, cursor.offset + 1⟩)
        | .object => do
          let ((), cursor) ← skipKey ⟨rest, cursor.offset + 1⟩
          .ok (bracket :: outer, cursor)
      else if c = bracket.closing then skipToNext outer ⟨rest, cursor.offset + 1⟩
      else .error (cursor.lookedFault bracket.commaCause)

/-- Moves from an opening bracket to the first value in it, or past it if it is empty. -/
def skipOpening (bracket : Bracket) (outer : List Bracket) (cursor : Cursor) :
    Except Fault (List Bracket × Cursor) :=
  let cursor := cursor.skipBlanks
  match cursor.rest with
  | [] => .error (cursor.lookedFault bracket.endCause)
  | c :: rest =>
    if c = bracket.closing then skipToNext outer ⟨rest, cursor.offset + 1⟩
    else
      match bracket with
      | .list => .ok (bracket :: outer, cursor)
      | .object => do
        let ((), cursor) ← skipKey cursor
        .ok (bracket :: outer, cursor)

/-- Passes over the start of a value: a scalar with what follows it, or an opening bracket. -/
def skipStart (outer : List Bracket) (cursor : Cursor) : Except Fault (List Bracket × Cursor) :=
  let cursor := cursor.skipBlanks
  let scalar (skipped : Except Fault (Unit × Cursor)) : Except Fault (List Bracket × Cursor) := do
    let ((), cursor) ← skipped
    skipToNext outer cursor
  match cursor.rest with
  | [] => .error (cursor.lookedFault .endInValue)
  | 'n' :: rest => scalar (readWord ['u', 'l', 'l'] ⟨rest, cursor.offset + 1⟩)
  | 't' :: rest => scalar (readWord ['r', 'u', 'e'] ⟨rest, cursor.offset + 1⟩)
  | 'f' :: rest => scalar (readWord ['a', 'l', 's', 'e'] ⟨rest, cursor.offset + 1⟩)
  | '"' :: rest => scalar (skipString ⟨rest, cursor.offset + 1⟩)
  | '-' :: rest => scalar (skipNumber ⟨rest, cursor.offset + 1⟩)
  | '[' :: rest => skipOpening .list outer ⟨rest, cursor.offset + 1⟩
  | '{' :: rest => skipOpening .object outer ⟨rest, cursor.offset + 1⟩
  | c :: _ =>
    if (digit? c).isSome then scalar (skipNumber cursor) else .error (cursor.lookedFault .expectedValue)

/-- Passes over a value within open brackets and what else is left of them. Every round takes a
character, and `budget` is at least the number of characters left. -/
def skipWithin : (budget : Nat) → List Bracket → Cursor → Except Fault (Unit × Cursor)
  | 0, _, cursor => .error (cursor.fault .endInValue)
  | budget + 1, outer, cursor => do
    match ← skipStart outer cursor with
    | ([], cursor) => .ok ((), cursor)
    | (outer, cursor) => skipWithin budget outer cursor

def skipValue (cursor : Cursor) : Except Fault (Unit × Cursor) :=
  skipWithin (cursor.rest.length + 1) [] cursor

end SchemaTyping.Decode
