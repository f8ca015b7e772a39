import SchemaTyping.Json.Numeral
import SchemaTyping.Json.StringBody

/-!
# Reading JSON

One value from the start of a text, whatever follows it. Lists and objects are read by one loop each,
which takes the reader of an item or a member as an argument, so that values of every kind and typed
readings share them. Nesting is bounded, and that bound is what the recursion is on.
-/

namespace SchemaTyping.Json

/-- How many lists and objects may stand inside one another. -/
def depthLimit : Nat := 127

/-- The rest of a word of which the first letter has been looked at. -/
def readWord (word : List Char) (cursor : Cursor) : Except Fault (Unit × Cursor) :=
  match word, cursor.rest with
  | [], _ => .ok ((), cursor)
  | _ :: _, [] => .error (cursor.fault .endInValue)
  | w :: ws, c :: rest =>
    if c = w then readWord ws ⟨rest, cursor.offset + 1⟩ else .error (cursor.lookedFault .expectedWord)

/-- Moves to the next item of a list: `true` with the cursor at the item, or `false` with the cursor
after the closing bracket. Only the first item has no comma before it. -/
def nextItem (first : Bool) (cursor : Cursor) : Except Fault (Bool × Cursor) :=
  let cursor := cursor.skipBlanks
  match cursor.rest with
  | [] => .error (cursor.lookedFault .endInList)
  | ']' :: rest => .ok (false, ⟨rest, cursor.offset + 1⟩)
  | c :: rest =>
    if first then .ok (true, cursor)
    else if c = ',' then
      let cursor := (Cursor.mk rest (cursor.offset + 1)).skipBlanks
      match cursor.rest with
      | [] => .error (cursor.lookedFault .endInValue)
      | ']' :: _ => .error (cursor.lookedFault .trailingComma)
      | _ => .ok (true, cursor)
    else .error (cursor.lookedFault .expectedCommaOrBracket)

/-- Moves to the key of the next member of an object: `true` with the cursor after the key's opening
quote, or `false` with the cursor after the closing brace. -/
def nextMember (first : Bool) (cursor : Cursor) : Except Fault (Bool × Cursor) :=
  let cursor := cursor.skipBlanks
  match cursor.rest with
  | [] => .error (cursor.lookedFault .endInObject)
  | '}' :: rest => .ok (false, ⟨rest, cursor.offset + 1⟩)
  | c :: rest =>
    if first then
      if c = '"' then .ok (true, ⟨rest, cursor.offset + 1⟩)
      else .error (cursor.lookedFault .keyNotString)
    else if c = ',' then
      let cursor := (Cursor.mk rest (cursor.offset + 1)).skipBlanks
      match cursor.rest with
      | [] => .error (cursor.lookedFault .endInValue)
      | '"' :: rest => .ok (true, ⟨rest, cursor.offset + 1⟩)
      | '}' :: _ => .error (cursor.lookedFault .trailingComma)
      | _ => .error (cursor.lookedFault .keyNotString)
    else .error (cursor.lookedFault .expectedCommaOrBrace)

def readColon (cursor : Cursor) : Except Fault (Unit × Cursor) :=
  let cursor := cursor.skipBlanks
  match cursor.rest with
  | [] => .error (cursor.lookedFault .endInObject)
  | ':' :: rest => .ok ((), ⟨rest, cursor.offset + 1⟩)
  | _ => .error (cursor.lookedFault .expectedColon)

/-- The items of a list from `index` on, and the closing bracket. `budget` is at least the number of
characters left, and every item takes one, so that at zero the text has ended. -/
def readItems {ε α : Type} (raise : Fault → ε) (item : Nat → Cursor → Except ε (α × Cursor)) :
    (budget index : Nat) → Cursor → Except ε (List α × Cursor)
  | 0, _, cursor => .error (raise (cursor.fault .endInList))
  | budget + 1, index, cursor =>
    match nextItem (index == 0) cursor with
    | .error fault => .error (raise fault)
    | .ok (false, cursor) => .ok ([], cursor)
    | .ok (true, cursor) => do
      let (x, cursor) ← item index cursor
      let (xs, cursor) ← readItems raise item budget (index + 1) cursor
      .ok (x :: xs, cursor)

/-- A list from the character after its opening bracket. -/
def readList {ε α : Type} (raise : Fault → ε) (item : Nat → Cursor → Except ε (α × Cursor))
    (cursor : Cursor) : Except ε (List α × Cursor) :=
  readItems raise item cursor.rest.length 0 cursor

/-- The members of an object, each taken up into what the ones before it made, and the closing brace.
The reader of a member starts after the quote that opens the key. `budget` is as for items. -/
def readMembers {ε σ : Type} (raise : Fault → ε) (member : σ → Cursor → Except ε (σ × Cursor)) :
    (budget : Nat) → (first : Bool) → σ → Cursor → Except ε (σ × Cursor)
  | 0, _, _, cursor => .error (raise (cursor.fault .endInObject))
  | budget + 1, first, state, cursor =>
    match nextMember first cursor with
    | .error fault => .error (raise fault)
    | .ok (false, cursor) => .ok (state, cursor)
    | .ok (true, cursor) => do
      let (state, cursor) ← member state cursor
      readMembers raise member budget false state cursor

def readObject {ε σ : Type} (raise : Fault → ε) (member : σ → Cursor → Except ε (σ × Cursor))
    (empty : σ) (cursor : Cursor) : Except ε (σ × Cursor) :=
  readMembers raise member cursor.rest.length true empty cursor

/-- A value of which the lists and objects are read by the given readers, from the character after the
bracket that opens them. -/
def readValueWith (list object : Cursor → Except Fault (Value × Cursor)) (cursor : Cursor) :
    Except Fault (Value × Cursor) :=
  let cursor := cursor.skipBlanks
  match cursor.rest with
  | [] => .error (cursor.lookedFault .endInValue)
  | 'n' :: rest => do
    let ((), cursor) ← readWord ['u', 'l', 'l'] ⟨rest, cursor.offset + 1⟩
    .ok (.null, cursor)
  | 't' :: rest => do
    let ((), cursor) ← readWord ['r', 'u', 'e'] ⟨rest, cursor.offset + 1⟩
    .ok (.bool true, cursor)
  | 'f' :: rest => do
    let ((), cursor) ← readWord ['a', 'l', 's', 'e'] ⟨rest, cursor.offset + 1⟩
    .ok (.bool false, cursor)
  | '"' :: rest => do
    let (text, cursor) ← readString ⟨rest, cursor.offset + 1⟩
    .ok (.string text, cursor)
  | '[' :: rest => list ⟨rest, cursor.offset + 1⟩
  | '{' :: rest => object ⟨rest, cursor.offset + 1⟩
  | c :: _ =>
    if c = '-' ∨ (digit? c).isSome then do
      let (n, cursor) ← readNumber cursor
      .ok (.number n, cursor)
    else .error (cursor.lookedFault .expectedValue)

/-- A value, with `depth` more lists and objects allowed around one another. A key that has been read
before gets its new value in its old place. -/
def readValue : (depth : Nat) → Cursor → Except Fault (Value × Cursor)
  | 0 => readValueWith (fun cursor => .error (cursor.fault .tooDeep)) (fun cursor => .error (cursor.fault .tooDeep))
  | depth + 1 =>
    let member (members : Members) (cursor : Cursor) : Except Fault (Members × Cursor) := do
      let (key, cursor) ← readString cursor
      let ((), cursor) ← readColon cursor
      let (value, cursor) ← readValue depth cursor
      .ok (members.insert key value, cursor)
    readValueWith
      (fun cursor => do
        let (items, cursor) ← readList id (fun _ => readValue depth) cursor
        .ok (.array items, cursor))
      (fun cursor => do
        let (members, cursor) ← readObject id member [] cursor
        .ok (.object members, cursor))

def readFirst (text : List Char) : Except Fault (Value × Cursor) :=
  readValue depthLimit (Cursor.start text)

/-- The value that a text starts with. What follows it is not looked at. -/
def parse (text : String) : Except LocatedFault Value :=
  match readFirst text.toList with
  | .ok (value, _) => .ok value
  | .error fault => .error (fault.locate text.toList)

end SchemaTyping.Json
