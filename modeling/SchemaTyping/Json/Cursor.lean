import SchemaTyping.Json.Fault

/-!
# Places in a text being read

A reader holds what it has not read yet and how many bytes it has read. A fault is reported either at
the cursor, after everything read so far, or at the byte that was looked at and not read.
-/

namespace SchemaTyping.Json

/-- What is left to read, and the number of bytes before it. -/
structure Cursor where
  rest : List Char
  offset : Nat
  deriving DecidableEq, Repr

namespace Cursor

def start (text : List Char) : Cursor := ⟨text, 0⟩

/-- The offset just after the byte at the cursor, or the cursor's own at the end of the text. -/
def looked (cursor : Cursor) : Nat :=
  match cursor.rest with
  | [] => cursor.offset
  | _ :: _ => cursor.offset + 1

def skipBlanksFrom : List Char → Nat → Cursor
  | [], offset => ⟨[], offset⟩
  | c :: rest, offset =>
    if c = ' ' ∨ c = '\t' ∨ c = '\n' ∨ c = '\r' then skipBlanksFrom rest (offset + 1)
    else ⟨c :: rest, offset⟩

def skipBlanks (cursor : Cursor) : Cursor :=
  skipBlanksFrom cursor.rest cursor.offset

/-- Moves over `count` characters of one byte each. -/
def skip (cursor : Cursor) (count : Nat) : Cursor :=
  ⟨cursor.rest.drop count, cursor.offset + count⟩

def fault (cursor : Cursor) (cause : Cause) : Fault :=
  ⟨cause, cursor.offset⟩

/-- A fault at the byte after the cursor, which has been looked at and not read. -/
def lookedFault (cursor : Cursor) (cause : Cause) : Fault :=
  ⟨cause, cursor.looked⟩

end Cursor

end SchemaTyping.Json
