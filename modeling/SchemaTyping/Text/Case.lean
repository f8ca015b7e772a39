import SchemaTyping.Text.CaseTable

/-!
# Upper case, lower case and capitalised names

A character's case forms are lists of characters, since a few letters have no single capital. A
capitalised text starts with one capital and goes on in lower case, whatever case it was written in.
-/

namespace SchemaTyping.Text

/-- A code point's image under a table of runs, itself where no run covers it. -/
def mapCode (runs : List CaseRun) (code : Nat) : Nat :=
  match runs.find? (·.covers code) with
  | some run => (code + run.offset).toNat
  | none => code

def upper (c : Char) : List Char :=
  match expandingUpper.lookup c.toNat with
  | some codes => codes.map Char.ofNat
  | none => [Char.ofNat (mapCode upperRuns c.toNat)]

/-- The full lower case of a character. It does not depend on the character's neighbours, so a sigma
at the end of a word is lowered as any other sigma. -/
def lower (c : Char) : List Char :=
  match expandingLower.lookup c.toNat with
  | some codes => codes.map Char.ofNat
  | none => [Char.ofNat (mapCode lowerRuns c.toNat)]

/-- The Latin letters that look like two, each with a form of its own for the start of a word. -/
def titleDigraph (c : Char) : Option Char :=
  if c ∈ ['Ǆ', 'ǅ', 'ǆ'] then some 'ǅ'
  else if c ∈ ['Ǉ', 'ǈ', 'ǉ'] then some 'ǈ'
  else if c ∈ ['Ǌ', 'ǋ', 'ǌ'] then some 'ǋ'
  else if c ∈ ['Ǳ', 'ǲ', 'ǳ'] then some 'ǲ'
  else none

/-- The form a character takes at the start of a capitalised text: its upper case, of which only the
first character stays a capital. -/
def title (c : Char) : List Char :=
  match titleDigraph c with
  | some t => [t]
  | none =>
    match upper c with
    | [] => []
    | first :: more => first :: more.flatMap lower

def capitalizeChars : List Char → List Char
  | [] => []
  | c :: rest => title c ++ rest.flatMap lower

def capitalize (text : String) : String :=
  String.ofList (capitalizeChars text.toList)

end SchemaTyping.Text
