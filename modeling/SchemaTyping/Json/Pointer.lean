import SchemaTyping.Json.Value

/-!
# JSON Pointers

A pointer names a node of a document by the steps to it, each after a slash. In a step `~1` stands for a
slash and `~0` for a tilde. A step into a list is an index in decimal, without a sign and without leading
zeros.
-/

namespace SchemaTyping.Json

/-- The parts of a list between separators. There is one more than there are separators. -/
def splitAt (separator : Char) : List Char → List (List Char)
  | [] => [[]]
  | c :: rest =>
    if c = separator then [] :: splitAt separator rest
    else
      match splitAt separator rest with
      | [] => [[c]]
      | part :: parts => (c :: part) :: parts

def unescapeSlashes : List Char → List Char
  | '~' :: '1' :: rest => '/' :: unescapeSlashes rest
  | c :: rest => c :: unescapeSlashes rest
  | [] => []

def unescapeTildes : List Char → List Char
  | '~' :: '0' :: rest => '~' :: unescapeTildes rest
  | c :: rest => c :: unescapeTildes rest
  | [] => []

/-- The step that a part of a pointer names. Slashes come first, so that `~01` is a tilde and a one. -/
def unescapeStep (part : List Char) : List Char :=
  unescapeTildes (unescapeSlashes part)

def decimal? : List Char → Option Nat
  | [] => none
  | digits =>
    digits.foldl (fun value c => do
      let value ← value
      if '0' ≤ c ∧ c ≤ '9' then some (value * 10 + (c.toNat - '0'.toNat)) else none) (some 0)

def indexOfStep? (step : List Char) : Option Nat :=
  match step with
  | '0' :: _ :: _ => none
  | _ => decimal? step

def Value.step? (value : Value) (step : List Char) : Option Value :=
  match value with
  | .object members => members.lookup (String.ofList step)
  | .array items => do items[← indexOfStep? step]?
  | _ => none

def Value.steps? (value : Value) : List (List Char) → Option Value
  | [] => some value
  | step :: rest => do (← value.step? step).steps? rest

/-- The node that a pointer names. The empty pointer names the whole document. -/
def Value.pointer? (value : Value) (pointer : String) : Option Value :=
  match pointer.toList with
  | [] => some value
  | '/' :: rest => value.steps? ((splitAt '/' rest).map unescapeStep)
  | _ => none

end SchemaTyping.Json
