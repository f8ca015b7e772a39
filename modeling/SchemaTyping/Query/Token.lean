import SchemaTyping.Text.Basic

/-!
# Tokens of filters

A filter's text is cut into tokens from left to right. Brackets have to match, also around the filters
inside strings, so a text whose tokens can be told at all is well bracketed.
-/

namespace SchemaTyping.Query

inductive Delimiter where
  | paren
  | bracket
  | brace
  /-- The brackets of a filter inside a string. -/
  | interpolation
  deriving DecidableEq, Repr

inductive Token where
  | word (text : String)
  /-- A variable, without its dollar sign. -/
  | variable (name : String)
  /-- A key after a point, without the point. -/
  | field (key : String)
  | dot
  | dots
  | numeral (text : String)
  | operator (text : String)
  | punctuation (mark : Char)
  | opening (delimiter : Delimiter)
  | closing (delimiter : Delimiter)
  /-- The start of a string, which goes on up to its end with chunks and filters. -/
  | stringStart
  | chunk (text : String)
  | stringEnd
  deriving DecidableEq, Repr

def isWordStart (c : Char) : Bool :=
  c.isAlpha || c = '_'

def isWordChar (c : Char) : Bool :=
  c.isAlphanum || c = '_'

def isOperatorStart (c : Char) : Bool :=
  c ∈ ['|', '=', '!', '<', '>', '+', '-', '*', '/', '%']

def isOperatorChar (c : Char) : Bool :=
  isOperatorStart c && c ≠ '-'

/-- What follows a comment. A line that ends with an odd number of backslashes takes the next one into
the comment. `lines` bounds how many lines the comment has. -/
def afterComment : (lines : Nat) → List Char → List Char
  | 0, text => text
  | lines + 1, text =>
    let line := text.takeWhile (· ≠ '\n')
    let rest := (text.dropWhile (· ≠ '\n')).drop 1
    let line := if line.getLast? = some '\r' then line.dropLast else line
    if (line.reverse.takeWhile (· = '\\')).length % 2 = 0 then rest else afterComment lines rest

/-- Digits, of which there has to be one, and what follows them. -/
def takeDigits? (text : List Char) : Option (List Char × List Char) :=
  let digits := text.takeWhile Char.isDigit
  if digits.isEmpty then none else some (digits, text.dropWhile Char.isDigit)

def takeFraction? (text : List Char) : Option (List Char × List Char) :=
  match text with
  | '.' :: rest => do
    let (digits, rest) ← takeDigits? rest
    some ('.' :: digits, rest)
  | _ => some ([], text)

def takeExponent? (text : List Char) : Option (List Char × List Char) :=
  match text with
  | c :: rest =>
    if c = 'e' ∨ c = 'E' then
      match rest with
      | sign :: after =>
        if sign = '+' ∨ sign = '-' then do
          let (digits, rest) ← takeDigits? after
          some (c :: sign :: digits, rest)
        else do
          let (digits, rest) ← takeDigits? rest
          some (c :: digits, rest)
      | [] => none
    else some ([], text)
  | [] => some ([], text)

def takeNumeral? (text : List Char) : Option (List Char × List Char) := do
  let (whole, rest) ← takeDigits? text
  let (fraction, rest) ← takeFraction? rest
  let (exponent, rest) ← takeExponent? rest
  some (whole ++ fraction ++ exponent, rest)

def hexValue? (c : Char) : Option Nat :=
  if c.isDigit then some (c.toNat - '0'.toNat)
  else if 'a' ≤ c ∧ c ≤ 'f' then some (c.toNat - 'a'.toNat + 10)
  else if 'A' ≤ c ∧ c ≤ 'F' then some (c.toNat - 'A'.toNat + 10)
  else none

/-- The character that an escape stands for, and what follows it. The text is what follows the backslash.
A character is escaped by number in four digits, and half a character is none. -/
def takeEscape? (text : List Char) : Option (Char × List Char) :=
  match text with
  | 'b' :: rest => some ('\x08', rest)
  | 'f' :: rest => some ('\x0c', rest)
  | 'n' :: rest => some ('\n', rest)
  | 'r' :: rest => some ('\r', rest)
  | 't' :: rest => some ('\t', rest)
  | 'u' :: a :: b :: c :: d :: rest => do
    let code := (((← hexValue? a) * 16 + (← hexValue? b)) * 16 + (← hexValue? c)) * 16 + (← hexValue? d)
    if 0xD800 ≤ code ∧ code ≤ 0xDFFF then none else some (Char.ofNat code, rest)
  | c :: rest => if c = '"' ∨ c = '\\' ∨ c = '/' then some (c, rest) else none
  | [] => none

def opens? : Char → Option Delimiter
  | '(' => some .paren
  | '[' => some .bracket
  | '{' => some .brace
  | _ => none

def closes (c : Char) : Delimiter → Bool
  | .paren | .interpolation => c = ')'
  | .bracket => c = ']'
  | .brace => c = '}'

mutual
/-- The tokens of a text that stands within open delimiters, innermost first, with `budget` at least the
number of characters left. -/
def tokensWithin : (budget : Nat) → List Delimiter → List Char → Option (List Token)
  | _, within, [] => if within.isEmpty then some [] else none
  | 0, _, _ => none
  | budget + 1, within, c :: rest =>
    if Text.isBlank c then tokensWithin budget within rest
    else if c = '#' then tokensWithin budget within (afterComment rest.length rest)
    else if isWordStart c then do
      let word := c :: rest.takeWhile isWordChar
      let tokens ← tokensWithin budget within (rest.dropWhile isWordChar)
      some (.word (String.ofList word) :: tokens)
    else if c = '$' then
      match rest with
      | first :: more =>
        if isWordStart first then do
          let name := first :: more.takeWhile isWordChar
          let tokens ← tokensWithin budget within (more.dropWhile isWordChar)
          some (.variable (String.ofList name) :: tokens)
        else none
      | [] => none
    else if c = '.' then
      match rest with
      | '.' :: rest => do
        let tokens ← tokensWithin budget within rest
        some (.dots :: tokens)
      | first :: more =>
        if isWordStart first then do
          let key := first :: more.takeWhile isWordChar
          let tokens ← tokensWithin budget within (more.dropWhile isWordChar)
          some (.field (String.ofList key) :: tokens)
        else do
          let tokens ← tokensWithin budget within rest
          some (.dot :: tokens)
      | [] => do
        let tokens ← tokensWithin budget within []
        some (.dot :: tokens)
    else if c.isDigit then do
      let (numeral, rest) ← takeNumeral? (c :: rest)
      let tokens ← tokensWithin budget within rest
      some (.numeral (String.ofList numeral) :: tokens)
    else if isOperatorStart c then do
      let operator := c :: rest.takeWhile isOperatorChar
      let tokens ← tokensWithin budget within (rest.dropWhile isOperatorChar)
      some (.operator (String.ofList operator) :: tokens)
    else if c = ':' ∨ c = ';' ∨ c = ',' ∨ c = '?' then do
      let tokens ← tokensWithin budget within rest
      some (.punctuation c :: tokens)
    else if c = '"' then do
      let tokens ← tokensOfString budget within rest
      some (.stringStart :: tokens)
    else
      match opens? c, within with
      | some delimiter, _ => do
        let tokens ← tokensWithin budget (delimiter :: within) rest
        some (.opening delimiter :: tokens)
      | none, [] => none
      | none, delimiter :: outer =>
        if closes c delimiter then do
          let tokens ←
            if delimiter = .interpolation then tokensOfString budget outer rest
            else tokensWithin budget outer rest
          some (.closing delimiter :: tokens)
        else none

/-- The tokens of a text inside a string, and of what follows the string. -/
def tokensOfString : (budget : Nat) → List Delimiter → List Char → Option (List Token)
  | 0, _, _ => none
  | budget + 1, within, text =>
    match text with
    | [] => none
    | '"' :: rest => do
      let tokens ← tokensWithin budget within rest
      some (.stringEnd :: tokens)
    | '\\' :: '(' :: rest => do
      let tokens ← tokensWithin budget (.interpolation :: within) rest
      some (.opening .interpolation :: tokens)
    | '\\' :: rest => do
      let (c, rest) ← takeEscape? rest
      let tokens ← tokensOfString budget within rest
      some (.chunk (String.singleton c) :: tokens)
    | c :: rest => do
      let isPlain (c : Char) : Bool := c ≠ '"' && c ≠ '\\'
      let tokens ← tokensOfString budget within (rest.dropWhile isPlain)
      some (.chunk (String.ofList (c :: rest.takeWhile isPlain)) :: tokens)
end

def tokens? (text : String) : Option (List Token) :=
  tokensWithin text.toList.length [] text.toList

end SchemaTyping.Query
