import SchemaTyping.Query.Filter
import SchemaTyping.Query.Token

/-!
# Reading filters

Terms are operands between operators, and an operand is a filter with steps after it. Operators bind by
their strength, from the pipe, which is the weakest, to the remainder. A pipe that binds a variable takes
everything before it, so it is as weak as a plain one.

No word is reserved. A word has a meaning of its own only where a form, an operator or a part of a form
is looked for, and is a name elsewhere.

Every function gets a budget of calls inside one another. The wrapper gives more than any text can use.
-/

namespace SchemaTyping.Query

inductive Operator where
  | pipe
  /-- A pipe that binds a variable. -/
  | bind (name : String)
  | comma
  | assign (kind : Assignment)
  | alternative
  | either
  | both
  | compare (comparison : Comparison)
  | calculate (operation : Arithmetic)
  deriving DecidableEq, Repr

namespace Operator

def strength : Operator → Nat
  | pipe | bind _ => 0
  | comma => 1
  | assign _ => 2
  | alternative => 3
  | either => 4
  | both => 5
  | compare .eq | compare .ne => 6
  | compare _ => 7
  | calculate .add | calculate .sub => 8
  | calculate .mul | calculate .div => 9
  | calculate .rem => 10

/-- Whether of two operators of this strength the right one binds first. -/
def toTheRight : Operator → Bool
  | pipe | bind _ | assign _ => true
  | _ => false

/-- Whether an operator takes the operand between it and the operator that follows. -/
def bindsBefore (operator next : Operator) : Bool :=
  next.strength < operator.strength || (next.strength = operator.strength && !next.toTheRight)

def apply (operator : Operator) (left right : Filter) : Filter :=
  match operator with
  | pipe => .pipe left right
  | bind name => .bind left name right
  | comma => .comma left right
  | assign kind => .assign kind left right
  | alternative => .alternative left right
  | either => .either left right
  | both => .both left right
  | compare comparison => .compare comparison left right
  | calculate operation => .calculate operation left right

def ofSign? : String → Option Operator
  | "|" => some pipe
  | "=" => some (assign .replace)
  | "|=" => some (assign .update)
  | "+=" => some (assign (.arithmetic .add))
  | "-=" => some (assign (.arithmetic .sub))
  | "*=" => some (assign (.arithmetic .mul))
  | "/=" => some (assign (.arithmetic .div))
  | "%=" => some (assign (.arithmetic .rem))
  | "//=" => some (assign .alternative)
  | "//" => some alternative
  | "==" => some (compare .eq)
  | "!=" => some (compare .ne)
  | "<" => some (compare .lt)
  | "<=" => some (compare .le)
  | ">" => some (compare .gt)
  | ">=" => some (compare .ge)
  | "+" => some (calculate .add)
  | "-" => some (calculate .sub)
  | "*" => some (calculate .mul)
  | "/" => some (calculate .div)
  | "%" => some (calculate .rem)
  | _ => none

end Operator

/-- The operator at the start of tokens, and what follows it. Where commas separate other things they are
no operators. -/
def operator? (commas : Bool) : List Token → Option (Operator × List Token)
  | .operator sign :: rest => do some (← Operator.ofSign? sign, rest)
  | .punctuation ',' :: rest => if commas then some (.comma, rest) else none
  | .word "or" :: rest => some (.either, rest)
  | .word "and" :: rest => some (.both, rest)
  | .word "as" :: .variable name :: .operator "|" :: rest => some (.bind name, rest)
  | _ => none

/-- Operands that wait for the operator after them, innermost first. -/
abbrev Waiting := List (Filter × Operator)

/-- Applies the waiting operators that take an operand before the next operator does. -/
def reduceBefore (next : Operator) : Waiting → Filter → Waiting × Filter
  | [], operand => ([], operand)
  | (left, operator) :: waiting, operand =>
    if operator.bindsBefore next then reduceBefore next waiting (operator.apply left operand)
    else ((left, operator) :: waiting, operand)

def reduceAll : Waiting → Filter → Filter
  | [], operand => operand
  | (left, operator) :: waiting, operand => reduceAll waiting (operator.apply left operand)

/-- The words that operands of a form of their own start with, those that go through outputs apart. They
cannot be called. -/
def formWords : List String :=
  ["def", "if", "try", "label", "break"]

/-- The words that announce other things than a filter at the start of a text. -/
def headWords : List String :=
  ["import", "include", "module"]

def Fold.ofWord? : String → Option Fold
  | "reduce" => some .reduce
  | "foreach" => some .foreach
  | _ => none

def sum? : List Filter → Option Filter
  | [] => none
  | first :: rest => some (rest.foldl (.calculate .add) first)

/-- A filter with the question marks that follow it. -/
def attempts : Filter → List Token → Filter × List Token
  | filter, .punctuation '?' :: rest => attempts (.attempt filter) rest
  | filter, rest => (filter, rest)

def forgiving : List Token → Bool × List Token
  | .punctuation '?' :: rest => (true, (forgiving rest).2)
  | rest => (false, rest)

def pathFrom (source : Filter) (steps : List (Step × Bool)) : Filter :=
  if steps.isEmpty then source else .path source steps

def expect? (token : Token) : List Token → Option (List Token)
  | first :: rest => if first = token then some rest else none
  | [] => none

def parameters? : List Token → Option (List Parameter × List Token)
  | .word name :: .closing .paren :: rest => some ([.filter name], rest)
  | .variable name :: .closing .paren :: rest => some ([.value name], rest)
  | .word name :: .punctuation ';' :: rest => do
    let (parameters, rest) ← parameters? rest
    some (.filter name :: parameters, rest)
  | .variable name :: .punctuation ';' :: rest => do
    let (parameters, rest) ← parameters? rest
    some (.value name :: parameters, rest)
  | _ => none

mutual
/-- A term: operands between operators. -/
def term? : (budget : Nat) → (commas : Bool) → List Token → Option (Filter × List Token)
  | 0, _, _ => none
  | budget + 1, commas, tokens => do
    let (first, tokens) ← operand? budget tokens
    operandsAfter? budget commas [] first tokens

/-- The rest of a term after an operand, of which others wait. -/
def operandsAfter? : (budget : Nat) → (commas : Bool) → Waiting → Filter → List Token →
    Option (Filter × List Token)
  | 0, _, _, _, _ => none
  | budget + 1, commas, waiting, last, tokens =>
    match operator? commas tokens with
    | none => some (reduceAll waiting last, tokens)
    | some (operator, tokens) => do
      let (next, tokens) ← operand? budget tokens
      let (waiting, left) := reduceBefore operator waiting last
      operandsAfter? budget commas ((left, operator) :: waiting) next tokens

/-- An operand: a filter, question marks, and steps. -/
def operand? : (budget : Nat) → List Token → Option (Filter × List Token)
  | 0, _ => none
  | budget + 1, tokens => do
    let (source, tokens) ← source? budget tokens
    let (source, tokens) := attempts source tokens
    let (steps, tokens) ← steps? budget tokens
    some (pathFrom source steps, tokens)

/-- What an operand starts with. A key after a point is left to be read as a step from the input. -/
def source? : (budget : Nat) → List Token → Option (Filter × List Token)
  | 0, _ => none
  | budget + 1, tokens =>
    match tokens with
    | .field key :: rest => some (.identity, .field key :: rest)
    | .dot :: .stringStart :: rest => some (.identity, .dot :: .stringStart :: rest)
    | .dot :: rest => some (.identity, rest)
    | .dots :: rest => some (.recurse, rest)
    | .numeral text :: rest => some (.numeral text, rest)
    | .variable name :: rest => some (.variable name, rest)
    | .stringStart :: rest => string? budget [] rest
    | .operator "-" :: rest => do
      let (filter, rest) ← operand? budget rest
      some (.negate filter, rest)
    | .opening .paren :: rest => do
      let (filter, rest) ← term? budget true rest
      some (filter, ← expect? (.closing .paren) rest)
    | .opening .bracket :: .closing .bracket :: rest => some (.emptyArray, rest)
    | .opening .bracket :: rest => do
      let (filter, rest) ← term? budget true rest
      some (.array filter, ← expect? (.closing .bracket) rest)
    | .opening .brace :: .closing .brace :: rest => some (.emptyObject, rest)
    | .opening .brace :: rest => do
      let (members, rest) ← members? budget rest
      some (← sum? members, rest)
    | .word "if" :: rest => conditional? budget rest
    | .word "try" :: rest => do
      let (filter, rest) ← operand? budget rest
      match rest with
      | .word "catch" :: rest => do
        let (handler, rest) ← operand? budget rest
        some (.tryCatch filter handler, rest)
      | _ => some (.attempt filter, rest)
    | .word "label" :: .variable name :: .operator "|" :: rest => do
      let (filter, rest) ← term? budget true rest
      some (.label name filter, rest)
    | .word "break" :: .variable name :: rest => some (.breakTo name, rest)
    | .word "def" :: .word name :: rest => do
      let (parameters, rest) ←
        match rest with
        | .opening .paren :: rest => parameters? rest
        | _ => some ([], rest)
      let rest ← expect? (.punctuation ':') rest
      let (body, rest) ← term? budget true rest
      let rest ← expect? (.punctuation ';') rest
      let (scope, rest) ← term? budget true rest
      some (.define name parameters body scope, rest)
    | .word word :: rest =>
      match Fold.ofWord? word with
      | some kind => do
        let (source, rest) ← operand? budget rest
        match rest with
        | .word "as" :: .variable name :: rest => do
          let (arguments, rest) ← arguments? budget rest
          some (.fold kind source name arguments, rest)
        | _ => none
      | none =>
        if word ∈ formWords then none
        else do
          let (arguments, rest) ← arguments? budget rest
          some (.call word arguments, rest)
    | _ => none

def steps? : (budget : Nat) → List Token → Option (List (Step × Bool) × List Token)
  | 0, _ => none
  | budget + 1, tokens => do
    let step? ←
      match tokens with
      | .field key :: rest => some (some (Step.index (.string key), rest))
      | .dot :: .stringStart :: rest => do
        let (key, rest) ← string? budget [] rest
        some (some (Step.index key, rest))
      | .opening .bracket :: rest => do
        let (step, rest) ← bracketStep? budget rest
        some (some (step, rest))
      | _ => some none
    match step? with
    | none => some ([], tokens)
    | some (step, rest) => do
      let (mayFail, rest) := forgiving rest
      let (steps, rest) ← steps? budget rest
      some ((step, mayFail) :: steps, rest)

def bracketStep? : (budget : Nat) → List Token → Option (Step × List Token)
  | 0, _ => none
  | budget + 1, tokens =>
    match tokens with
    | .closing .bracket :: rest => some (.each, rest)
    | .punctuation ':' :: rest => do
      let (stop, rest) ← term? budget true rest
      some (.sliceTo stop, ← expect? (.closing .bracket) rest)
    | _ => do
      let (first, rest) ← term? budget true tokens
      match rest with
      | .closing .bracket :: rest => some (.index first, rest)
      | .punctuation ':' :: .closing .bracket :: rest => some (.sliceFrom first, rest)
      | .punctuation ':' :: rest => do
        let (stop, rest) ← term? budget true rest
        some (.slice first stop, ← expect? (.closing .bracket) rest)
      | _ => none

/-- A string from after its start. The parts read so far are given, last one first. -/
def string? : (budget : Nat) → (parts : List Filter) → List Token → Option (Filter × List Token)
  | 0, _, _ => none
  | budget + 1, parts, tokens =>
    match tokens with
    | .stringEnd :: rest => some ((sum? parts.reverse).getD (.string ""), rest)
    | .chunk text :: rest =>
      match parts with
      | .string before :: parts => string? budget (.string (before ++ text) :: parts) rest
      | _ => string? budget (.string text :: parts) rest
    | .opening .interpolation :: rest => do
      let (filter, rest) ← term? budget true rest
      string? budget (.asText filter :: parts) (← expect? (.closing .interpolation) rest)
    | _ => none

/-- The branches of a conditional, from after its `if` or `elif`. -/
def conditional? : (budget : Nat) → List Token → Option (Filter × List Token)
  | 0, _ => none
  | budget + 1, tokens => do
    let (condition, rest) ← term? budget true tokens
    let rest ← expect? (.word "then") rest
    let (onTrue, rest) ← term? budget true rest
    match rest with
    | .word "elif" :: rest => do
      let (onFalse, rest) ← conditional? budget rest
      some (.ifElse condition onTrue onFalse, rest)
    | .word "else" :: rest => do
      let (onFalse, rest) ← term? budget true rest
      some (.ifElse condition onTrue onFalse, ← expect? (.word "end") rest)
    | .word "end" :: rest => some (.ifElse condition onTrue .identity, rest)
    | _ => none

/-- The members of an object that has any, from after its opening brace. A comma may follow the last
one. -/
def members? : (budget : Nat) → List Token → Option (List Filter × List Token)
  | 0, _ => none
  | budget + 1, tokens => do
    let (first, rest) ← member? budget tokens
    match rest with
    | .closing .brace :: rest => some ([first], rest)
    | .punctuation ',' :: .closing .brace :: rest => some ([first], rest)
    | .punctuation ',' :: rest => do
      let (members, rest) ← members? budget rest
      some (first :: members, rest)
    | _ => none

/-- A member of an object. A key without a value takes the input's value under that key, or a
variable's. -/
def member? : (budget : Nat) → List Token → Option (Filter × List Token)
  | 0, _ => none
  | budget + 1, tokens => do
    let (key, lone?, rest) ←
      match tokens with
      | .variable name :: rest =>
        some (Filter.variable name, some (Filter.member (.string name) (.variable name)), rest)
      | .word name :: rest => some (Filter.string name, some (.ownMember (.string name)), rest)
      | .stringStart :: rest => do
        let (key, rest) ← string? budget [] rest
        some (key, some (.ownMember key), rest)
      | .opening .paren :: rest => do
        let (key, rest) ← term? budget true rest
        some (key, none, ← expect? (.closing .paren) rest)
      | _ => none
    match rest with
    | .punctuation ':' :: rest => do
      let (value, rest) ← term? budget false rest
      some (.member key value, rest)
    | _ => do some (← lone?, rest)

def arguments? : (budget : Nat) → List Token → Option (List Filter × List Token)
  | 0, _ => none
  | budget + 1, tokens =>
    match tokens with
    | .opening .paren :: rest => argumentsWithin? budget rest
    | _ => some ([], tokens)

def argumentsWithin? : (budget : Nat) → List Token → Option (List Filter × List Token)
  | 0, _ => none
  | budget + 1, tokens => do
    let (first, rest) ← term? budget true tokens
    match rest with
    | .closing .paren :: rest => some ([first], rest)
    | .punctuation ';' :: rest => do
      let (arguments, rest) ← argumentsWithin? budget rest
      some (first :: arguments, rest)
    | _ => none
end

def Filter.parse? (text : String) : Option Filter := do
  let tokens ← tokens? text
  if headWords.any fun word => tokens.head? = some (.word word) then none
  else
    match ← term? (8 * (tokens.length + 1)) true tokens with
    | (filter, []) => some filter
    | (_, _ :: _) => none

end SchemaTyping.Query
