import SchemaTyping.Emission.Document

/-!
# Command-line arguments

The flags of the command, and what a list of arguments asks for. A value may be attached to its flag or
follow it as an argument of its own. A separate value is judged when the next known flag is met, or at
the end; so an unknown argument after it is reported first.
-/

namespace SchemaTyping.Command

open Emission (Options)
open Typing (RootAlias)

inductive Flag where
  | input
  | output
  | jsonPointer
  | jqExpr
  | rootAlias
  | rootName
  | strictNames
  | help
  | version
  deriving DecidableEq, Repr

namespace Flag

def all : List Flag :=
  [input, output, jsonPointer, jqExpr, rootAlias, rootName, strictNames, help, version]

def long : Flag → String
  | input => "input"
  | output => "output"
  | jsonPointer => "json-pointer"
  | jqExpr => "jq-expr"
  | rootAlias => "root-alias"
  | rootName => "root-name"
  | strictNames => "strict-names"
  | help => "help"
  | version => "version"

def short? : Flag → Option Char
  | input => some 'i'
  | output => some 'o'
  | help => some 'h'
  | version => some 'V'
  | _ => none

def takesValue : Flag → Bool
  | input | output | jsonPointer | jqExpr | rootAlias | rootName => true
  | strictNames | help | version => false

/-- The flag of a name. Names are not abbreviated. -/
def ofLong? (name : String) : Option Flag :=
  all.find? (·.long = name)

def ofShort? (letter : Char) : Option Flag :=
  all.find? (·.short? = some letter)

end Flag

inductive UsageError where
  | unknownArgument
  | invalidValue
  /-- A flag that may be given once is given again. -/
  | argumentConflict
  /-- A flag without a value is given one. -/
  | tooManyValues
  deriving DecidableEq, Repr

def UsageError.message : UsageError → String
  | .unknownArgument => "there is an argument that stands for nothing"
  | .invalidValue => "a value is missing or is not one that its flag may have"
  | .argumentConflict => "a flag is given twice"
  | .tooManyValues => "a flag that has no value is given one"

/-- Why a list of arguments does not lead to a run. -/
inductive Stop where
  | help (long : Bool)
  | version
  | misuse (error : UsageError)
  deriving DecidableEq, Repr

structure Arguments where
  input : Option String := none
  output : Option String := none
  jsonPointer : Option String := none
  jqExpr : Option String := none
  rootAlias : RootAlias := .bracket
  rootName : String := "root"
  strictNames : Bool := false
  deriving DecidableEq, Repr

def Arguments.options (arguments : Arguments) : Options :=
  { rootAlias := arguments.rootAlias
    rootName := arguments.rootName
    collisions := if arguments.strictNames then .error else .warn }

def rootAlias? : String → Option RootAlias
  | "bracket" => some .bracket
  | "shape" => some .shape
  | _ => none

/-- Arguments being read: what they ask for so far, the flags given, and a flag that waits for its value
or whose value waits to be judged. -/
structure Progress where
  arguments : Arguments
  given : List Flag
  pending : Option (Flag × Option String)
  deriving Repr

def nonEmpty (value : String) : Except Stop String :=
  if value = "" then .error (.misuse .invalidValue) else .ok value

def Arguments.set (arguments : Arguments) (flag : Flag) (value : String) : Except Stop Arguments :=
  match flag with
  | .input => do return { arguments with input := some (← nonEmpty value) }
  | .output => do return { arguments with output := some (← nonEmpty value) }
  | .jsonPointer => .ok { arguments with jsonPointer := some value }
  | .jqExpr => .ok { arguments with jqExpr := some value }
  | .rootAlias =>
    match rootAlias? value with
    | some mode => .ok { arguments with rootAlias := mode }
    | none => .error (.misuse .invalidValue)
  | .rootName => .ok { arguments with rootName := value }
  | .strictNames => .ok { arguments with strictNames := true }
  | .help | .version => .ok arguments

namespace Progress

def assign (progress : Progress) (flag : Flag) (value : String) : Except Stop Progress := do
  if flag ∈ progress.given then .error (.misuse .argumentConflict)
  else return ⟨← progress.arguments.set flag value, flag :: progress.given, none⟩

/-- Judges the flag that waits, if one does. -/
def settle (progress : Progress) : Except Stop Progress :=
  match progress.pending with
  | none => .ok progress
  | some (_, none) => .error (.misuse .invalidValue)
  | some (flag, some value) => Progress.assign { progress with pending := none } flag value

/-- Takes up a flag that has no value. -/
def mark (progress : Progress) (flag : Flag) (long : Bool) : Except Stop Progress := do
  let progress ← progress.settle
  match flag with
  | .help => .error (.help long)
  | .version => .error .version
  | _ => progress.assign flag ""

/-- Takes up a flag that has a value, attached or to come. -/
def expect (progress : Progress) (flag : Flag) (attached : Option String) : Except Stop Progress := do
  let progress ← progress.settle
  match attached with
  | some value => progress.assign flag value
  | none => return { progress with pending := some (flag, none) }

/-- Takes up an argument with two dashes, of which this is what follows them. -/
def readLong (progress : Progress) (body : List Char) : Except Stop Progress :=
  let name := String.ofList (body.takeWhile (· ≠ '='))
  let attached :=
    match body.dropWhile (· ≠ '=') with
    | [] => none
    | _ :: value => some (String.ofList value)
  match Flag.ofLong? name with
  | none => .error (.misuse .unknownArgument)
  | some flag =>
    if flag.takesValue then progress.expect flag attached
    else if attached.isSome then .error (.misuse .tooManyValues)
    else progress.mark flag true

/-- Takes up an argument with one dash, of which these are the letters. After the letter of a flag that
has a value the rest is the value, with or without an equals sign. -/
def readShort (progress : Progress) : List Char → Except Stop Progress
  | [] => .ok progress
  | letter :: rest =>
    match Flag.ofShort? letter with
    | none => .error (.misuse .unknownArgument)
    | some flag =>
      if flag.takesValue then
        match rest with
        | [] => progress.expect flag none
        | '=' :: value => progress.expect flag (some (String.ofList value))
        | value => progress.expect flag (some (String.ofList value))
      else do
        let progress ← progress.mark flag false
        progress.readShort rest

/-- Takes up an argument that is no flag: the value that a flag waits for, or nothing known. A lone dash
is such an argument. -/
def readValue (progress : Progress) (value : String) : Except Stop Progress :=
  match progress.pending with
  | some (flag, none) => .ok { progress with pending := some (flag, some value) }
  | _ => .error (.misuse .unknownArgument)

/-- Takes up arguments from left to right. Two dashes alone end the flags, and nothing may follow
them. -/
def readAll (progress : Progress) : List String → Except Stop Progress
  | [] => .ok progress
  | argument :: rest =>
    match argument.toList with
    | ['-', '-'] => if rest.isEmpty then .ok progress else .error (.misuse .unknownArgument)
    | '-' :: '-' :: body => do (← progress.readLong body).readAll rest
    | '-' :: letter :: letters => do (← progress.readShort (letter :: letters)).readAll rest
    | _ => do (← progress.readValue argument).readAll rest

end Progress

/-- What a list of arguments, without the command's own name, asks for. -/
def Arguments.parse (arguments : List String) : Except Stop Arguments := do
  let progress ← Progress.readAll ⟨{}, [], none⟩ arguments
  return (← progress.settle).arguments

end SchemaTyping.Command
