import SchemaTyping.Command.FileTree
import SchemaTyping.Command.HelpText
import SchemaTyping.Command.Log
import SchemaTyping.Command.Selection

/-!
# Runs of the command

A run reads a document, selects a node of it, converts the node and hands the module over, to a file or
to standard output. Nothing is handed over before all else has succeeded, so a run that fails earlier
leaves everything as it was.
-/

namespace SchemaTyping.Command

open Emission (ConversionError Event)
open Json (LocatedFault Value)

inductive Source where
  | standardInput
  | file (path : String)
  deriving DecidableEq, Repr

/-- The source that arguments name. A lone dash stands for standard input. -/
def Arguments.source (arguments : Arguments) : Source :=
  match arguments.input with
  | none => .standardInput
  | some path => if path = "-" then .standardInput else .file path

def Source.label : Source → String
  | .standardInput => "<stdin>"
  | .file path => path

inductive Failure where
  | unreadSource (source : Source) (error : FileError)
  | malformedSource (source : Source) (fault : LocatedFault)
  | unselected (error : SelectionError)
  | unconverted (source : Source) (error : ConversionError)
  | unmadeDirectory (path : String) (error : FileError)
  | unwrittenFile (path : String) (error : FileError)
  deriving Repr

/-- The wording of a conversion's error with that of the error it goes back to, if there is one. The
former ends with the latter already, so what was wrong in a text or a document is told twice. -/
def chain (error : ConversionError) : String :=
  match error with
  | .malformed fault => error.message ++ ": " ++ fault.message
  | .mismatched mismatch location => error.message ++ ": " ++ Decode.mismatchText mismatch location
  | .notAnObject _ | .repeatedName _ => error.message

def Failure.message : Failure → String
  | .unreadSource .standardInput error => "failed to read stdin: " ++ error.message
  | .unreadSource (.file path) error => "failed to read source file " ++ path ++ ": " ++ error.message
  | .malformedSource source fault => "reading " ++ source.label ++ ": " ++ chain (.malformed fault)
  | .unselected error => error.message
  | .unconverted source error => "converting " ++ source.label ++ ": " ++ chain error
  | .unmadeDirectory path error => "creating " ++ path ++ ": " ++ error.message
  | .unwrittenFile path error => "writing " ++ path ++ ": " ++ error.message

def textOf (bytes : ByteArray) : Except FileError String :=
  match String.fromUTF8? bytes with
  | some text => .ok text
  | none => .error .notText

/-- The text to hand over for a source's text, with what was logged: the module, and the end of its last
line. -/
def produce (arguments : Arguments) (text : String) : Except Failure String × List Event :=
  match Json.parse text with
  | .error fault => (.error (.malformedSource arguments.source fault), [])
  | .ok document =>
    match select arguments document with
    | .error error => (.error (.unselected error), [])
    | .ok node =>
      match Emission.convert arguments.options node with
      | (.ok module, log) => (.ok (module ++ "\n"), log)
      | (.error error, log) => (.error (.unconverted arguments.source error), log)

section Effects

variable {m : Type → Type} [Monad m] (files : FileSystem m)
  (standardInput : m (Except FileError ByteArray))

def readSource (source : Source) : m (Except Failure String) := do
  let bytes ←
    match source with
    | .standardInput => standardInput
    | .file path => files.read path
  return (bytes.bind textOf).mapError (.unreadSource source)

/-- Makes a text the whole content of the file at a path. The directories it is in are made as far as
they are missing. -/
def writeFile (path text : String) : m (Except Failure Unit) := do
  match parentPath? path with
  | none => return (← files.write path text.toUTF8).mapError (.unwrittenFile path)
  | some parent =>
    match ← files.makeDirectories (parent.length + 1) parent with
    | .error error => return .error (.unmadeDirectory parent error)
    | .ok () => return (← files.write path text.toUTF8).mapError (.unwrittenFile path)

/-- Hands a text over. What is left for standard output is the text, or nothing if a file takes it. -/
def deliver (output : Option String) (text : String) : m (Except Failure String) := do
  match output with
  | none => return .ok text
  | some path => return (← writeFile files path text).map fun _ => ""

/-- Does what arguments ask for. The result is what is left for standard output. -/
def run (arguments : Arguments) : m (Except Failure String × List Event) := do
  match ← readSource files standardInput arguments.source with
  | .error failure => return (.error failure, [])
  | .ok source =>
    match produce arguments source with
    | (.error failure, log) => return (.error failure, log)
    | (.ok text, log) => return (← deliver files arguments.output text, log)

inductive Outcome where
  /-- A question for help or for the version has been answered. -/
  | answered (text : String)
  | misused (error : UsageError)
  | ended (result : Except Failure String) (log : List Event)

def Outcome.ofCall (arguments : List String) : m Outcome := do
  match Arguments.parse arguments with
  | .error (.help long) => return .answered (if long then longHelp else shortHelp)
  | .error .version => return .answered versionText
  | .error (.misuse error) => return .misused error
  | .ok arguments =>
    let (result, log) ← run files standardInput arguments
    return .ended result log

end Effects

namespace Outcome

def exitCode : Outcome → UInt8
  | answered _ => 0
  | misused _ => 2
  | ended (.ok _) _ => 0
  | ended (.error _) _ => 1

def output : Outcome → String
  | answered text => text
  | misused _ => ""
  | ended (.ok text) _ => text
  | ended (.error _) _ => ""

/-- What the command writes to standard error: the events that the filter shows, and then the failure. -/
def diagnostics (filter : LogFilter) : Outcome → String
  | answered _ => ""
  | misused error => "error: " ++ error.message ++ "\n"
  | ended (.ok _) log => filter.lines log
  | ended (.error failure) log => filter.lines log ++ "error: " ++ failure.message ++ "\n"

end Outcome

end SchemaTyping.Command
