import SchemaTyping.Emission.Event
import SchemaTyping.Json.Pointer
import SchemaTyping.Text.Alphanumeric
import SchemaTyping.Text.Basic
import SchemaTyping.Text.Quoted

/-!
# The log of a run

A filter says which events are shown. It is a list of directives between commas. A directive gives a
target, a level or both, and may narrow that down to a span, to events with a field, or to a field with a
value, as in `target[span{field=value}]=level`. There are no spans here, so a directive with one shows
nothing, and no more does one that asks for a value.

Of the directives that fit an event the most specific one decides: the one with the longest target, and
of those one with a field. A filter that cannot be read is taken as the one that shows warnings.

Each event that is shown takes one line: its level, its source, its message and what it is about. What a
message holds of a document cannot steer a terminal: the controls that could are spelled by their
numbers.
-/

namespace SchemaTyping.Command

open Emission (Event Level Subject)

/-! ### Filters -/

/-- How many events a directive lets through: all those at its rank or below. -/
inductive Verbosity where
  | off
  | error
  | warn
  | info
  | debug
  | trace
  deriving DecidableEq, Repr

namespace Verbosity

def all : List Verbosity := [off, error, warn, info, debug, trace]

def rank : Verbosity → Nat
  | off => 0
  | error => 1
  | warn => 2
  | info => 3
  | debug => 4
  | trace => 5

def name : Verbosity → String
  | off => "off"
  | error => "error"
  | warn => "warn"
  | info => "info"
  | debug => "debug"
  | trace => "trace"

/-- The number that digits write, if there are any and no other characters. -/
def rankOf? (digits : List Char) : Option Nat :=
  if digits.isEmpty || !digits.all Char.isDigit then none
  else some (digits.foldl (fun n c => n * 10 + (c.toNat - '0'.toNat)) 0)

/-- The verbosity that a rank, which may have a plus sign, or a name in letters of either case stands
for. -/
def parse? (text : List Char) : Option Verbosity :=
  let digits := if text.head? = some '+' then text.drop 1 else text
  all.find? fun verbosity =>
    rankOf? digits = some verbosity.rank ∨ text.map Char.toLower = verbosity.name.toList

def allows (verbosity : Verbosity) : Level → Bool
  | .debug => debug.rank ≤ verbosity.rank
  | .warn => warn.rank ≤ verbosity.rank

end Verbosity

structure FieldTest where
  name : List Char
  /-- Whether the field has to have a certain value, too. -/
  hasValue : Bool
  deriving DecidableEq, Repr

/-- Up to which level events are to be shown, and which events. -/
structure Directive where
  /-- What the name of the events' source starts with. -/
  target : List Char
  /-- Whether the events have to be in a span of some name. -/
  hasSpan : Bool
  field : Option FieldTest
  verbosity : Verbosity
  deriving DecidableEq, Repr

/-- What is left to read of a directive. The marks that divide it are looked for in one text, and its
parts are cut out of the other at the same places. -/
structure Remainder where
  marks : List Char
  text : List Char
  deriving DecidableEq, Repr

namespace Remainder

/-- The part before the first mark of some kind, the mark, and what follows it. -/
def cut? (isMark : Char → Bool) : List Char → List Char → Option (List Char × Char × Remainder)
  | mark :: marks, c :: text =>
    if isMark mark then some ([], mark, ⟨marks, text⟩)
    else do
      let (part, mark, rest) ← cut? isMark marks text
      some (c :: part, mark, rest)
  | _, _ => none

def cutAt? (rest : Remainder) (isMark : Char → Bool) : Option (List Char × Char × Remainder) :=
  cut? isMark rest.marks rest.text

end Remainder

namespace Directive

/-- The verbosity after an equals sign. Without one everything is shown. -/
def verbosity? (text : List Char) : Option Verbosity :=
  if text.isEmpty then some .trace else Verbosity.parse? text

/-- The directive that goes on after its closing bracket, if it has one, or after its target. -/
def finish? (target : List Char) (hasSpan : Bool) (field : Option FieldTest) (rest : Remainder) :
    Option Directive :=
  match rest.marks with
  | [] => some ⟨target, hasSpan, field, .trace⟩
  | '=' :: _ => do some ⟨target, hasSpan, field, ← verbosity? (rest.text.drop 1)⟩
  | _ => none

def fieldTest (text : List Char) : FieldTest :=
  ⟨text.takeWhile (· ≠ '='), text.contains '='⟩

def afterBracket? (target : List Char) (rest : Remainder) : Option Directive := do
  let (span, mark, rest) ← rest.cutAt? fun c => c = ']' || c = '\x7b'
  if mark = ']' then finish? target true none rest
  else
    let (field, _, rest) ← rest.cutAt? (· = '\x7d')
    if field.isEmpty || rest.marks.head? ≠ some ']' then none
    else
      finish? target (!span.isEmpty) (some (fieldTest field)) ⟨rest.marks.drop 1, rest.text.drop 1⟩

/-- Whether a directive may start with a character, other than with a bracket. -/
def startsWith (c : Char) : Bool :=
  Text.isAlphanumeric c || c = '-' || c = ':' || c = '_'

/-- One directive. A text that is no level is a target, of which everything is shown. -/
def parse? (text : List Char) : Option Directive :=
  let whole : Remainder := ⟨Text.trimBlanks text, text⟩
  match whole.marks with
  | [] => none
  | '[' :: marks => afterBracket? [] ⟨marks, text.drop 1⟩
  | first :: _ =>
    if !startsWith first then none
    else
      match whole.cutAt? fun c => c = '=' || c = '[' with
      | some (target, '=', rest) => do some ⟨target, false, none, ← verbosity? rest.text⟩
      | some (target, _, rest) => afterBracket? target rest
      | none =>
        match Verbosity.parse? text with
        | some verbosity => some ⟨[], false, none, verbosity⟩
        | none => some ⟨text, false, none, .trace⟩

/-- Whether a directive decides on the events of a source that have fields of some names. -/
def fits (directive : Directive) (source : String) (fields : List String) : Bool :=
  !directive.hasSpan && directive.target.isPrefixOf source.toList &&
    match directive.field with
    | none => true
    | some test => !test.hasValue && fields.contains (String.ofList test.name)

/-- Whether a directive is at least as specific as another one that fits the same events. Of two that ask
for different fields the one whose field comes later in the alphabet is. -/
def atLeastAsSpecific (directive other : Directive) : Bool :=
  other.target.length < directive.target.length ||
    (directive.target.length = other.target.length &&
      match directive.field, other.field with
      | _, none => true
      | none, some _ => false
      | some test, some another => !decide (test.name < another.name))

end Directive

abbrev LogFilter := List Directive

namespace LogFilter

def upTo (verbosity : Verbosity) : LogFilter := [⟨[], false, none, verbosity⟩]

/-- The directives of a text, if all can be read. Without any, errors are shown. -/
def parse? (text : String) : Option LogFilter := do
  let directives ← ((Json.splitAt ',' text.toList).filter (!·.isEmpty)).mapM Directive.parse?
  return if directives.isEmpty then upTo .error else directives

def ofSetting (setting : Option String) : LogFilter :=
  (setting.bind parse?).getD (upTo .warn)

/-- What is shown of a source's events with fields of some names: what the most specific fitting
directive says, and of equally specific ones the last. -/
def verbosity (filter : LogFilter) (source : String) (fields : List String) : Verbosity :=
  let moreSpecific (best : Option Directive) (directive : Directive) : Option Directive :=
    match best with
    | none => some directive
    | some chosen => if directive.atLeastAsSpecific chosen then some directive else best
  match (filter.filter (·.fits source fields)).foldl moreSpecific none with
  | some directive => directive.verbosity
  | none => .off

end LogFilter

def eventSource : String := "json_typeddict::codegen"

def eventFields (event : Event) : List String :=
  match event.subject with
  | .name _ => ["message", "name"]
  | .property _ => ["message", "property"]

def LogFilter.shows (filter : LogFilter) (event : Event) : Bool :=
  (filter.verbosity eventSource (eventFields event)).allows event.level

/-! ### Lines -/

def defuse (c : Char) : List Char :=
  if c = '\x1b' then "\\x1b".toList
  else if c = '\x07' then "\\x07".toList
  else if c = '\x08' then "\\x08".toList
  else if c = '\x0c' then "\\x0c".toList
  else if c = '\x7f' then "\\x7f".toList
  else if 0x80 ≤ c.toNat ∧ c.toNat ≤ 0x9F then ['\\', 'u', '\x7b'] ++ Nat.toDigits 16 c.toNat ++ ['\x7d']
  else [c]

def levelWord : Level → String
  | .debug => "DEBUG"
  | .warn => "WARN"

/-- What an event is about, as a log line tells it. A property is quoted, since any text may be one; a
name stands as it is. -/
def subjectText : Subject → String
  | .name name => "name=" ++ name
  | .property property => "property=" ++ Text.quoteVisible property

def eventLine (event : Event) : String :=
  levelWord event.level ++ " " ++ eventSource ++ ": " ++
    String.ofList (event.message.toList.flatMap defuse) ++ " " ++ subjectText event.subject ++ "\n"

def LogFilter.lines (filter : LogFilter) (log : List Event) : String :=
  String.join ((log.filter filter.shows).map eventLine)

end SchemaTyping.Command
