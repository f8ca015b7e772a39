import SchemaTyping.Command.Arguments

/-!
# Help

The texts that describe the command: a short one with a line for each flag, and a long one with examples
and the meaning of the values that a flag may have.
-/

namespace SchemaTyping.Command

def purpose : String := "Convert a JSON schema to Python TypedDicts."

/-- The line that the command answers a question for its version with. -/
def versionText : String := "json-typeddict 0.1.0\n"

structure FlagHelp where
  /-- The flag's spellings, with a name for its value. -/
  usage : String
  shortText : String
  longText : String
  default? : Option String
  values : List (String × String)
  deriving Repr

/-- A flag with one text for both helps. -/
def FlagHelp.plain (usage text : String) (default? : Option String) : FlagHelp :=
  ⟨usage, text, text, default?, []⟩

def flagHelps : List FlagHelp :=
  [ .plain "-i, --input <INPUT>" "input JSON schema file ('-' or omitted for stdin)" none,
    .plain "-o, --output <OUTPUT>" "output .py file (stdout if omitted)" none,
    .plain "    --json-pointer <JSON_POINTER>"
      "JSON Pointer selecting the schema inside the input (e.g. /components/schemas/Pet)" none,
    .plain "    --jq-expr <JQ_EXPR>" "JQ pre-process filter; must yield exactly one document" none,
    { FlagHelp.plain "    --root-alias <ROOT_ALIAS>" "when to append the trailing `Root = ...` alias"
        (some "bracket") with
      values :=
        [("bracket", "Alias when the root expression's text contains `]` (`List[..]`, `Union[..]`). " ++
            "Primitive and `$ref` roots get no alias"),
          ("shape", "Alias whenever the root did not itself produce a declaration")] },
    .plain "    --root-name <ROOT_NAME>" "property name used for the document root" (some "root"),
    .plain "    --strict-names" "fail instead of warning when two declarations share a name" none,
    ⟨"-h, --help", "Print help (see more with '--help')", "Print help (see a summary with '-h')", none, []⟩,
    .plain "-V, --version" "Print version" none ]

def padTo (width : Nat) (text : String) : String :=
  text ++ "".pushn ' ' (width - text.length)

def defaultRemark (default? : Option String) : List String :=
  match default? with
  | some value => ["[default: " ++ value ++ "]"]
  | none => []

def FlagHelp.shortLine (help : FlagHelp) : String :=
  let names := ", ".intercalate (help.values.map (·.1))
  let values := if help.values.isEmpty then [] else ["[possible values: " ++ names ++ "]"]
  "  " ++ padTo 33 help.usage ++ "  " ++
    " ".intercalate (help.shortText :: defaultRemark help.default? ++ values)

/-- The margin of what the long help tells about a flag. -/
def margin : String := "".pushn ' ' 10

/-- A flag's lines in the long help, with an empty line after them. -/
def FlagHelp.longLines (help : FlagHelp) : List String :=
  let value (entry : String × String) : String :=
    margin ++ "- " ++ padTo 8 (entry.1 ++ ":") ++ " " ++ entry.2
  let values := if help.values.isEmpty then [] else "" :: (margin ++ "Possible values:") :: help.values.map value
  let remark := (defaultRemark help.default?).flatMap fun text => [margin, margin ++ text]
  ["  " ++ help.usage, margin ++ help.longText] ++ values ++ remark ++ [""]

def usageLines : List String := ["Usage: json-typeddict [OPTIONS]", "", "Options:"]

def exampleLines : List String :=
  ["Examples:", "", "  json-typeddict --input schema.json --output schema.py", "",
    "  genson data.json | json-typeddict --output schema.py", ""]

def shortHelp : String :=
  "\n".intercalate ([purpose, ""] ++ usageLines ++ flagHelps.map FlagHelp.shortLine) ++ "\n"

def longHelp : String :=
  "\n".intercalate ([purpose, ""] ++ exampleLines ++ usageLines ++ flagHelps.flatMap FlagHelp.longLines)

end SchemaTyping.Command
