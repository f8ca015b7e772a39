import SchemaTyping.Json.Printer
import SchemaTyping.Typing.TypeExpr

/-!
# Declarations

What a module of types declares: a name for a set of literal values, or a class with typed fields. A
literal value is quoted: a scalar is spelled as Python spells it, a list or an object as JSON does, and
backslashes and quotes are escaped. A declaration is a block of lines, and a module is blocks with one
empty line between them.
-/

namespace SchemaTyping.Typing

open Json (Value)

/-! ### Literals -/

/-- A value's text before it is quoted. -/
def literalChars : Value → List Char
  | .string text => text.toList
  | .bool true => "True".toList
  | .bool false => "False".toList
  | .null => "None".toList
  | value => value.chars

def escapeLiteralChar (c : Char) : List Char :=
  if c = '\\' ∨ c = '"' then ['\\', c] else [c]

def quoteLiteralChars (text : List Char) : List Char :=
  '"' :: text.flatMap escapeLiteralChar ++ ['"']

def quoteLiteral (value : Value) : String :=
  String.ofList (quoteLiteralChars (literalChars value))

/-! ### Declarations -/

structure Field where
  name : String
  type : TypeExpr
  required : Bool
  deriving Repr

inductive Body where
  /-- One of some values, given by their quoted texts. -/
  | literal (values : List String)
  | record (fields : List Field)
  deriving Repr

structure Declaration where
  name : String
  body : Body
  deriving Repr

/-- A field's line. A field that may be left out says so around its type. -/
def Field.line (field : Field) : String :=
  if field.required then "    " ++ field.name ++ ": " ++ field.type.render
  else "    " ++ field.name ++ ": NotRequired[" ++ field.type.render ++ "]"

def Declaration.lines (declaration : Declaration) : List String :=
  match declaration.body with
  | .literal values =>
    (declaration.name ++ " = Literal[") :: values.map (fun value => "    " ++ value ++ ",") ++ ["]"]
  | .record fields =>
    ("class " ++ declaration.name ++ "(TypedDict):") ::
      (if fields.isEmpty then ["    pass"] else fields.map Field.line)

def Declaration.render (declaration : Declaration) : String :=
  "\n".intercalate declaration.lines

/-- The lines that every module starts with: what the types are made of, and room before the first
declaration. -/
def preamble : List String :=
  ["from typing import Any, TypedDict, Union, Literal, List",
    "from typing_extensions import NotRequired", "", ""]

/-- When a module ends with a name for its root type. -/
inductive RootAlias where
  /-- When the root type's text has a closing bracket. -/
  | bracket
  /-- When the root is not itself declared under a name. -/
  | shape
  deriving DecidableEq, Repr

def RootAlias.applies : RootAlias → TypeExpr → Bool
  | .bracket, root => root.chars.contains ']'
  | .shape, root => !root.isDeclared

/-- A module: the preamble, the declarations, and perhaps a name for the root type. -/
def renderModule (mode : RootAlias) (declarations : List Declaration) (root : TypeExpr) : String :=
  let blocks := "\n".intercalate preamble :: declarations.map Declaration.render
  "\n\n".intercalate blocks ++ if mode.applies root then "\n\nRoot = " ++ root.render else ""

end SchemaTyping.Typing
