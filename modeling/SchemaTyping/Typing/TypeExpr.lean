import SchemaTyping.Schema.Shape

/-!
# Type expressions

The Python types that schemas become. A name in a type is either one that a schema refers to, which may
be declared anywhere or nowhere, or one that this library has declared itself; both are printed alike.
-/

namespace SchemaTyping.Typing

open Schema (Primitive)

inductive TypeExpr where
  | any
  | primitive (type : Primitive)
  /-- A name that a schema refers to. -/
  | reference (name : String)
  /-- The name of a declaration of this library. -/
  | declared (name : String)
  | list (item : TypeExpr)
  | union (arms : List TypeExpr)
  deriving Repr, Inhabited

def TypeExpr.isDeclared : TypeExpr → Bool
  | .declared _ => true
  | _ => false

mutual
def TypeExpr.chars : TypeExpr → List Char
  | .any => "Any".toList
  | .primitive type => type.pythonName.toList
  | .reference name => name.toList
  | .declared name => name.toList
  | .list item => "List[".toList ++ item.chars ++ [']']
  | .union arms => "Union[".toList ++ armChars arms ++ [']']

def armChars : List TypeExpr → List Char
  | [] => []
  | arm :: arms => arm.chars ++ moreArmChars arms

/-- The characters of the arms after the first one, each after a comma and a space. -/
def moreArmChars : List TypeExpr → List Char
  | [] => []
  | arm :: arms => ',' :: ' ' :: arm.chars ++ moreArmChars arms
end

def TypeExpr.render (type : TypeExpr) : String :=
  String.ofList type.chars

end SchemaTyping.Typing
