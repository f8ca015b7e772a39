import SchemaTyping.Query.Native
import SchemaTyping.Query.Prelude

/-!
# Names in filters

What the names in a filter stand for. Before a filter runs, every name in it is looked up, and those that
stand for nothing are reported in the order in which they are looked up. That is the order of the text
with three exceptions: what follows a variable or a definition is looked up before what it is bound to,
and the branches of a conditional are looked up from the last one to the first.
-/

namespace SchemaTyping.Query

inductive Unknown where
  | filter (name : String) (arity : Nat)
  | variable (name : String)
  | label (name : String)
  deriving DecidableEq, Repr

structure Names where
  filters : List (String × Nat)
  values : List String
  labels : List String
  deriving Repr

def Names.empty : Names := ⟨[], [], []⟩

namespace Names

def withFilter (names : Names) (name : String) (arity : Nat) : Names :=
  { names with filters := (name, arity) :: names.filters }

def withVariable (names : Names) (name : String) : Names :=
  { names with values := name :: names.values }

def withLabel (names : Names) (name : String) : Names :=
  { names with labels := name :: names.labels }

def withParameter (names : Names) : Parameter → Names
  | .filter name => names.withFilter name 0
  | .value name => names.withVariable name

def hasFilter (names : Names) (name : String) (arity : Nat) : Bool :=
  names.filters.contains (name, arity) || (definition? name arity).isSome || (native? name arity).isSome

end Names

mutual
/-- The names in a filter that stand for nothing. -/
def Filter.unknown (names : Names) : Filter → List Unknown
  | .identity | .recurse | .numeral _ | .string _ | .emptyArray | .emptyObject => []
  | .asText f | .array f | .ownMember f | .negate f | .attempt f => f.unknown names
  | .member f g | .pipe f g | .comma f g | .assign _ f g | .alternative f g | .either f g | .both f g
  | .compare _ f g | .calculate _ f g | .tryCatch f g => f.unknown names ++ g.unknown names
  | .bind f name g => g.unknown (names.withVariable name) ++ f.unknown names
  | .ifElse f g h => h.unknown names ++ f.unknown names ++ g.unknown names
  | .fold kind f name arguments =>
    let misfit := if kind.takes arguments.length then [] else [.filter kind.word arguments.length]
    match arguments with
    | [] | [_] => misfit
    | [initial, step] => f.unknown names ++ initial.unknown names ++ step.unknown (names.withVariable name) ++ misfit
    | initial :: step :: more :: _ =>
      f.unknown names ++ initial.unknown names ++ step.unknown (names.withVariable name) ++
        if misfit.isEmpty then more.unknown (names.withVariable name) else misfit
  | .label name f => f.unknown (names.withLabel name)
  | .breakTo name => if names.labels.contains name then [] else [.label name]
  | .define name parameters body rest =>
    let names := names.withFilter name parameters.length
    rest.unknown names ++ body.unknown (parameters.foldl Names.withParameter names)
  | .call name arguments =>
    unknownInAll names arguments ++
      if names.hasFilter name arguments.length then [] else [.filter name arguments.length]
  | .variable name => if names.values.contains name then [] else [.variable name]
  | .path f steps => f.unknown names ++ unknownInSteps names steps

def unknownInAll (names : Names) : List Filter → List Unknown
  | [] => []
  | f :: rest => f.unknown names ++ unknownInAll names rest

def unknownInSteps (names : Names) : List (Step × Bool) → List Unknown
  | [] => []
  | (step, _) :: rest => step.unknown names ++ unknownInSteps names rest

def Step.unknown (names : Names) : Step → List Unknown
  | .each => []
  | .index f | .sliceFrom f | .sliceTo f => f.unknown names
  | .slice f g => f.unknown names ++ g.unknown names
end

/-- What the names in a filter stand for while it runs. A filter that is passed as an argument keeps the
scope that it was written in. -/
inductive Scope where
  | empty
  | variable (name : String) (value : Datum) (outer : Scope)
  | label (name : String) (place : Place) (outer : Scope)
  | definition (definition : Definition) (outer : Scope)
  | argument (name : String) (filter : Filter) (written outer : Scope)
  deriving Repr

inductive Callee where
  /-- A filter passed as an argument, in the scope it was written in. -/
  | argument (filter : Filter) (scope : Scope)
  /-- A definition, in the scope that it stands in. -/
  | definition (definition : Definition) (scope : Scope)
  | native (native : Native)
  | unknown
  deriving Repr

/-- What a name with a number of arguments is, where no scope says anything else. -/
def globalCallee (name : String) (arity : Nat) : Callee :=
  match definition? name arity with
  | some definition => .definition definition .empty
  | none =>
    match native? name arity with
    | some native => .native native
    | none => .unknown

namespace Scope

/-- What a call is a call of. A definition is in the scope of its own body. -/
def callee (name : String) (arity : Nat) : Scope → Callee
  | .empty => globalCallee name arity
  | .variable _ _ outer => outer.callee name arity
  | .label _ _ outer => outer.callee name arity
  | .definition found outer =>
    if found.name = name ∧ found.parameters.length = arity then .definition found (.definition found outer)
    else outer.callee name arity
  | .argument found filter written outer =>
    if found = name ∧ arity = 0 then .argument filter written else outer.callee name arity

def value? (name : String) : Scope → Option Datum
  | .empty => none
  | .variable found value outer => if found = name then some value else outer.value? name
  | .label _ _ outer => outer.value? name
  | .definition _ outer => outer.value? name
  | .argument _ _ _ outer => outer.value? name

def label? (name : String) : Scope → Option Place
  | .empty => none
  | .variable _ _ outer => outer.label? name
  | .label found place outer => if found = name then some place else outer.label? name
  | .definition _ outer => outer.label? name
  | .argument _ _ _ outer => outer.label? name

end Scope

end SchemaTyping.Query
