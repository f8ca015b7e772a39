import SchemaTyping.Query.Access

/-!
# Native filters

The named filters that no other filters could be made of: they look at a value as a whole. A list that
comes of it is made at the place of the call.
-/

namespace SchemaTyping.Query

inductive Native where
  | error
  | has
  | keysUnsorted
  | length
  | max
  | min
  | range
  | reverse
  | sort
  | toJson
  | type
  | unique
  deriving DecidableEq, Repr

/-- All native filters, with their names and how many arguments they have. -/
def natives : List (Native × String × Nat) :=
  [(.error, "error", 0), (.has, "has", 1), (.keysUnsorted, "keys_unsorted", 0), (.length, "length", 0),
    (.max, "max", 0), (.min, "min", 0), (.range, "range", 3), (.reverse, "reverse", 0), (.sort, "sort", 0),
    (.toJson, "tojson", 0), (.type, "type", 0), (.unique, "unique", 0)]

def native? (name : String) (arity : Nat) : Option Native :=
  (natives.find? fun entry => entry.2.1 = name ∧ entry.2.2 = arity).map (·.1)

/-- A value as a string: a string as it is, any other as its JSON text. -/
def Datum.asText : Datum → Datum
  | .string text => .string text
  | datum => .string datum.render

def Datum.has (value key : Datum) : Except Trouble Datum :=
  match value, key with
  | .array items, .int i =>
    if 0 ≤ i then .ok (.bool (i < items.length)) else .error (.notIndexable value key)
  | .object members, .string name => .ok (.bool (members.lookup name).isSome)
  | _, _ => .error (.notIndexable value key)

def Datum.keys : Datum → Except Trouble Datum
  | .array items => .ok (.array ((List.range items.length).map fun i => .int (i : Nat)))
  | .object members => .ok (.array (members.map fun member => .string member.1))
  | value => .error (.notUsable value .iterable)

def Datum.onItems (f : List Datum → Datum) : Datum → Except Trouble Datum
  | .array items => .ok (f items)
  | value => .error (.notUsable value .array)

/-- The first of the least values. -/
def leastOf : List Datum → Datum
  | [] => .null
  | first :: rest => rest.foldl (fun best item => if item.order best = .lt then item else best) first

/-- The last of the greatest values. -/
def greatestOf : List Datum → Datum
  | [] => .null
  | first :: rest => rest.foldl (fun best item => if best.order item = .gt then best else item) first

/-- Values without those that equal the one before them. -/
def dropRepeats : List Datum → List Datum
  | [] => []
  | first :: rest => first :: keepNew first rest
where
  keepNew (last : Datum) : List Datum → List Datum
    | [] => []
    | item :: rest => if last.equals item then keepNew last rest else item :: keepNew item rest

/-- Whether a sequence that goes on by steps of a sign has not reached its end. -/
def rangeGoesOn (step x stop : Datum) : Bool :=
  match step.order (.int 0) with
  | .gt => x.order stop = .lt
  | .lt => x.order stop = .gt
  | .eq => !x.equals stop

/-- A sequence of values from one on, each a step after the one before it, up to an end that is not
reached. `budget` bounds its length. -/
def rangeFrom (stop step : Datum) : (budget : Nat) → Place → Datum → Outputs Datum
  | 0, _, _ => .halt .exhausted
  | budget + 1, place, x =>
    if rangeGoesOn step x stop then
      .item x fun _ =>
        match Arithmetic.add.apply place x step with
        | .ok next => rangeFrom stop step budget (0 :: place) next
        | .error trouble => .fail trouble
    else .done

def stepLimit : Nat := 100000000

def Native.apply (native : Native) (place : Place) (arguments : List Datum) (input : Datum) : Outputs Datum :=
  let list (f : List Datum → List Datum) : Outputs Datum :=
    .ofExcept (input.onItems fun items => (Datum.array (f items)).madeAt place)
  match native, arguments with
  | .error, _ => .fail (.raised input)
  | .has, [key] => .ofExcept (input.has key)
  | .keysUnsorted, _ => .ofExcept input.keys
  | .length, _ => .ofExcept input.length
  | .max, _ => .ofExcept (input.onItems greatestOf)
  | .min, _ => .ofExcept (input.onItems leastOf)
  | .range, [start, stop, step] => rangeFrom stop step stepLimit place start
  | .reverse, _ => list List.reverse
  | .sort, _ => list sortData
  | .toJson, _ => .one (.string input.render)
  | .type, _ => .one (.string input.typeName)
  | .unique, _ => list fun items => dropRepeats (sortData items)
  | _, _ => .done

end SchemaTyping.Query
