import SchemaTyping.Query.Calculate
import SchemaTyping.Query.Outputs

/-!
# Reaching into values

A step into a value leads to all of its items, to the one at an index or under a key, or to a slice. A
step can be followed to what it leads to, and what it leads to can be updated in place. The update of a
place may give nothing, and then the place is removed. A slice is made anew, and so is what a step of an
update goes into, even if it finds no place there.
-/

namespace SchemaTyping.Query

inductive Access where
  | each
  | index (index : Datum)
  | slice (start stop : Option Datum)
  deriving Repr

/-- The place in a list that an index names: from the end if it is negative. -/
def placeOf? (index : Int) (size : Nat) : Option Nat :=
  let place := if index < 0 then index + size else index
  if 0 ≤ place ∧ place < size then some place.toNat else none

/-- The place between items that the bound of a slice names, moved into the list. -/
def boundOf (bound : Option Int) (size whenAbsent : Nat) : Nat :=
  match bound with
  | none => whenAbsent
  | some i => min (if i < 0 then i + size else i).toNat size

def sliceBound : Option Datum → Except Trouble (Option Int)
  | none => .ok none
  | some (.int i) => .ok (some i)
  | some value => .error (.notUsable value .integer)

/-- The bounds of a slice of something of a size: where it starts, and how many items it has. -/
def sliceRange (start stop : Option Datum) (size : Nat) : Except Trouble (Nat × Nat) := do
  let start := boundOf (← sliceBound start) size 0
  let stop := boundOf (← sliceBound stop) size size
  .ok (start, stop - start)

/-- What is under an index or a key. Nothing there is `null`. -/
def Datum.atIndex (value index : Datum) : Except Trouble Datum :=
  match value, index with
  | .array items, .int i =>
    .ok (((placeOf? i items.length).bind fun place => items[place]?).getD .null)
  | .object members, .string key => .ok ((members.lookup key).getD .null)
  | .array _, _ | .object _, _ => .error (.notIndexable value index)
  | _, _ => .error (.notUsable value .iterable)

def Datum.values : Datum → Except Trouble (List Datum)
  | .array items => .ok items
  | .object members => .ok (members.map (·.2))
  | value => .error (.notUsable value .iterable)

def Datum.slice (value : Datum) (start stop : Option Datum) : Except Trouble Datum :=
  match value with
  | .array items => do
    let (skip, take) ← sliceRange start stop items.length
    .ok (.array ((items.drop skip).take take))
  | .string text => do
    let (skip, take) ← sliceRange start stop text.length
    .ok (.string (String.ofList ((text.toList.drop skip).take take)))
  | _ => .error (.notUsable value .rangeable)

def Access.follow (place : Place) (access : Access) (value : Datum) : Outputs Datum :=
  match access with
  | .each =>
    match value.values with
    | .ok values => .ofList values
    | .error trouble => .fail trouble
  | .index key => .ofExcept (value.atIndex key)
  | .slice start stop => .ofExcept ((value.slice start stop).map (Datum.madeAt place))

/-- A step, and whether it may fail without harm. -/
abbrev OptionalAccess := Access × Bool

/-- What several steps lead to, one after the other. A step that may fail gives nothing if it does. -/
def followAll (place : Place) : List OptionalAccess → Datum → Outputs Datum
  | [], value => .one value
  | (access, forgiving) :: rest, value =>
    let reached := access.follow place value
    let reached := if forgiving then reached.recover (fun _ => .done) else reached
    reached.bindNumbered fun turn => followAll (turn :: place) rest

def firstOutput {α : Type} : Outputs α → Except Halt (Option α)
  | .done => .ok none
  | .halt reason => .error reason
  | .item x _ => .ok (some x)

/-- Removes an entry by moving the last one into its place. -/
def removeBySwap (entries : Entries) (key : String) : Entries :=
  match entries.getLast? with
  | none => []
  | some last =>
    if last.1 = key then entries.dropLast
    else entries.dropLast.map fun entry => if entry.1 = key then last else entry

/-- How what is at a place is updated, where the run of the update has a place of its own. -/
abbrev Update := Place → Datum → Outputs Datum

/-- Updates each value of an object. A value for which nothing is given is dropped with its key. -/
def updateValues (update : Update) : Place → Entries → Except Halt Entries
  | _, [] => .ok []
  | place, (key, value) :: rest => do
    match ← firstOutput (update (0 :: place) value) with
    | some updated => .ok ((key, updated) :: (← updateValues update (1 :: place) rest))
    | none => updateValues update (1 :: place) rest

/-- Updates what a step leads to in a value. A step that may fail leaves the items as they are if it
does. All that is given for an item of a list takes the item's place where the step leads to every item;
elsewhere the first thing given counts. -/
def updateAt (place : Place) (access : OptionalAccess) (value : Datum) (update : Update) :
    Except Halt Datum :=
  let made (datum : Datum) : Except Halt Datum := .ok (datum.madeAt (0 :: place))
  let fail (trouble : Trouble) : Except Halt Datum :=
    if access.2 then made value else .error (.failed trouble)
  let inner : Place := 1 :: place
  match access.1, value with
  | .each, .array items => do
    made (.array (← ((Outputs.ofList items).bindNumbered fun turn => update (turn :: inner)).collect))
  | .each, .object members => do
    made (.object (← updateValues update inner members))
  | .index (.string key), .object members => do
    match members.lookup key with
    | some old =>
      match ← firstOutput (update inner old) with
      | some new => made (.object (Entries.insert members key new))
      | none => made (.object (removeBySwap members key))
    | none =>
      match ← firstOutput (update inner .null) with
      | some new => made (.object (Entries.insert members key new))
      | none => made value
  | .index index, .object _ => fail (.notIndexable value index)
  | .index (.int i), .array items =>
    match placeOf? i items.length with
    | none => fail (.outOfBounds i)
    | some found => do
      match ← firstOutput (update inner (items[found]?.getD .null)) with
      | some new => made (.array (items.set found new))
      | none => made (.array (items.eraseIdx found))
  | .index index, .array _ => fail (.notUsable index .integer)
  | .each, _ | .index _, _ => fail (.notUsable value .iterable)
  | .slice start stop, .array items =>
    match sliceRange start stop items.length with
    | .error trouble => fail trouble
    | .ok (skip, take) => do
      let part := Datum.array ((items.drop skip).take take)
      match ← firstOutput (update inner (part.madeAt (2 :: place))) with
      | some (.array new) => made (.array (items.take skip ++ new ++ items.drop (skip + take)))
      | some new => .error (.failed (.notUsable new .array))
      | none => made (.array (items.take skip ++ items.drop (skip + take)))
  | .slice _ _, _ => if access.2 then .ok value else .error (.failed (.notUsable value .array))

def updateAll (update : Update) : List OptionalAccess → Update
  | [], place, value => update place value
  | access :: rest, place, value =>
    match updateAt place access value (updateAll update rest) with
    | .ok updated => .one updated
    | .error reason => .halt reason

mutual
/-- A value, and all that is in it, from the outermost values inward. -/
def Datum.withContents : Datum → List Datum
  | .array items => .array items :: contentsOfAll items
  | .object members => .object members :: contentsOfEntries members
  | datum => [datum]

def contentsOfAll : List Datum → List Datum
  | [] => []
  | item :: items => item.withContents ++ contentsOfAll items

def contentsOfEntries : List (String × Datum) → List Datum
  | [] => []
  | (_, value) :: rest => value.withContents ++ contentsOfEntries rest
end

/-- Updates a value after all that is in it, from the innermost values outward. `depth` is at least the
depth of the value. -/
def updateWithin (update : Update) : (depth : Nat) → Update
  | 0, place, value => update place value
  | depth + 1, place, value =>
    match updateAt (0 :: place) (.each, true) value (updateWithin update depth) with
    | .ok updated => update (1 :: place) updated
    | .error reason => .halt reason

end SchemaTyping.Query
