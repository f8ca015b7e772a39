import SchemaTyping.Query.Scope

/-!
# Running filters

A filter gives outputs for an input, and a filter that leads to places in its input can update them. Both
go by the filter's form. Where two filters are combined, the outputs of the left one vary slowest, and a
failure of the left one counts only if the right one has something to combine it with.

Every run of a filter has a place, which no other run shares that could be told from it. Labels are known
by the places where they are set, and what is no number by the place where the list around it was made.

Definitions may call themselves, so every call of the two functions takes a step of a budget that no
reasonable filter uses up.
-/

namespace SchemaTyping.Query

def Comparison.holds : Comparison → Datum → Datum → Bool
  | .eq, a, b => a.equals b
  | .ne, a, b => !a.equals b
  | .lt, a, b => a.order b = .lt
  | .le, a, b => a.order b ≠ .gt
  | .gt, a, b => a.order b = .gt
  | .ge, a, b => a.order b ≠ .lt

def memberOf (place : Place) (key value : Datum) : Except Trouble Datum :=
  match key with
  | .string name => .ok ((Datum.object [(name, value)]).madeAt place)
  | _ => .error (.notUsable key .string)

/-- Whether some output counts as true, or there is a failure before one. -/
def anyTrue : Outputs Datum → Bool
  | .done => false
  | .halt _ => true
  | .item x rest => x.isTrue || anyTrue (rest ())

def gather (place : Place) (outputs : Outputs Datum) : Outputs Datum :=
  match outputs.collect with
  | .ok items => .one ((Datum.array items).madeAt place)
  | .error reason => .halt reason

/-- What is shown of the states after the first one in going through outputs with a state. -/
def statesAfter (step shown : Place → Datum → Datum → Outputs Datum) :
    Outputs Datum → Place → Datum → Outputs Datum
  | .done, _, _ => .done
  | .halt reason, _, _ => .halt reason
  | .item x rest, place, state =>
    (step (0 :: place) x state).bindNumbered fun turn next =>
      (shown (turn :: 1 :: place) x next).append fun _ =>
        statesAfter step shown (rest ()) (turn :: 2 :: place) next

/-- Updates what a chain of paths leads to: one path for each output, from where the path before it
leads. -/
def updateAlong (path : Datum → Update → Update) (change : Update) : Outputs Datum → Update
  | .done => change
  | .halt reason => fun _ _ => .halt reason
  | .item x rest => path x fun place value => updateAlong path change (rest ()) place value

/-- Updates what each path of a chain leads to, before the paths that go on from there. -/
def updateEach (path : Datum → Update → Update) (change : Datum → Update) : Outputs Datum → Update
  | .done => fun _ value => .one value
  | .halt reason => fun _ _ => .halt reason
  | .item x rest =>
    path x fun place value =>
      (change x (0 :: place) value).bindNumbered fun turn value =>
        updateEach path change (rest ()) (turn :: 1 :: place) value

section Parts

variable (run : Place → Filter → Outputs Datum)

def combine (place : Place) (operation : Place → Datum → Datum → Except Trouble Datum)
    (left right : Filter) : Outputs Datum :=
  ((run (0 :: place) left).pair fun turn => run (turn :: 1 :: place) right).bindNumbered
    fun turn (a, b) => .ofExcept (operation (turn :: 2 :: place) a b)

/-- What a step leads over, for each output of the filters in it. -/
def Step.accesses (place : Place) : Step → Outputs Access
  | .each => .one .each
  | .index key => (run place key).map .index
  | .sliceFrom start => (run place start).map fun a => .slice (some a) none
  | .sliceTo stop => (run place stop).map fun b => .slice none (some b)
  | .slice start stop =>
    ((run place start).pair fun _ => run place stop).map fun (a, b) => .slice (some a) (some b)

def stepAccesses (place : Place) : List (Step × Bool) → Outputs (List OptionalAccess)
  | [] => .one []
  | (step, mayFail) :: rest =>
    ((step.accesses run place).pair fun _ => stepAccesses place rest).map
      fun (access, others) => (access, mayFail) :: others

def argumentValues : Place → List Filter → Outputs (List Datum)
  | _, [] => .one []
  | place, first :: rest =>
    (run (0 :: place) first).bindNumbered fun turn value =>
      (argumentValues (turn :: 1 :: place) rest).map fun values => value :: values

/-- The scope of a call: that of the definition with its parameters. A filter goes with the scope of the
caller; of a value there is a scope for each output. -/
def bindParameters (caller : Scope) : Place → List Parameter → List Filter → Scope → Outputs Scope
  | place, .filter name :: parameters, f :: arguments, scope =>
    bindParameters caller place parameters arguments (.argument name f caller scope)
  | place, .value name :: parameters, f :: arguments, scope =>
    (run (0 :: place) f).bindNumbered fun turn value =>
      bindParameters caller (turn :: 1 :: place) parameters arguments (.variable name value scope)
  | _, _, _, scope => .one scope

end Parts

mutual
/-- The outputs of a filter for an input. -/
def Filter.run : (budget : Nat) → Place → Scope → Filter → Datum → Outputs Datum
  | 0, _, _, _, _ => .halt .exhausted
  | budget + 1, place, scope, filter, input =>
    let run (place : Place) (f : Filter) : Outputs Datum := Filter.run budget place scope f input
    let first : Place := 0 :: place
    let second (turn : Nat) : Place := turn :: 1 :: place
    match filter with
    | .identity => .one input
    | .recurse => .ofList input.withContents
    | .numeral text => .one (.ofNumeral text)
    | .string text => .one (.string text)
    | .asText f => (run first f).map Datum.asText
    | .emptyArray => .one (.array [])
    | .array f => gather place (run first f)
    | .emptyObject => .one (.object [])
    | .member key value => combine run place memberOf key value
    | .ownMember key => combine run place memberOf key (.path .identity [(.index key, false)])
    | .negate f => (run first f).bind fun x => .ofExcept x.negate
    | .pipe f g => (run first f).bindNumbered fun turn x => Filter.run budget (second turn) scope g x
    | .bind f name g =>
      (run first f).bindNumbered fun turn x =>
        Filter.run budget (second turn) (.variable name x scope) g input
    | .comma f g => (run first f).append fun _ => run (second 0) g
    | .assign .update target f =>
      Filter.update budget place scope target input fun place x => Filter.run budget place scope f x
    | .assign .replace target f =>
      (run first f).bindNumbered fun turn y =>
        Filter.update budget (second turn) scope target input fun _ _ => .one y
    | .assign (.arithmetic operation) target f =>
      (run first f).bindNumbered fun turn y =>
        Filter.update budget (second turn) scope target input fun place x =>
          .ofExcept (operation.apply place x y)
    | .assign .alternative target f =>
      (run first f).bindNumbered fun turn y =>
        Filter.update budget (second turn) scope target input fun _ x => .one (if x.isTrue then x else y)
    | .alternative f g =>
      match (run first f).filter Datum.isTrue with
      | .done => run (second 0) g
      | outputs => outputs
    | .either f g =>
      (run first f).bindNumbered fun turn x =>
        if x.isTrue then .one (.bool true) else (run (second turn) g).map fun y => .bool y.isTrue
    | .both f g =>
      (run first f).bindNumbered fun turn x =>
        if x.isTrue then (run (second turn) g).map fun y => .bool y.isTrue else .one (.bool false)
    | .compare comparison f g => combine run place (fun _ a b => .ok (.bool (comparison.holds a b))) f g
    | .calculate operation f g => combine run place operation.apply f g
    | .ifElse f g h =>
      (run first f).bindNumbered fun turn x => run (second turn) (if x.isTrue then g else h)
    | .attempt f => (run first f).recover fun _ => .done
    | .tryCatch f handler =>
      (run first f).recover fun trouble => Filter.run budget (second 0) scope handler trouble.caught
    | .fold kind f name arguments =>
      let runFor (g : Filter) (place : Place) (x state : Datum) : Outputs Datum :=
        Filter.run budget place (.variable name x scope) g state
      match arguments with
      | initial :: step :: more =>
        (run first initial).bindNumbered fun turn start =>
          let source := run (0 :: second turn) f
          match kind with
          | .reduce => source.foldAt (1 :: second turn) (runFor step) start
          | .foreach => statesAfter (runFor step) (runFor (more.headD .identity)) source (1 :: second turn) start
      | _ => .halt .exhausted
    | .label name f =>
      (Filter.run budget first (.label name place scope) f input).catchBreak place
    | .breakTo name =>
      match scope.label? name with
      | some target => .halt (.broken target)
      | none => .halt .exhausted
    | .define name parameters body rest =>
      Filter.run budget first (.definition ⟨name, parameters, body⟩ scope) rest input
    | .variable name =>
      match scope.value? name with
      | some value => .one value
      | none => .halt .exhausted
    | .path f steps =>
      (run first f).bindNumbered fun turn x =>
        (stepAccesses run (0 :: second turn) steps).bindNumbered fun other accesses =>
          followAll (other :: 1 :: second turn) accesses x
    | .call name arguments =>
      match scope.callee name arguments.length with
      | .argument f written => Filter.run budget first written f input
      | .definition definition outer =>
        (bindParameters run scope first definition.parameters arguments outer).bindNumbered fun turn inner =>
          Filter.run budget (second turn) inner definition.body input
      | .native native =>
        (argumentValues run first arguments).bindNumbered fun turn values =>
          native.apply (second turn) values input
      | .unknown => .halt .exhausted

/-- The input with all that a filter leads to in it updated. -/
def Filter.update : (budget : Nat) → Place → Scope → Filter → Datum → Update → Outputs Datum
  | 0, _, _, _, _, _ => .halt .exhausted
  | budget + 1, place, scope, filter, input, change =>
    let run (place : Place) (f : Filter) : Outputs Datum := Filter.run budget place scope f input
    let first : Place := 0 :: place
    let second : Place := 1 :: place
    match filter with
    | .identity => change place input
    | .recurse => updateWithin change input.depth place input
    | .asText f => Filter.update budget place scope f input fun _ _ => .fail .notAPath
    | .path f steps =>
      Filter.update budget first scope f input fun place x =>
        (stepAccesses run second steps).foldAt place
          (fun place accesses state => updateAll change accesses place state) x
    | .pipe f g =>
      Filter.update budget place scope f input fun place x => Filter.update budget place scope g x change
    | .comma f g =>
      (Filter.update budget first scope f input change).bindNumbered fun turn x =>
        Filter.update budget (turn :: second) scope g x change
    | .bind f name g =>
      (run first f).foldAt second
        (fun place x state => Filter.update budget place (.variable name x scope) g state change) input
    | .ifElse f g h =>
      (run first f).foldAt second
        (fun place x state => Filter.update budget place scope (if x.isTrue then g else h) state change) input
    | .alternative f g =>
      Filter.update budget second scope (if anyTrue (run first f) then f else g) input change
    | .fold kind f name arguments =>
      match arguments with
      | initial :: step :: more =>
        let updateFor (g : Filter) (x : Datum) (onward : Update) : Update := fun place state =>
          Filter.update budget place (.variable name x scope) g state onward
        let onward : Update :=
          match kind with
          | .reduce => updateAlong (updateFor step) change (run first f)
          | .foreach =>
            updateEach (updateFor step) (fun x => updateFor (more.headD .identity) x change) (run first f)
        Filter.update budget second scope initial input onward
      | _ => .fail .notAPath
    | .define name parameters body rest =>
      Filter.update budget place (.definition ⟨name, parameters, body⟩ scope) rest input change
    | .call name arguments =>
      match scope.callee name arguments.length with
      | .argument f written => Filter.update budget place written f input change
      | .definition definition outer =>
        (bindParameters run scope first definition.parameters arguments outer).foldAt second
          (fun place inner state => Filter.update budget place inner definition.body state change) input
      | .native native =>
        (argumentValues run first arguments).foldAt second
          (fun _ _ state => .fail (if native = .error then .raised state else .notAPath)) input
      | .unknown => .halt .exhausted
    | .breakTo name =>
      match scope.label? name with
      | some target => .halt (.broken target)
      | none => .halt .exhausted
    | _ => .fail .notAPath
end

def Filter.outputs (filter : Filter) (input : Datum) : Outputs Datum :=
  filter.run stepLimit [] .empty input

end SchemaTyping.Query
