import SchemaTyping.Query.Trouble

/-!
# Outputs of filters

A filter gives any number of outputs, one after the other, and may then fail. Outputs are computed when
they are asked for, so what nobody asks for is not computed. A filter may also end early by breaking out
to a label; that is no failure, and only the label stops it.
-/

namespace SchemaTyping.Query

inductive Halt where
  | failed (trouble : Trouble)
  /-- A break out to the label that was set at this place. -/
  | broken (label : Place)
  /-- More steps than any filter is given. -/
  | exhausted
  deriving Repr

inductive Outputs (α : Type) where
  | done
  | halt (reason : Halt)
  | item (first : α) (rest : Unit → Outputs α)

namespace Outputs

variable {α β : Type}

def one (x : α) : Outputs α :=
  item x fun _ => done

def fail (trouble : Trouble) : Outputs α :=
  halt (.failed trouble)

def ofExcept : Except Trouble α → Outputs α
  | .ok x => one x
  | .error trouble => fail trouble

def ofList : List α → Outputs α
  | [] => done
  | x :: xs => item x fun _ => ofList xs

/-- Outputs followed by others, if they do not end early. -/
def append : Outputs α → (Unit → Outputs α) → Outputs α
  | done, more => more ()
  | halt reason, _ => halt reason
  | item x rest, more => item x fun _ => (rest ()).append more

def bind : Outputs α → (α → Outputs β) → Outputs β
  | done, _ => done
  | halt reason, _ => halt reason
  | item x rest, f => (f x).append fun _ => (rest ()).bind f

def map (f : α → β) : Outputs α → Outputs β
  | done => done
  | halt reason => halt reason
  | item x rest => item (f x) fun _ => (rest ()).map f

/-- Each output with its number, from a first number on. -/
def numberFrom (number : Nat) : Outputs α → Outputs (Nat × α)
  | done => done
  | halt reason => halt reason
  | item x rest => item (number, x) fun _ => (rest ()).numberFrom (number + 1)

def bindNumbered (outputs : Outputs α) (f : Nat → α → Outputs β) : Outputs β :=
  (outputs.numberFrom 0).bind fun (number, x) => f number x

/-- Each output with all outputs of a second sequence, which may depend on its number. An end before its
time counts only where the second sequence has something to pair it with. -/
def pairFrom (number : Nat) (second : Nat → Outputs β) : Outputs α → Outputs (α × β)
  | done => done
  | halt reason =>
    match second number with
    | done => done
    | _ => halt reason
  | item x rest =>
    ((second number).map fun y => (x, y)).append fun _ => (rest ()).pairFrom (number + 1) second

/-- All pairs of outputs of two sequences, the first of which varies slowest. -/
def pair (first : Outputs α) (second : Nat → Outputs β) : Outputs (α × β) :=
  first.pairFrom 0 second

def filter (test : α → Bool) : Outputs α → Outputs α
  | done => done
  | halt reason => halt reason
  | item x rest =>
    if test x then item x fun _ => (rest ()).filter test else (rest ()).filter test

/-- Outputs in which a failure is followed up by the outputs that a function gives for it. -/
def recover (handler : Trouble → Outputs α) : Outputs α → Outputs α
  | done => done
  | halt (.failed trouble) => handler trouble
  | halt reason => halt reason
  | item x rest => item x fun _ => (rest ()).recover handler

/-- Outputs in which a break out to a label is an end. -/
def catchBreak (label : Place) : Outputs α → Outputs α
  | done => done
  | halt (.broken target) => if target = label then done else halt (.broken target)
  | halt reason => halt reason
  | item x rest => item x fun _ => (rest ()).catchBreak label

/-- The outputs after some that are given, last one first. -/
def collectAfter (found : List α) : Outputs α → Except Halt (List α)
  | done => .ok found.reverse
  | halt reason => .error reason
  | item x rest => (rest ()).collectAfter (x :: found)

def collect (outputs : Outputs α) : Except Halt (List α) :=
  outputs.collectAfter []

/-- Goes through outputs with a state. A step may give several states, and each goes on with the outputs
that are left. -/
def fold {σ : Type} (step : α → σ → Outputs σ) : Outputs α → σ → Outputs σ
  | done, state => one state
  | halt reason, _ => halt reason
  | item x rest, state => (step x state).bind fun state => (rest ()).fold step state

/-- Goes through outputs with a state, as `fold` does, where every step is taken at a place of its
own. -/
def foldAt {σ : Type} (place : Place) (step : Place → α → σ → Outputs σ) (outputs : Outputs α) (state : σ) :
    Outputs σ :=
  let stepAt (x : α) : Place × σ → Outputs (Place × σ)
    | (place, state) =>
      ((step (0 :: place) x state).numberFrom 0).map fun (turn, state) => (turn :: 1 :: place, state)
  (outputs.fold stepAt (place, state)).map (·.2)

end Outputs

end SchemaTyping.Query
