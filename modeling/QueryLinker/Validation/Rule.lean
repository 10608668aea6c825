import QueryLinker.Graphql.Error
import QueryLinker.Number.Integer
import QueryLinker.Validation.Traversal

/-!
This module contains rules. A rule watches a traversal with a state of its own, reports errors, and
may ask to be spared what is inside a node. Several rules watch side by side: the errors are in the
order of the events, and at one event in the order of the rules.
-/

namespace QueryLinker.Validation

open Graphql

inductive Halt where
  | tooDeep
  | broken (error : Graphql.Error)
  | number (flaw : Number.IntegerFlaw)
deriving Repr

structure Reaction (σ : Type) where
  state : σ
  errors : List Graphql.Error := []
  skip : Bool := false
  halt? : Option Halt := none

structure Rule where
  State : Type
  init : State
  visit : State → Event → Reaction State

namespace Rule

def ofState {σ : Type} (init : σ) (visit : σ → Event → Reaction σ) : Rule :=
  { State := σ, init, visit }

def ofEntered (errors : Event → List Graphql.Error) : Rule :=
  .ofState () fun _ e => { state := (), errors := if e.leaving then [] else errors e }

def ofTried (errors : Event → Except Halt (List Graphql.Error)) : Rule :=
  .ofState () fun _ e =>
    if e.leaving then { state := () }
    else
      match errors e with
      | .ok errors => { state := (), errors }
      | .error halt => { state := (), halt? := some halt }

end Rule

def Reaction.ofTrials (found : List (Except Halt Graphql.Error)) (skip : Bool) : Reaction Unit :=
  match found with
  | [] => { state := (), skip }
  | .error halt :: _ => { state := (), skip, halt? := some halt }
  | .ok e :: found =>
    let r := Reaction.ofTrials found skip
    { r with errors := e :: r.errors }

structure Watch where
  rule : Rule
  state : rule.State
  spared? : Option Nat := none

namespace Watch

def ofRule (rule : Rule) : Watch :=
  { rule, state := rule.init }

structure Step (α : Type 1) where
  next : α
  errors : List Graphql.Error := []
  halt? : Option Halt := none

def step (w : Watch) (e : Event) : Step Watch :=
  match w.spared? with
  | some depth =>
    let spared? :=
      if e.leaving then (if depth = 0 then none else some (depth - 1)) else some (depth + 1)
    { next := { w with spared? } }
  | none =>
    let r := w.rule.visit w.state e
    let spared? := if r.skip && !e.leaving then some 0 else none
    { next := { w with state := r.state, spared? }, errors := r.errors, halt? := r.halt? }

def stepAll (e : Event) : List Watch → Step (List Watch)
  | [] => { next := [] }
  | w :: ws =>
    let first := w.step e
    match first.halt? with
    | some halt => { next := first.next :: ws, errors := first.errors, halt? := some halt }
    | none =>
      let others := stepAll e ws
      { others with next := first.next :: others.next, errors := first.errors ++ others.errors }

/--
Show events to rules until there are more than `limit` errors. The errors found so far are `found`,
the last one first. What a rule says behind the last of these errors does not count.
-/
def run (limit : Nat) (found : List Graphql.Error) (ws : List Watch) :
    List Event → Except Halt (List Graphql.Error)
  | [] => .ok found.reverse
  | e :: es =>
    let s := stepAll e ws
    let found := s.errors.reverse ++ found
    if limit < found.length then .ok found.reverse
    else
      match s.halt? with
      | some halt => .error halt
      | none => run limit found s.next es

def runAll (ws : List Watch) : List Event → Except Halt (List Graphql.Error)
  | [] => .ok []
  | e :: es =>
    let s := stepAll e ws
    match s.halt? with
    | some halt => .error halt
    | none => (runAll s.next es).map (s.errors ++ ·)

end Watch

def Rule.errors (rule : Rule) (events : List Event) : Except Halt (List Graphql.Error) :=
  Watch.runAll [.ofRule rule] events

def maxErrors : Nat := 100

def tooManyErrors : Graphql.Error :=
  ⟨"Too many validation errors, error limit reached. Validation aborted.", []⟩

def validate (rules : List Rule) (events : List Event) : Except Halt (List Graphql.Error) := do
  let errors ← Watch.run maxErrors [] (rules.map .ofRule) events
  return if maxErrors < errors.length then errors.take maxErrors ++ [tooManyErrors] else errors

def validateAll (rules : List Rule) (events : List Event) : Except Halt (List Graphql.Error) :=
  Watch.runAll (rules.map .ofRule) events

end QueryLinker.Validation
