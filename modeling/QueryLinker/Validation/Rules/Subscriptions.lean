import QueryLinker.Schema.Literal
import QueryLinker.Validation.Rules.Fragments

/-!
This module contains the rule about subscriptions: they select one field, which is no field about
the schema. What they select depends on conditions, which are evaluated here without any variables.
-/

namespace QueryLinker.Validation.Rules

open Graphql

/--
The value of the condition of `@skip` or `@include`, if the directive is there. A condition that has
no value is an error which ends validation.
-/
def condition? (directive : String) (ds : List Directive) : Except Halt (Option Bool) :=
  let broken (loc? : Option Loc) (text : String) : Except Halt (Option Bool) :=
    .error (.broken (errorAt loc? ("Argument 'if' " ++ text)))
  match ds.find? fun d => d.name.value == directive with
  | none => .ok none
  | some d =>
    match d.arguments.findRev? fun a => a.name.value == "if" with
    | none => broken d.loc? "of required type 'Boolean!' was not provided."
    | some a =>
      match a.value with
      | .boolean b _ => .ok (some b)
      | .var v =>
        broken v.loc? ("of required type 'Boolean!' was provided the variable " ++
          quoteName ("$" ++ v.name.value) ++ " which was not provided a runtime value.")
      | .null loc? => broken loc? "of non-null type 'Boolean!' must not be null."
      | v => broken v.loc? ("has invalid value " ++ Printer.value v ++ ".")

def takesPart (ds : List Directive) : Except Halt Bool := do
  if (← condition? "skip" ds) == some true then return false
  return (← condition? "include" ds) != some false

def applies (s : Schema) (condition? : Option NamedType) (type : String) : Bool :=
  match condition? with
  | none => true
  | some t =>
    let name := t.name.value
    (name == type && (s.type? name).isSome) ||
      (s.isType (·.isAbstract) name && s.isSubType name type)

structure Collected where
  fields : List FieldHead := []
  visited : List String := []

mutual

def collectSet (s : Subject) (type : String) (fuel : Nat) (c : Collected) :
    SelectionSet → Except Halt Collected
  | .absent => .ok c
  | .braces selections _ => collectSelections s type fuel c selections
termination_by set => (fuel, sizeOf set)

def collectSelections (s : Subject) (type : String) (fuel : Nat) (c : Collected) :
    List Selection → Except Halt Collected
  | [] => .ok c
  | x :: xs =>
    match collectSelection s type fuel c x with
    | .ok c => collectSelections s type fuel c xs
    | .error halt => .error halt
termination_by xs => (fuel, sizeOf xs)

def collectSelection (s : Subject) (type : String) (fuel : Nat) (c : Collected) :
    Selection → Except Halt Collected
  | .field head _ =>
    (takesPart head.directives).map fun takes =>
      if takes then { c with fields := c.fields ++ [head] } else c
  | .inline head set =>
    match takesPart head.directives with
    | .error halt => .error halt
    | .ok takes =>
      if takes && applies s.schema head.typeCondition? type then collectSet s type fuel c set
      else .ok c
  | .spread f =>
    let name := f.name.value
    if c.visited.contains name then .ok c
    else
      match takesPart f.directives, fuel with
      | .error halt, _ => .error halt
      | .ok false, _ => .ok c
      | .ok true, 0 => .error .tooDeep
      | .ok true, fuel + 1 =>
        let c := { c with visited := name :: c.visited }
        match s.fragment? name with
        | some d =>
          if applies s.schema (some d.typeCondition) type then
            collectSet s type fuel c d.selectionSet
          else .ok c
        | none => .ok c
termination_by x => (fuel, sizeOf x)

end

def singleFieldSubscriptions (s : Subject) : Rule where
  State := Unit
  init := ()
  visit _ e :=
    match e.leaving, e.node, s.schema.subscription? with
    | false, .operation o, some type =>
      if o.kind != .subscription then { state := () }
      else
        match collectSet s type s.nesting {} o.selectionSet with
        | .error halt => { state := (), halt? := some halt }
        | .ok c =>
          let groups := groupBy (·.responseName) c.fields
          let subject :=
            match o.name? with
            | some name => "Subscription " ++ quoteName name.value
            | none => "Anonymous Subscription"
          let several : List Graphql.Error :=
            match groups with
            | _ :: extra :: rest =>
              [⟨subject ++ " must select only one top level field.",
                ((extra :: rest).flatMap (·.2)).map (·.loc?)⟩]
            | _ => []
          let about := groups.filter fun (_, fields) =>
            (fields.head?.map (·.name.value)).any (·.startsWith "__")
          let introspective : List Graphql.Error := about.map fun (_, fields) =>
            ⟨subject ++ " must not select an introspection top level field.",
              fields.map (·.loc?)⟩
          { state := (), errors := several ++ introspective }
    | _, _, _ => { state := () }

end QueryLinker.Validation.Rules
