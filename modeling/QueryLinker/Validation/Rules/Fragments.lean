import QueryLinker.Validation.Rules.Operations

/-!
This module contains the rules about fragments: they have different names, those that are spread are
known, all are used, can apply where they are spread, and do not contain themselves.
-/

namespace QueryLinker.Validation.Rules

open Graphql

def uniqueFragmentNames : Rule :=
  .ofState ([] : List (String × Option Loc)) fun seen e =>
    match e.leaving, e.node with
    | false, .fragment f =>
      let message (n : String) : String :=
        "There can be only one fragment named " ++ quoteName n ++ "."
      let (state, errors) := noteName message seen f.name
      { state, errors, skip := true }
    | false, .operation _ => { state := seen, skip := true }
    | _, _ => { state := seen }

def knownFragmentNames (s : Subject) : Rule :=
  .ofEntered fun e =>
    match e.node with
    | .spread f =>
      if (s.fragment? f.name.value).isSome then []
      else [errorAt f.name.loc? ("Unknown fragment " ++ quoteName f.name.value ++ ".")]
    | _ => []

def noUnusedFragments (s : Subject) : Rule :=
  .ofState () fun _ e =>
    match e.leaving, e.node with
    | true, .document d =>
      let used := d.operations.flatMap fun o => (s.fragmentsOf o).map (·.name.value)
      let unused := d.fragments.filter fun f => !used.contains f.name.value
      { state := (), errors := unused.map fun f =>
          errorAt f.loc? ("Fragment " ++ quoteName f.name.value ++ " is never used.") }
    | false, .operation _ => { state := (), skip := true }
    | false, .fragment _ => { state := (), skip := true }
    | _, _ => { state := () }

def possibleFragmentSpreads (s : Subject) : Rule :=
  let composite? (name? : Option String) : Option String :=
    name?.filter (s.schema.isType (·.isComposite))
  .ofEntered fun e =>
    match e.node, composite? e.types.parentType? with
    | .inline head _, some parent =>
      match composite? (e.types.type?.map (·.baseName)) with
      | some type =>
        if s.schema.overlaps type parent then []
        else
          [errorAt head.loc? ("Fragment cannot be spread here as objects of type " ++
            quoteName parent ++ " can never be of type " ++ quoteName type ++ ".")]
      | none => []
    | .spread f, some parent =>
      let name := f.name.value
      match composite? ((s.fragment? name).map (·.typeCondition.name.value)) with
      | some type =>
        if s.schema.overlaps type parent then []
        else
          [errorAt f.loc? ("Fragment " ++ quoteName name ++
            " cannot be spread here as objects of type " ++ quoteName parent ++
            " can never be of type " ++ quoteName type ++ ".")]
      | none => []
    | _, _ => []

structure CycleSearch where
  visited : List String := []
  errors : List Graphql.Error := []

def cycleError (name : String) (way : List FragmentSpread) : Graphql.Error :=
  let via := ", ".intercalate (way.dropLast.map fun f => quoteName f.name.value)
  ⟨"Cannot spread fragment " ++ quoteName name ++ " within itself" ++
      (if via.isEmpty then "." else " via " ++ via ++ "."),
    way.map (·.loc?)⟩

mutual

/--
Search the fragments behind a fragment for one that is on the way there. The way is given by the
fragments on it, each with the spread that leaves it, the last one first.
-/
def searchFragment (s : Subject) (fuel : Nat) (way : List (String × FragmentSpread))
    (search : CycleSearch) (f : FragmentDefinition) : Except Halt CycleSearch :=
  match fuel with
  | 0 => .error .tooDeep
  | fuel + 1 =>
    if search.visited.contains f.name.value then .ok search
    else
      searchSpreads s fuel way f.name.value
        { search with visited := f.name.value :: search.visited } (setSpreads f.selectionSet)

def searchSpreads (s : Subject) (fuel : Nat) (way : List (String × FragmentSpread))
    (name : String) (search : CycleSearch) : List FragmentSpread → Except Halt CycleSearch
  | [] => .ok search
  | spread :: spreads => do
    let target := spread.name.value
    let way' := (name, spread) :: way
    let search ←
      if way'.any fun step => step.1 == target then
        -- The cycle starts with the spread that leaves the target.
        let back := (way'.takeWhile fun step => step.1 != target).map (·.2)
        let start := ((way'.dropWhile fun step => step.1 != target).take 1).map (·.2)
        pure { search with
          errors := search.errors ++ [cycleError target (start ++ back.reverse)] }
      else
        match s.fragment? target with
        | some f => searchFragment s fuel way' search f
        | none => pure search
    searchSpreads s fuel way name search spreads

end

def noFragmentCycles (s : Subject) : Rule where
  State := List String
  init := []
  visit visited e :=
    match e.leaving, e.node with
    | false, .fragment f =>
      match searchFragment s s.nesting [] { visited } f with
      | .ok search => { state := search.visited, errors := search.errors, skip := true }
      | .error halt => { state := visited, halt? := some halt }
    | false, .operation _ => { state := visited, skip := true }
    | _, _ => { state := visited }

end QueryLinker.Validation.Rules
