import Std.Data.HashMap
import QueryLinker.Schema.Literal
import QueryLinker.Validation.Rules.Fragments

/-!
This module contains the rule about fields that share a name in the response: they have to be the
same field with the same arguments, or belong to different object types, and their values have to be
of the same shape. What was found of a selection set is kept, as well as which fragments were
compared.
-/

namespace QueryLinker.Validation.Rules

open Graphql

structure Candidate where
  parent? : Option String
  head : FieldHead
  set : SelectionSet
  type? : Option Schema.TypeExpr

structure FieldMap where
  number : Nat
  fields : List (String × List Candidate)
  spreads : List String

structure Conflict where
  name : String
  reason : String
  left : List (Option Loc)
  right : List (Option Loc)

structure OverlapState where
  maps : Std.HashMap (Option (Nat × Nat)) (List (SelectionSet × FieldMap)) := {}
  count : Nat := 0
  compared : Std.HashMap (String × String) Bool := {}

abbrev Overlap := StateT OverlapState (Except Halt)

def addCandidate (name : String) (c : Candidate) :
    List (String × List Candidate) → List (String × List Candidate)
  | [] => [(name, [c])]
  | (n, cs) :: rest =>
    if n == name then (n, cs ++ [c]) :: rest else (n, cs) :: addCandidate name c rest

def addName (names : List String) (name : String) : List String :=
  if names.contains name then names else names ++ [name]

mutual

def collectFields (s : Schema) (parent? : Option String) (m : FieldMap) : SelectionSet → FieldMap
  | .absent => m
  | .braces selections _ => collectFieldsOf s parent? m selections
termination_by structural set => set

def collectFieldsOf (s : Schema) (parent? : Option String) (m : FieldMap) :
    List Selection → FieldMap
  | [] => m
  | x :: xs => collectFieldsOf s parent? (collectFieldsIn s parent? m x) xs
termination_by structural xs => xs

def collectFieldsIn (s : Schema) (parent? : Option String) (m : FieldMap) : Selection → FieldMap
  | .field head set =>
    let declared? := (parent?.bind s.type?).bind fun t => t.field? head.name.value
    let c : Candidate := ⟨parent?, head, set, declared?.map (·.type)⟩
    { m with fields := addCandidate head.responseName c m.fields }
  | .spread f => { m with spreads := addName m.spreads f.name.value }
  | .inline head set =>
    let inner? :=
      match head.typeCondition? with
      | some t => (s.type? t.name.value).map (·.name)
      | none => parent?
    collectFields s inner? m set
termination_by structural x => x

end

def fieldMap (s : Schema) (parent? : Option String) (set : SelectionSet) : Overlap FieldMap := do
  let state ← get
  let place := set.loc?.map fun loc => (loc.start, loc.stop)
  let known := (state.maps[place]?).getD []
  match known.find? fun entry => entry.1 == set with
  | some entry => return entry.2
  | none =>
    let m := collectFields s parent? ⟨state.count, [], []⟩ set
    StateT.set { state with
      maps := state.maps.insert place ((set, m) :: known), count := state.count + 1 }
    return m

def fragmentMap (s : Schema) (f : FragmentDefinition) : Overlap FieldMap :=
  fieldMap s ((s.type? f.typeCondition.name.value).map (·.name)) f.selectionSet

def orderedPair (a b : String) : String × String :=
  if a < b then (a, b) else (b, a)

def noteCompared (exclusive : Bool) (a b : String) : Overlap Bool := do
  let state ← get
  let pair := orderedPair a b
  let before :=
    match state.compared[pair]? with
    -- A comparison without mutual exclusion covers one with it.
    | some earlier => exclusive || !earlier
    | none => false
  if !before then
    StateT.set { state with compared := state.compared.insert pair exclusive }
  return before

def inOrder (a b : ObjectField) : Bool :=
  (Text.naturalCompare a.name.value b.name.value).isLE

mutual

def sortValue : Value → Value
  | .list items loc? => .list (sortValues items) loc?
  | .object fields loc? => .object ((sortFields fields).mergeSort inOrder) loc?
  | v => v
termination_by structural v => v

def sortValues : List Value → List Value
  | [] => []
  | v :: vs => sortValue v :: sortValues vs
termination_by structural vs => vs

def sortFields : List ObjectField → List ObjectField
  | [] => []
  | f :: fs => sortField f :: sortFields fs
termination_by structural fs => fs

def sortField : ObjectField → ObjectField
  | .mk name v loc? => .mk name (sortValue v) loc?
termination_by structural f => f

end

mutual

def orderingNames : Value → List String
  | .list items _ => orderingNamesOf items
  | .object fields _ => orderingNamesIn fields ++ fields.map (·.name.value)
  | _ => []
termination_by structural v => v

def orderingNamesOf : List Value → List String
  | [] => []
  | v :: vs => orderingNames v ++ orderingNamesOf vs
termination_by structural vs => vs

def orderingNamesIn : List ObjectField → List String
  | [] => []
  | f :: fs => orderingNamesInside f ++ orderingNamesIn fs
termination_by structural fs => fs

def orderingNamesInside : ObjectField → List String
  | .mk _ v _ => orderingNames v
termination_by structural f => f

end

def orderedText (v : Value) : Except Halt String := do
  (Text.checkNatural (orderingNames v)).mapError .number
  return Printer.value (sortValue v)

/--
Whether two fields have the same arguments: as many, and each of the first has its value, in the
second, under its name; of several arguments with one name the last counts there.
-/
def sameArguments (as bs : List Argument) : Except Halt Bool :=
  if as.length = bs.length then
    Schema.allPass (fun (a : Argument) =>
      match bs.findRev? fun b => b.name.value == a.name.value with
      | some b => do return (← orderedText a.value) == (← orderedText b.value)
      | none => .ok false) as
  else .ok false

def shapesConflict (s : Schema) : Schema.TypeExpr → Schema.TypeExpr → Bool
  | .list a, .list b => shapesConflict s a b
  | .list _, _ => true
  | _, .list _ => true
  | .nonNull a, .nonNull b => shapesConflict s a b
  | .nonNull _, _ => true
  | _, .nonNull _ => true
  | .named a, .named b => (s.isType (·.isLeaf) a || s.isType (·.isLeaf) b) && a != b

def onDifferentObjects (s : Schema) (a b : Option String) : Bool :=
  a != b && a.any (s.isType (·.isObject)) && b.any (s.isType (·.isObject))

def subfieldConflict? (name : String) (a b : Candidate) (conflicts : List Conflict) :
    Option Conflict :=
  if conflicts.isEmpty then none
  else
    let reasons := conflicts.map fun c =>
      "subfields " ++ quoteName c.name ++ " conflict because " ++ c.reason
    some ⟨name, " and ".intercalate reasons, a.head.loc? :: conflicts.flatMap (·.left),
      b.head.loc? :: conflicts.flatMap (·.right)⟩

def gather {α : Type} (action : α → Overlap (List Conflict)) : List α → Overlap (List Conflict)
  | [] => return []
  | x :: xs => do
    let conflicts ← action x
    let later ← gather action xs
    return conflicts ++ later

mutual

def conflictOf (s : Subject) (fuel : Nat) (exclusive : Bool) (name : String) (a b : Candidate) :
    Overlap (List Conflict) := do
  match fuel with
  | 0 => throw .tooDeep
  | fuel + 1 =>
    let exclusive := exclusive || onDifferentObjects s.schema a.parent? b.parent?
    let conflict (reason : String) : List Conflict := [⟨name, reason, [a.head.loc?], [b.head.loc?]⟩]
    let nameA := a.head.name.value
    let nameB := b.head.name.value
    if !exclusive && nameA != nameB then
      return conflict (quoteName nameA ++ " and " ++ quoteName nameB ++ " are different fields")
    else
      let same ← if exclusive then pure true else sameArguments a.head.arguments b.head.arguments
      if !same then return conflict "they have differing arguments"
      let shapes : Option String := do
        let typeA ← a.type?
        let typeB ← b.type?
        if shapesConflict s.schema typeA typeB then
          some ("they return conflicting types " ++ quoteName typeA.text ++ " and " ++
            quoteName typeB.text)
        else none
      match shapes with
      | some reason => return conflict reason
      | none =>
        if a.set.isPresent && b.set.isPresent then
          let conflicts ← betweenSets s fuel exclusive a b
          return (subfieldConflict? name a b conflicts).toList
        else return []

def betweenSets (s : Subject) (fuel : Nat) (exclusive : Bool) (a b : Candidate) :
    Overlap (List Conflict) := do
  match fuel with
  | 0 => throw .tooDeep
  | fuel + 1 =>
    let mapA ← fieldMap s.schema (a.type?.map (·.baseName)) a.set
    let mapB ← fieldMap s.schema (b.type?.map (·.baseName)) b.set
    let fields ← between s fuel exclusive mapA mapB
    let withB ← gather (withFragment s fuel exclusive mapA) mapB.spreads
    let withA ← gather (withFragment s fuel exclusive mapB) mapA.spreads
    let fragments ← gather
      (fun f => gather (betweenFragments s fuel exclusive f) mapB.spreads) mapA.spreads
    return fields ++ withB ++ withA ++ fragments

def between (s : Subject) (fuel : Nat) (exclusive : Bool) (m n : FieldMap) :
    Overlap (List Conflict) := do
  match fuel with
  | 0 => throw .tooDeep
  | fuel + 1 =>
    gather (fun (name, candidates) =>
      match n.fields.lookup name with
      | some others =>
        gather (fun a => gather (conflictOf s fuel exclusive name a) others) candidates
      | none => return []) m.fields

def withFragment (s : Subject) (fuel : Nat) (exclusive : Bool) (m : FieldMap) (name : String) :
    Overlap (List Conflict) := do
  match fuel with
  | 0 => throw .tooDeep
  | fuel + 1 =>
    match s.fragment? name with
    | none => return []
    | some f =>
      let n ← fragmentMap s.schema f
      if m.number == n.number then return []
      else
        let fields ← between s fuel exclusive m n
        let nested ← gather (fun inner => do
          if ← noteCompared exclusive inner name then return []
          else withFragment s fuel exclusive m inner) n.spreads
        return fields ++ nested

def betweenFragments (s : Subject) (fuel : Nat) (exclusive : Bool) (a b : String) :
    Overlap (List Conflict) := do
  match fuel with
  | 0 => throw .tooDeep
  | fuel + 1 =>
    if a == b then return []
    else if ← noteCompared exclusive a b then return []
    else
      match s.fragment? a, s.fragment? b with
      | some f, some g =>
        let m ← fragmentMap s.schema f
        let n ← fragmentMap s.schema g
        let fields ← between s fuel exclusive m n
        let nestedB ← gather (betweenFragments s fuel exclusive a) n.spreads
        let nestedA ← gather (fun inner => betweenFragments s fuel exclusive inner b) m.spreads
        return fields ++ nestedB ++ nestedA
      | _, _ => return []

end

def gatherPairs {α : Type} (action : α → α → Overlap (List Conflict)) :
    List α → Overlap (List Conflict)
  | [] => return []
  | x :: xs => do
    let conflicts ← gather (action x) xs
    let later ← gatherPairs action xs
    return conflicts ++ later

def withSpreads (s : Subject) (m : FieldMap) : List String → Overlap (List Conflict)
  | [] => return []
  | f :: fs => do
    let own ← withFragment s s.nesting false m f
    let pairs ← gather (betweenFragments s s.nesting false f) fs
    let later ← withSpreads s m fs
    return own ++ pairs ++ later

def within (s : Subject) (parent? : Option String) (set : SelectionSet) :
    Overlap (List Conflict) := do
  let m ← fieldMap s.schema parent? set
  let fields ← gather (fun (name, candidates) =>
    gatherPairs (conflictOf s s.nesting false name) candidates) m.fields
  let fragments ← withSpreads s m m.spreads
  return fields ++ fragments

def overlappingFieldsCanBeMerged (s : Subject) : Rule where
  State := OverlapState
  init := {}
  visit state e :=
    match e.leaving, e.node with
    | false, .selectionSet set =>
      match (within s e.types.parentType? set).run state with
      | .error halt => { state, halt? := some halt }
      | .ok (conflicts, after) =>
        { state := after, errors := conflicts.map fun c =>
          ⟨"Fields " ++ quoteName c.name ++ " conflict because " ++ c.reason ++
            ". Use different aliases on the fields to fetch both if this was intentional.",
            c.left ++ c.right⟩ }
    | _, _ => { state }

end QueryLinker.Validation.Rules
