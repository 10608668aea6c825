import Std.Data.HashSet
import QueryLinker.Link.Suggestion
import QueryLinker.Link.Table

/-!
This module contains the resolver, which finds the fragments that an operation needs, directly or
through other fragments. It walks depth first with an open frame for every definition on the way.
What a fragment needs in all, its closure, is kept once it is known to be complete, so that a
fragment shared by many operations is walked once.
-/

namespace QueryLinker

open Graphql

abbrev Closures := List (String × List String)

def appendNew (xs ys : List String) : List String :=
  xs ++ go (Std.HashSet.ofList xs) ys
where
  go (seen : Std.HashSet String) : List String → List String
    | [] => []
    | y :: ys => if seen.contains y then go seen ys else y :: go (seen.insert y) ys

structure Frame where
  site : Site
  name? : Option String
  rest : List FragmentSpread
  names : List String := []
  ok : Bool := true
deriving Repr

namespace Frame

def ofOperation (o : Operation) : Frame :=
  { site := o.site, name? := none, rest := o.spreads }

def ofFragment (name : String) (f : Fragment) : Frame :=
  { site := f.site, name? := some name, rest := f.spreads }

def absorb (frame : Frame) (name : String) (closure? : Option (List String)) : Frame :=
  match closure? with
  | none => { frame with ok := false }
  | some closure => { frame with names := appendNew frame.names (name :: closure) }

def closure? (frame : Frame) : Option (List String) :=
  if frame.ok then some frame.names else none

end Frame

structure Walk where
  frames : List Frame
  path : List String := []
  inProgress : Std.HashSet String := {}
  visited : List (String × Option (List String)) := []
  closures : Closures
  problems : List Problem := []

structure Walked where
  names? : Option (List String)
  closures : Closures
  problems : List Problem

structure WalkContext where
  table : DefinitionTable
  known : List String
  suggestionLimit : Int
  operation : Operation

namespace Walk

def close (w : Walk) (frame : Frame) (below : List Frame) : Walk ⊕ Walked :=
  match frame.name?, below with
  | some name, parent :: below =>
    .inl { w with
      frames := parent.absorb name frame.closure? :: below
      path := w.path.tail
      inProgress := w.inProgress.erase name
      visited := w.visited ++ [(name, frame.closure?)]
      closures :=
        match frame.closure? with
        | some closure => w.closures ++ [(name, closure)]
        | none => w.closures }
  | _, _ => .inr ⟨frame.closure?, w.closures, w.problems.reverse⟩

def cycle (path : List String) (name : String) : List String :=
  name :: (path.takeWhile (· != name)).reverse ++ [name]

def follow (c : WalkContext) (w : Walk) (frame : Frame) (below : List Frame)
    (spread : FragmentSpread) : Walk :=
  let name := spread.name.value
  let failed := { frame with ok := false } :: below
  if w.inProgress.contains name then
    let problem := .fragmentCycle c.operation spread frame.site (cycle w.path name)
    { w with frames := failed, problems := problem :: w.problems }
  else
    match w.closures.lookup name with
    | some closure => { w with frames := frame.absorb name (some closure) :: below }
    | none =>
      match w.visited.lookup name with
      | some closure? => { w with frames := frame.absorb name closure? :: below }
      | none =>
        match c.table.get? name with
        | none =>
          let closest? := closestName c.known c.suggestionLimit name
          let problem := .unknownFragment c.operation spread frame.site closest?
          { w with frames := failed, problems := problem :: w.problems }
        | some fragment =>
          { w with
            frames := .ofFragment name fragment :: frame :: below
            path := name :: w.path
            inProgress := w.inProgress.insert name }

def step (c : WalkContext) (w : Walk) : Walk ⊕ Walked :=
  match w.frames with
  | [] => .inr ⟨none, w.closures, w.problems.reverse⟩
  | frame :: below =>
    match frame.rest with
    | [] => w.close frame below
    | spread :: rest => .inl (w.follow c { frame with rest } below spread)

def run (c : WalkContext) : Nat → Walk → Walked
  -- This is never reached: no walk takes more than `maxSteps`.
  | 0, w => ⟨none, w.closures, w.problems.reverse⟩
  | fuel + 1, w =>
    match w.step c with
    | .inl w => run c fuel w
    | .inr result => result

def maxSteps (c : WalkContext) : Nat :=
  c.table.fragments.foldr (fun entry steps => entry.2.spreads.length + 1 + steps)
    (c.operation.spreads.length + 1)

def ofOperation (c : WalkContext) (closures : Closures) : Walked :=
  run c (maxSteps c) { frames := [.ofOperation c.operation], closures }

end Walk

structure Resolution where
  operation : Operation
  names : List String := []
  problems : List Problem := []
deriving Repr

namespace Resolution

def ok (r : Resolution) : Bool :=
  r.problems.isEmpty

def fragments (r : Resolution) (t : DefinitionTable) : List (Option Fragment) :=
  r.names.map t.get?

end Resolution

structure Resolver where
  closures : Closures := []
  claimed : List (String × Operation) := []
  conflicted : List String := []
  known : List String
  suggestionLimit : Int := defaultSuggestionLimit

namespace Resolver

def ofTable (t : DefinitionTable) (suggestionLimit : Int) : Resolver :=
  { known := t.fragmentNames, suggestionLimit }

def resolve (r : Resolver) (t : DefinitionTable) (o : Operation) : Resolver × Resolution :=
  let walked := Walk.ofOperation ⟨t, r.known, r.suggestionLimit, o⟩ r.closures
  let resolution : Resolution :=
    match walked.names? with
    | some names => { operation := o, names }
    | none => { operation := o, problems := walked.problems }
  ({ r with closures := walked.closures }, resolution)

/--
Take the next operation of the table. Only the first operation of a file is resolved; its resolution
is given if it is without problems.
-/
def take (r : Resolver) (t : DefinitionTable) (o : Operation) :
    Resolver × Option Resolution × List Event :=
  match r.claimed.lookup o.site.file with
  | some first =>
    let r := { r with conflicted := r.conflicted.insert o.site.file }
    (r, none, [.problem (.laterOperation o first)])
  | none =>
    let r := { r with claimed := r.claimed ++ [(o.site.file, o)] }
    let (r, resolution) := r.resolve t o
    if resolution.ok then (r, some resolution, [])
    else
      (r, none,
        resolution.problems.map .problem ++ [.unresolved o resolution.problems.length])

end Resolver

end QueryLinker
