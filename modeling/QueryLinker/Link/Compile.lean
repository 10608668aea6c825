import QueryLinker.Link.Collection
import QueryLinker.Link.Resolver
import QueryLinker.Link.StaticQuery

/-!
This module contains the compile pass: every operation is put together with exactly the fragments
that it needs, and the document that results is checked against all rules. A file has one query,
that of its only operation.
-/

namespace QueryLinker

open Graphql

structure CompiledQuery where
  name : String
  text : String
  originText : String
  path : String
  isHook : Bool
  isStaticQuery : Bool
  hash : String
  id? : Option String := none
deriving DecidableEq, Repr, Inhabited

namespace CompiledQuery

def toJson (q : CompiledQuery) : Json :=
  .object ([("name", .str q.name), ("text", .str q.text), ("originalText", .str q.originText),
    ("path", .str q.path), ("isHook", .bool q.isHook), ("isStaticQuery", .bool q.isStaticQuery),
    ("hash", .str q.hash)] ++
    if q.isStaticQuery then [("id", .ofOption q.id?)] else [])

end CompiledQuery

structure PassSettings where
  directory : String
  projectRoot : String := ""
  marker : String := defaultStaticQueryMarker
  markerFlaw? : Option String := none
  suggestionLimit : Int := defaultSuggestionLimit
  limitFlaw? : Option String := none
  nesting : Nat := usualNesting
deriving Repr

namespace PassSettings

def queryId (p : PassSettings) (path : String) : Except PassFailure String :=
  let root := if p.projectRoot.isEmpty then p.directory else p.projectRoot
  match staticQueryId? p.directory root p.marker path, p.markerFlaw? with
  | none, _ => .error .noPath
  | some _, some message => .error (.setting message)
  | some id, none => .ok id

def checkLimit (p : PassSettings) (known : List String) (events : List Event) :
    Except PassFailure Unit :=
  let suggests := !known.isEmpty && (Event.problems events).any (·.kind == .unknownFragment)
  match p.limitFlaw? with
  | some message => if suggests then .error (.setting message) else .ok ()
  | none => .ok ()

end PassSettings

namespace Operation

def assemble (o : Operation) (fragments : List Fragment) : Document :=
  ⟨fragments.map (fun f => .fragment f.node) ++ [.operation o.node]⟩

def sites (o : Operation) (fragments : List Fragment) : List (Option Loc × Site) :=
  (o.node.loc?, o.site) :: fragments.map fun f => (f.node.loc?, f.site)

/--
The site of the definition that an error is in: the first one that was parsed from the text which
the error's first node was parsed from. An error without a place is in none.
-/
def errorSite? (o : Operation) (fragments : List Fragment) (error : Graphql.Error) : Option Site :=
  if error.locs.isEmpty then none
  else
    match error.nodes.head?.bind id with
    | none => some o.site
    | some loc =>
      let owner? := (o.sites fragments).find? fun (loc?, _) =>
        loc?.any fun l => l.source.origin == loc.source.origin
      some ((owner?.map (·.2)).getD o.site)

def query (o : Operation) (document : Document) (settings : PassSettings) :
    Except PassFailure CompiledQuery := do
  let id? ←
    if o.isStaticQuery then pure (some (← settings.queryId o.site.file)) else pure none
  return { name := o.name, text := document.text, originText := o.originText, path := o.site.file
           isHook := o.isHook, isStaticQuery := o.isStaticQuery, hash := o.hash, id? }

end Operation

def Resolution.compile (r : Resolution) (s : Schema) (t : DefinitionTable)
    (settings : PassSettings) : Except PassFailure (Option CompiledQuery × List Event) := do
  let o := r.operation
  let fragments := (r.fragments t).filterMap id
  let document := o.assemble fragments
  match Validation.validateFull s document settings.nesting with
  | .error failure => throw (.rule failure)
  | .ok [] => return (some (← o.query document settings), [])
  | .ok errors =>
    let problem (e : Graphql.Error) : Event := .problem (.invalid o e (o.errorSite? fragments e))
    return (none, errors.map problem ++ [.invalidated o errors.length])

def Resolver.compileAll (s : Schema) (t : DefinitionTable) (settings : PassSettings)
    (r : Resolver) :
    List Operation → Except PassFailure (Resolver × List CompiledQuery × List Event)
  | [] => .ok (r, [], [])
  | o :: os => do
    let (r, resolution?, events) := r.take t o
    settings.checkLimit r.known events
    let (query?, found) ←
      match resolution? with
      | some resolution => resolution.compile s t settings
      | none => pure (none, [])
    let (r, queries, later) ← r.compileAll s t settings os
    return (r, query?.toList ++ queries, events ++ found ++ later)

structure Compilation where
  queries : List CompiledQuery
  events : List Event
deriving Repr

namespace Compilation

def problems (c : Compilation) : List Problem :=
  Event.problems c.events

def errors (c : Compilation) : List CompileError :=
  c.problems.map (·.report)

def query? (c : Compilation) (path : String) : Option CompiledQuery :=
  c.queries.find? (·.path == path)

end Compilation

def compile (s : Schema) (docs : List SourceDocument) (settings : PassSettings) :
    Except PassFailure Compilation := do
  let (t, collected) ← DefinitionTable.collect s docs
  let resolver := Resolver.ofTable t settings.suggestionLimit
  let (resolver, queries, events) ← resolver.compileAll s t settings t.operations
  -- A file with several operations has no query, not even of the first one.
  let queries := queries.filter fun q => !resolver.conflicted.contains q.path
  return { queries, events := collected ++ events ++ [.compiled queries.length docs.length] }

end QueryLinker
