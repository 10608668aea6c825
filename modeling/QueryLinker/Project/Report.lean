import QueryLinker.Console.Block
import QueryLinker.Json.Display
import QueryLinker.Link.Compile

/-!
This module contains the reports on a compile run: one for programs, as JSON, and one for readers.
-/

namespace QueryLinker

open Console

structure Summary where
  queries : List CompiledQuery
  errors : List CompileError
  fileCount : Nat
deriving Repr

namespace CompiledQuery

def usage (q : CompiledQuery) : String :=
  if q.isHook then "hook" else if q.isStaticQuery then "static" else "page"

def row (q : CompiledQuery) : List String :=
  [q.path, if q.name.isEmpty then "[dim]<anonymous>[/dim]" else q.name, q.usage, q.id?.getD ""]

end CompiledQuery

namespace CompileError

def suggestion? (e : CompileError) : Option String :=
  match e.context.lookup "closestFragment" with
  | some value => if value.isPresent then some value.plainText else none
  | none => none

def blocks (e : CompileError) : List Block :=
  let head :=
    Block.tagged ("  [red]✖[/red] [dim]" ++ e.kind.text ++ "[/dim] " ++ e.whereabouts)
  let message := Block.plain ("    " ++ e.message)
  match e.suggestion? with
  | some name => [head, message, .tagged ("    [dim]closest fragment: " ++ name ++ "[/dim]")]
  | none => [head, message]

end CompileError

namespace Summary

def toJson (s : Summary) : Json :=
  .object [("files", .int (Int.ofNat s.fileCount)),
    ("queries", .object (s.queries.map fun q => (q.path, q.toJson))),
    ("errors", .arr (s.errors.map (·.toJson)))]

def blocks (s : Summary) : List Block :=
  let queries :=
    if s.queries.isEmpty then Block.tagged "  [dim]No queries compiled[/dim]"
    else .table (["File", "Query", "Kind", "Id"] :: s.queries.map (·.row))
  let counts :=
    "\n  " ++ toString s.queries.length ++ " compiled from " ++ toString s.fileCount ++
      " file(s), " ++ toString s.errors.length ++ " error(s)"
  let errors :=
    if s.errors.isEmpty then [Block.tagged "\n[green]✓ No errors[/green]"]
    else .tagged "\n[bold red]Errors:[/bold red]\n" :: s.errors.flatMap (·.blocks)
  [.tagged "\n[bold cyan]Compiled Queries[/bold cyan]\n", queries, .tagged counts] ++ errors ++
    [.plain ""]

def jsonFormat : String := "json"

def report (s : Summary) (format : String) : List Block :=
  if format == jsonFormat then [.verbatim s.toJson.pretty] else s.blocks

end Summary

def valueBlocks (title : String) (rows : List (String × Json)) : List Block :=
  [.tagged ("\n[bold cyan]" ++ title ++ "[/bold cyan]\n"),
   .table (rows.map fun (key, value) => [key, value.plainText]), .plain ""]

end QueryLinker
