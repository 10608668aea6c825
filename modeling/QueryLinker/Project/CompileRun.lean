import QueryLinker.Project.Discovery
import QueryLinker.Project.Report
import QueryLinker.Project.SchemaProfile

/-!
This module contains compile runs over a project: the schema is loaded, the source files are found
and read, and their documents are compiled. What a setting stands for is worked out here, where it
is used. The parser of the files has as much stack as it needs.
-/

namespace QueryLinker

structure CompileOptions where
  directories : List String := []
  url? : Option String := none
  schemaFile? : Option String := none
  root? : Option String := none
  refreshSchema : Bool := false
deriving DecidableEq, Repr

namespace CompileRun

def textSetting (use : String) (v : Yaml.Value) : Except RunFailure (Option String) :=
  match v with
  | .text text => .ok (SchemaProfile.given? (some text.text))
  | v =>
    if !v.isPresent then .ok none
    else
      match v with
      | .bytes _ => .error (.wrongType "a bytes-like object is required, not 'str'")
      | v => .error (.noAttribute v.sortText use)

def elements (v : Yaml.Value) : Except RunFailure (List Yaml.Value) :=
  match v.elements? with
  | some items => .ok items
  | none => .error (.noElements v.sortText)

def projectRoot (s : Surroundings) (c : Config) (o : CompileOptions) : String :=
  match SchemaProfile.given? o.root? with
  | some root => Path.absolute s.directory root
  | none => c.projectRoot

def schemaRequest (c : Config) (o : CompileOptions) : Except RunFailure SchemaRequest := do
  let base? ←
    match SchemaProfile.given? o.url? with
    | some url => pure (some url)
    | none => textSetting "rstrip" c.defaultUrl
  let file? ←
    match SchemaProfile.given? o.schemaFile? with
    | some file => pure (some file)
    | none => textSetting "endswith" c.schemaFile
  if base?.isNone && file?.isNone then
    throw (.setting "No schema given. Use --schema or --url, or set schema_file in config.")
  return { url? := base?.map Url.endpoint, file?, refresh := o.refreshSchema }

def searchedDirectories (root : String) (c : Config) (o : CompileOptions) :
    Except RunFailure (List String) := do
  if !o.directories.isEmpty then return o.directories
  (← elements c.sourceDirectories).mapM fun
    | .text directory => .ok (Path.joinText root directory.text)
    | .bytes _ => .error (.wrongType "Can't mix strings and bytes in path components")
    | v =>
      .error (.wrongType ("join() argument must be str, bytes, or os.PathLike object, not " ++
        Text.quoted v.shortSortText))

def leadingTexts : List Yaml.Value → List String × Option Yaml.Value
  | [] => ([], none)
  | .text text :: values =>
    let (texts, other?) := leadingTexts values
    (text.text :: texts, other?)
  | v :: _ => ([], some v)

def excludedNames (v : Yaml.Value) : Except RunFailure (List String) := do
  let names ← (← elements v).mapM fun item =>
    match item, item.keyFlaw? with
    | .text name, _ => .ok (some name.text)
    | _, some part => .error (.wrongType ("unhashable type: " ++ Text.quoted part.sortText))
    | _, none => .ok none
  return names.filterMap id

/--
The files that are searched for queries. An ending that is no text matters only if there is a file
that none of the endings before it fits.
-/
def sourceFiles (s : Surroundings) (t : FileTree) (c : Config) (directories : List String) :
    Except RunFailure (List String) := do
  let (endings, other?) := leadingTexts (← elements c.extensions)
  let excluded ← excludedNames c.excludedDirectories
  let found (search : Discovery.Search) : Except RunFailure (List String) :=
    (Discovery.search t s.directory search directories s.nesting).mapError .ofStop
  match other? with
  | some v =>
    if (← found ⟨endings, []⟩) != (← found ⟨[""], []⟩) then
      throw (.wrongType ("tuple for endswith must only contain str, not " ++ v.sortText))
  | none => pure ()
  found ⟨endings, excluded⟩

def unlimited : Int := 1000000000000000000

def ceiling (negative : Bool) (d : Number.Decimal) : Int :=
  let num := Number.scale 10 d.digits d.exponent
  let den := Number.scale 10 1 (-d.exponent)
  if negative then -Int.ofNat (num / den) else Int.ofNat ((num + den - 1) / den)

def suggestionLimit? : Yaml.Value → Option Int
  | .int n => some n
  | .bool b => some (if b then 1 else 0)
  | .real .nan => some 0
  | .real (.infinite negative) => some (if negative then 0 else unlimited)
  | .real (.finite negative d) => some (ceiling negative d)
  | _ => none

def limitFlaw? (v : Yaml.Value) : Option String :=
  if (suggestionLimit? v).isSome then none
  else some ("'<' not supported between instances of 'int' and " ++ Text.quoted v.sortText)

def markerFlaw? (v : Yaml.Value) : Option String :=
  match v with
  | .text _ => none
  | .list _ => some "can only concatenate list (not \"str\") to list"
  | .pair _ _ => some "can only concatenate tuple (not \"str\") to tuple"
  | .bytes _ => some "can't concat str to bytes"
  | v =>
    some ("unsupported operand type(s) for +: " ++ Text.quoted v.sortText ++ " and " ++
      Text.quoted "str")

/-- What a pass is told by the settings; those of the wrong sort matter where they are used. -/
def passSettings (s : Surroundings) (c : Config) (root : String) : PassSettings :=
  { directory := s.directory, projectRoot := root
    marker := match c.staticQueryMarker with | .text marker => marker.text | _ => ""
    markerFlaw? := markerFlaw? c.staticQueryMarker
    suggestionLimit := (suggestionLimit? c.suggestionLimit).getD 0
    limitFlaw? := limitFlaw? c.suggestionLimit
    nesting := s.nesting }

def compileFiles (s : Surroundings) (config : Config) (root : String) (schema : Schema)
    (t : FileTree) (files : List String) : Except RunFailure Summary := do
  let (docs, unparsable) ← (SourceFile.readAll t s.directory files).mapError .ofRead
  let c ← (compile schema docs (passSettings s config root)).mapError .pass
  -- What does not parse is told first.
  return { queries := c.queries, errors := unparsable.map (·.report) ++ c.errors
           fileCount := files.length }

def run (s : Surroundings) (c : Config) (o : CompileOptions) : Work Summary := do
  let root := projectRoot s c o
  let profile ← SchemaProfile.load s c (← schemaRequest c o)
  let schema ← profile.build
  let directories ← searchedDirectories root c o
  let files := (← get).files
  let paths ← sourceFiles s files c directories
  compileFiles s c root schema files paths

end CompileRun

end QueryLinker
