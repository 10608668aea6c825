import QueryLinker.Files.Tree
import QueryLinker.Limits
import QueryLinker.Link.StaticQuery
import QueryLinker.Link.Suggestion
import QueryLinker.Project.Failure
import QueryLinker.Yaml.Evaluation

/-!
This module contains the settings of a project and the file that they are read from. A setting is
taken as it is written: whether it has the type that it needs shows where it is used. Only the two
directories among the settings are worked out at once.
-/

namespace QueryLinker

structure Surroundings where
  directory : String
  home : String
  now : Timestamp
  token? : Option String := none
  nesting : Nat := usualNesting
  lineWidth : Nat := usualWidth
deriving Repr

structure Config where
  projectRoot : String
  schemaFile : Yaml.Value := .null
  defaultUrl : Yaml.Value := .null
  schemaCacheDirectory : String
  schemaCacheHours : Yaml.Value := .int 24
  sourceDirectories : Yaml.Value := .texts ["src"]
  extensions : Yaml.Value
  excludedDirectories : Yaml.Value
  staticQueryMarker : Yaml.Value := .text defaultStaticQueryMarker
  suggestionLimit : Yaml.Value := .int defaultSuggestionLimit
  logLevel : Yaml.Value := .text "WARNING"
deriving Repr

namespace Config

def defaultExtensions : List String :=
  [".graphql", ".gql", ".js", ".jsx", ".ts", ".tsx"]

def defaultExcludedDirectories : List String :=
  ["node_modules", ".git", "public"]

def defaultCacheDirectory : String := "~/.gqc/schemas"

def defaultFile (s : Surroundings) : String :=
  toString (Path.ofString s.home ++ Path.ofString ".gqc/config.yaml")

def pathSetting (s : Surroundings) : Yaml.Value → Except RunFailure String
  | .text text =>
    match Path.expandHome? s.home text.text with
    | some path => .ok path
    | none => .error .noHome
  | .bytes _ =>
    .error (.wrongType
      "argument should be a str object or an os.PathLike object returning str, not <class 'bytes'>")
  | v =>
    .error (.wrongType ("expected str, bytes or os.PathLike object, not " ++ v.shortSortText))

def setting (v : Yaml.Value) (key : String) (usual : Yaml.Value) : Yaml.Value :=
  match v.get? key with
  | some (.enclosing _) => v
  | some member => member
  | none => usual

def ofValue (s : Surroundings) (v : Yaml.Value) : Except RunFailure Config := do
  let setting := setting v
  let cache ← pathSetting s (setting "schema_cache_dir" (.text defaultCacheDirectory))
  let root ← pathSetting s (setting "project_root" (.text "."))
  return {
    projectRoot := Path.absolute s.directory root
    schemaFile := setting "schema_file" .null
    defaultUrl := setting "default_url" .null
    schemaCacheDirectory := cache
    schemaCacheHours := setting "schema_cache_ttl_hours" (.int 24)
    sourceDirectories := setting "source_dirs" (.texts ["src"])
    extensions := setting "extensions" (.texts defaultExtensions)
    excludedDirectories := setting "exclude_dirs" (.texts defaultExcludedDirectories)
    staticQueryMarker := setting "static_query_prefix" (.text defaultStaticQueryMarker)
    suggestionLimit := setting "suggestion_max_distance" (.int defaultSuggestionLimit)
    logLevel := setting "log_level" (.text "WARNING") }

def load (s : Surroundings) (t : FileTree) (file? : Option String) : Except RunFailure Config := do
  let file := file?.getD (defaultFile s)
  if !(← (t.isThere s.directory file).mapError .file) then ofValue s (.map [])
  else
    let content ← (t.read s.directory file).mapError .file
    match Yaml.read (.ofBytes content) with
    | .error flaw => throw (.notYaml flaw file)
    | .ok (.map members) => ofValue s (.map members)
    -- A file that says nothing leaves the usual settings.
    | .ok v =>
      if v.isPresent then throw (.noAttribute v.sortText "get") else ofValue s (.map [])

def exampleLines (key : String) : Yaml.Value → List String
  | .list items => (key ++ ":") :: items.map fun item => "- " ++ item.plainText
  | v => [key ++ ": " ++ v.plainText]

def example_ : List (String × Yaml.Value) :=
  [("project_root", .text "."), ("schema_file", .text "schema.graphql"),
   ("default_url", .text "http://localhost:8000/"),
   ("schema_cache_dir", .text defaultCacheDirectory), ("schema_cache_ttl_hours", .int 24),
   ("source_dirs", .texts ["src", ".cache/fragments"]), ("extensions", .texts defaultExtensions),
   ("exclude_dirs", .texts defaultExcludedDirectories),
   ("static_query_prefix", .text defaultStaticQueryMarker), ("suggestion_max_distance", .int 10),
   ("log_level", .text "WARNING")]

def exampleText : String :=
  String.join ((example_.flatMap fun (key, v) => exampleLines key v).map (· ++ "\n"))

def writeExample (s : Surroundings) (t : FileTree) (file? : Option String) :
    Except RunFailure (FileTree × String) := do
  let file := file?.getD (defaultFile s)
  let directory := toString (Path.ofString file).parent
  let t ← (t.makeDirectories s.directory directory).mapError .file
  let t ← (t.write s.directory file exampleText.toUTF8).mapError .file
  return (t, file)

end Config

end QueryLinker
