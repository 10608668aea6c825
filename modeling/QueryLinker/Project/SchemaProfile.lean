import QueryLinker.Json.Fingerprint
import QueryLinker.Project.CachePath
import QueryLinker.Project.Config
import QueryLinker.Project.Introspection
import QueryLinker.Schema.Introspection

/-!
This module contains the loading of schemas. A schema stands in a file or is fetched from an
endpoint; what was fetched is kept in a file for each endpoint until it is too old.
-/

namespace QueryLinker

structure SchemaProfile where
  url : Json
  fetchedAt : Json
  hash : Json
  schema : Json
deriving Repr

structure SchemaRequest where
  url? : Option String := none
  file? : Option String := none
  refresh : Bool := false
  token? : Option String := none
deriving DecidableEq, Repr

namespace SchemaProfile

def toJson (p : SchemaProfile) : Json :=
  .object [("url", p.url), ("fetched_at", p.fetchedAt), ("hash", p.hash), ("schema", p.schema)]

def keys : List String :=
  ["url", "fetched_at", "hash", "schema"]

def listed (words : List String) : String :=
  match words.map Text.quoted with
  | [] => ""
  | [word] => word
  | [first, second] => first ++ " and " ++ second
  | words => ", ".intercalate words.dropLast ++ ", and " ++ words.getLastD ""

inductive Flaw where
  | noObject (value : Json)
  | unexpected (key : LooseText)
  | missing (keys : List String)
deriving Repr

def Flaw.message : Flaw → String
  | .noObject value =>
    "SchemaProfile() argument after ** must be a mapping, not " ++ value.sortText
  | .unexpected key =>
    "SchemaProfile.__init__() got an unexpected keyword argument " ++ key.quoted
  | .missing keys =>
    "SchemaProfile.__init__() missing " ++ toString keys.length ++
      " required positional argument" ++ (if keys.length = 1 then "" else "s") ++ ": " ++
      listed keys

def ofJson : Json → Except Flaw SchemaProfile
  | .obj members => do
    match members.find? fun (key, _) => !key.string?.any keys.contains with
    | some (key, _) => throw (.unexpected key)
    | none => pure ()
    let part? (key : String) : Option Json := members.lookup (.ofString key)
    let absent := keys.filter fun key => (part? key).isNone
    if !absent.isEmpty then throw (.missing absent)
    let part (key : String) : Json := (part? key).getD .null
    return ⟨part "url", part "fetched_at", part "hash", part "schema"⟩
  | v => .error (.noObject v)

def ofStored (v : Json) : Except RunFailure SchemaProfile :=
  (ofJson v).mapError fun flaw => .wrongType flaw.message

def build (p : SchemaProfile) : Except RunFailure Schema :=
  (Schema.ofJson p.schema).mapError .schema

def ofSchema (url : String) (now : Timestamp) (schema : Json) : SchemaProfile :=
  ⟨.str url, .str now.text, .str schema.fingerprint, schema⟩

/--
The microseconds since a schema was fetched. Of the two times either both are of a known zone or
none is.
-/
def age (p : SchemaProfile) (now : Timestamp) : Except RunFailure Int := do
  match p.fetchedAt with
  | .str text =>
    let fetched ← (Timestamp.ofText text).mapError .time
    match fetched.instant?, now.instant? with
    | some fetched, some now => return now - fetched
    | none, none => return now.clock - fetched.clock
    | _, _ => throw (.wrongType "can't subtract offset-naive and offset-aware datetimes")
  | _ => throw (.wrongType "fromisoformat: argument must be str")

def isExpired (p : SchemaProfile) (now : Timestamp) (hours : Yaml.Value) :
    Except RunFailure Bool := do
  match hours with
  | .null => return false
  | hours =>
    let age ← p.age now
    let kept ← (Duration.microsOfHours hours).mapError .ofDuration
    return decide (kept < age)

def definitionEndings : List String :=
  [".graphql", ".graphqls", ".gql"]

def ofFile (s : Surroundings) (path : String) : Work SchemaProfile := do
  let schema ←
    if definitionEndings.any fun ending => path.endsWith ending then
      let text ← Session.readText s.directory (toString (Path.ofString path))
      pure (Json.ofString text)
    else Session.readJson s.nesting s.directory path
  return ofSchema ("file://" ++ path) s.now schema

def cacheFile (c : Config) (url : String) : Except RunFailure String :=
  (SchemaCache.filePath c.schemaCacheDirectory url).mapError .address

def kept? (s : Surroundings) (hours : Yaml.Value) (path : String) :
    Work (Option SchemaProfile) := do
  if !(← Session.isThere s.directory path) then return none
  let profile ← ofStored (← Session.readJson s.nesting s.directory path)
  if ← profile.isExpired s.now hours then return none
  return some profile

/--
Whether there is room for the calls that copy a profile: two for each array and object that is
inside others, and two for what is innermost.
-/
def canCopy (nesting : Nat) (p : SchemaProfile) : Bool :=
  2 * p.schema.levels + 2 ≤ nesting

def keep (s : Surroundings) (path : String) (p : SchemaProfile) : Work Unit := do
  Session.makeDirectories s.directory (toString (Path.ofString path).parent)
  -- The copy is made before the file is opened, which stays as it was if there is no room.
  if p.canCopy s.nesting then Session.writeJson s.nesting s.directory path p.toJson
  else throw .tooDeep

def fetch (s : Surroundings) (url : String) (token? : Option String) (path : String) :
    Work SchemaProfile := do
  let profile := ofSchema url s.now (← Introspection.run url token?)
  keep s path profile
  return profile

def given? (text? : Option String) : Option String :=
  text?.filter fun text => !text.isEmpty

def load (s : Surroundings) (c : Config) (r : SchemaRequest) : Work SchemaProfile := do
  match given? r.file?, given? r.url? with
  | some path, _ => ofFile s path
  | none, none => throw (.setting "No URL or schema file provided")
  | none, some url =>
    let path ← cacheFile c url
    let kept? ← if r.refresh then pure none else kept? s c.schemaCacheHours path
    match kept? with
    | some profile => return profile
    | none => fetch s url ((given? r.token?).or s.token?) path

end SchemaProfile

end QueryLinker
