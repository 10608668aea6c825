import QueryLinker.Project.Session

/-!
This module contains the question that an endpoint is asked for its types, and what its answer comes
to.
-/

namespace QueryLinker.Introspection

def inside (head : String) (selections : List String) : String :=
  head ++ " \x7b " ++ " ".intercalate selections ++ " \x7d"

def typeDepth : Nat := 7

def typeReference (head : String) : Nat → String
  | 0 => inside head ["kind", "name"]
  | depth + 1 => inside head ["kind", "name", typeReference "ofType" depth]

def query : String :=
  let described := ["name", "description"]
  let deprecation := ["isDeprecated", "deprecationReason"]
  let argument := inside "args" ["...InputValue"]
  "\n\n".intercalate
    [inside "query IntrospectionQuery"
      [inside "__schema"
        [inside "queryType" ["name"], inside "mutationType" ["name"],
         inside "subscriptionType" ["name"], inside "types" ["...FullType"],
         inside "directives" (described ++ ["locations", argument])]],
     inside "fragment FullType on __Type"
      (["kind"] ++ described ++
       [inside "fields(includeDeprecated: true)"
          (described ++ [argument, inside "type" ["...TypeRef"]] ++ deprecation),
        inside "inputFields" ["...InputValue"], inside "interfaces" ["...TypeRef"],
        inside "enumValues(includeDeprecated: true)" (described ++ deprecation),
        inside "possibleTypes" ["...TypeRef"]]),
     inside "fragment InputValue on __InputValue"
      (described ++ [inside "type" ["...TypeRef"], "defaultValue"]),
     typeReference "fragment TypeRef on __Type" typeDepth]

def timeout : Nat := 30

def success : Int := 200

def request (url : String) (token? : Option String) : Http.Request :=
  let headers :=
    match token? with
    | some token => if token.isEmpty then [] else [("Authorization", "Bearer " ++ token)]
    | none => []
  { url, headers, query, timeout }

def elements (v : Json) : Except RunFailure (List Json) :=
  match v.elements? with
  | some items => .ok items
  | none => .error (.noElements v.sortText)

def errorText : Json → Except RunFailure String
  | .obj members => .ok (((Json.obj members).get? "message").getD (.obj members)).plainText
  | v => .error (.noAttribute v.sortText "get")

def data : Json → Except RunFailure Json
  | .obj members => do
    let answer := Json.obj members
    let errors := (answer.get? "errors").getD .null
    if errors.isPresent then
      let texts ← (← elements errors).mapM errorText
      throw (.endpoint ("Introspection errors: " ++ "; ".intercalate texts))
    match answer.get? "data" with
    | some data => return data
    | none => throw (.missing "data")
  | v => .error (.noAttribute v.sortText "get")

def ofOutcome (url : String) : Http.Outcome → Except RunFailure Json
  | .unreachable text => .error (.endpoint ("Could not reach " ++ url ++ ": " ++ text))
  | .response r => do
    if r.status != success then
      throw (.endpoint
        ("Introspection of " ++ url ++ " failed with status " ++ toString r.status))
    match r.json with
    | .ok payload => data payload
    | .error e =>
      if e.isLimit then throw (.notJson e r.body)
      else throw (.endpoint (r.notJsonMessage "GraphQL introspection" e))

def run (url : String) (token? : Option String) : Work Json := do
  ofOutcome url (← Session.post (request url token?))

end QueryLinker.Introspection
