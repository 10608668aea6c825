import QueryLinker.Json.Reader

/-!
This module contains requests to servers, the answers to them, and what is said of an answer that is
no JSON.
-/

namespace QueryLinker.Http

structure Request where
  url : String
  headers : List (String × String) := []
  query : String
  timeout : Nat
deriving DecidableEq, Repr

structure Response where
  url : String
  status : Int := 200
  contentType? : Option String := none
  body : String
deriving DecidableEq, Repr

inductive Outcome where
  | response (r : Response)
  | unreachable (text : String)
deriving DecidableEq, Repr

def Outcome.ofServer (url : String) : Outcome → Outcome
  | .response r => .response { r with url }
  | .unreachable text => .unreachable text

def previewSize : Nat := 300

def preview (body : String) : String :=
  if body.length > previewSize then String.ofList (body.toList.take previewSize) ++ "..." else body

namespace Response

def json (r : Response) : Except Json.ReadError Json :=
  Json.read r.body

def notJsonMessage (r : Response) (context : String) (e : Json.ReadError) : String :=
  "\n".intercalate
    [context ++ " failed - server returned non-JSON response",
     "",
     "  URL: " ++ r.url,
     "  Status: " ++ toString r.status,
     "  Content-Type: " ++ r.contentType?.getD "unknown",
     "",
     "  Response preview:",
     "  " ++ preview r.body,
     "",
     "  Suggestions:",
     "  - Verify the URL is correct and points to a GraphQL endpoint (try /graphql/)",
     "  - Authentication may be required - try adding --token YOUR_TOKEN",
     "",
     "  Original JSON error: " ++ e.message r.body]

end Response

end QueryLinker.Http
