import MetricLayer.Failure
import MetricLayer.Value

/-!
# Requests and responses

A request with its body already read, and a response whose body is still a value.  Responses to
failures name what went wrong; a failure that no caller can mend says nothing.
-/

namespace MetricLayer.Http

/-- A request. -/
structure Request where
  /-- The method, in capitals. -/
  method : String
  /-- The path as it was sent. -/
  path : String
  /-- The parameters after the path. -/
  query : List (String × String)
  /-- The headers. -/
  headers : List (String × String)
  /-- The body, if there is one. -/
  body : Option Value

namespace Request

/-- A parameter after the path; of several with one name the last one counts. -/
def parameter? (r : Request) (name : String) : Option String := r.query.reverse.lookup name

/-- A header; names are compared without case. -/
def header? (r : Request) (name : String) : Option String :=
  (r.headers.find? fun h => h.1.toLower = name.toLower).map Prod.snd

/-- The id of the caller. -/
def userId? (r : Request) : Option String := r.header? "X-User-Id"

end Request

/-- A response. -/
structure Response where
  /-- The status. -/
  status : Nat
  /-- The body, unless it is empty or no data. -/
  body : Option Value

namespace Response

/-- The status of a request that succeeded. -/
def ok (v : Value) : Response := ⟨200, some v⟩

/-- The status of a request that added a record. -/
def created (v : Value) : Response := ⟨201, some v⟩

/-- The status of a request that removed a record. -/
def noContent : Response := ⟨204, none⟩

/-- The response when the request could not be served. -/
def broken : Response := ⟨500, none⟩

/-- The response with one line of explanation. -/
def explained (status : Nat) (detail : String) : Response :=
  ⟨status, some (.object [("detail", .text detail)])⟩

/-- The response for a path that leads nowhere. -/
def notFound : Response := explained 404 "Not Found"

/-- The response for a method that the path does not have. -/
def methodNotAllowed : Response := explained 405 "Method Not Allowed"

/-- A step of a path as a value. -/
def stepValue : PathStep → Value
  | .field name => .text name
  | .index i => .int i

/-- An issue as a value. -/
def issueValue (issue : Issue) : Value :=
  .object [("loc", .list (issue.path.map stepValue)), ("type", .text issue.kind.code)]

/-- The response to a request with these issues. -/
def rejected (issues : List Issue) : Response :=
  ⟨422, some (.object [("detail", .list (issues.map issueValue))])⟩

/-- The response to a failure. -/
def ofFailure (failure : Failure) : Response :=
  match failure.status? with
  | none => broken
  | some status =>
    ⟨status, some (.object [("detail", .text failure.message),
      ("errors", .list (failure.reasons.map .text))])⟩

end Response

end MetricLayer.Http
