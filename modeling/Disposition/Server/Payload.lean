import Disposition.Json.Encoding
import Disposition.Json.Reader
import Disposition.Server.Message
import Disposition.Server.Problem
import Disposition.Text.Fields
import Disposition.Text.Occurrence

/-!
# The data of a request

* `Request.payload`: the data in the body of a request, or why the request is refused. A body that
  is not said to be JSON is kept from being read, and one that is empty is missing.
* `Refusal.response`: the response that refuses a request. It quotes what was found at each problem,
  and fails where that cannot be written.
-/

namespace Disposition

/-- Why a request is refused. -/
inductive Refusal
  /-- The body has problems. -/
  | problems (problems : List Problem)
  /-- The body cannot be read. -/
  | unreadable
  /-- The rule names a destination that the shop does not have. -/
  | unknownDestination
  /-- The shop has no such destination. -/
  | noDestination
  /-- The shop has no such rule. -/
  | noRule
  /-- There is no such place. -/
  | noEndpoint
  /-- The place is another one, without slashes at its end. -/
  | moved
  /-- The place has no such method. -/
  | noMethod
  /-- The database refuses. -/
  | failure
  deriving Repr

namespace Refusal

/-- The response of a service that fails. -/
def failed : Response where
  status := 500
  body := .text "Internal Server Error"

/-- The report of problems. What was found at each of them is written too, to readers that need not
have it, so that a report of what cannot be written fails. -/
def report (problems : List Problem) : Response :=
  if problems.all fun problem => Json.isPrintable problem.found then
    .ofData 422 (.object [("detail", .list (problems.map Problem.toValue))]) []
  else failed

/-- The response that refuses a request. -/
def response : Refusal → Response
  | .problems list => report list
  | .unreadable => .refusal 400 "There was an error parsing the body"
  | .unknownDestination => .refusal 400 "Unknown destination"
  | .noDestination => .refusal 404 "Destination not found"
  | .noRule => .refusal 404 "Rule not found"
  | .noEndpoint => .refusal 404 "Not Found"
  | .moved => { status := 307, body := .empty }
  | .noMethod => .refusal 405 "Method Not Allowed"
  | .failure => failed

end Refusal

namespace Request

/-- The type of the content is JSON. -/
def isJson (request : Request) : Bool :=
  let declared := ((request.header? "content-type").getD "").toList
  let contentType := Text.trim (Text.beforeFirst ';' declared)
  match (Text.fields '/' contentType).map fun part => Text.asciiLower (String.ofList part) with
  | ["application", subtype] => subtype = "json" || Text.endsWith "+json" subtype
  | _ => false

/-- How many brackets may be open at once in a body. -/
def depthLimit : Nat := 960

/-- The data that a text is. -/
def dataOf (s : String) : Except Refusal Json :=
  match Json.decode? (Text.utf8Bytes s) with
  | none => .error .unreadable
  | some cs =>
    match Json.readNested depthLimit cs with
    | .ok v => .ok v
    | .error .malformed => .error (.problems [{ kind := .malformed, found := .object [] }])
    | .error .tooManyDigits | .error .tooDeep => .error .unreadable

/-- The data in the body of a request. -/
def payload (request : Request) : Except Refusal Json :=
  match request.body with
  | none | some "" => .error (.problems [{ kind := .missing, found := .null }])
  | some s =>
    if request.isJson then dataOf s
    else .error (.problems [{ kind := .notAnObject, found := .text s }])

/-- What a form makes of the data in the body of a request. -/
def checked {α : Type} (request : Request) (read : Json → Checked α) : Except Refusal α := do
  (read (← request.payload)).mapError .problems

end Request

end Disposition
