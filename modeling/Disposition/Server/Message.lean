import Disposition.Event
import Disposition.Text.Ascii
import Disposition.Text.Lower

/-!
# Requests and responses

* `Request`: what a client sends. The names of headers are compared without regard to case, and of
  headers with the same name the last one counts.
* `Request.shop`: the shop that a request is about, the one named `default` unless it says another
  (`ShopMiddleware`).
* `Response`: what the service answers, with the headers for browsers of other origins and the
  events of the work.
-/

namespace Disposition

/-- What a client sends. -/
structure Request where
  /-- The method, in which the case of letters matters. -/
  method : String
  /-- The path, with the query behind it. -/
  target : String
  /-- The headers. -/
  headers : List (String × String) := []
  /-- The text of the body, if there is one. -/
  body : Option String := none
  deriving DecidableEq, Repr, Inhabited

namespace Request

/-- The header of a name in lower case. -/
def header? (request : Request) (name : String) : Option String :=
  (request.headers.reverse.find? fun (other, _) => Text.asciiLower other = name).map (·.2)

/-- The shop that a request is about. -/
def shop (request : Request) : String :=
  let named := Text.normalize ((request.header? "x-shop-domain").getD "")
  if named = "" then "default" else named

end Request

/-- The body of a response. -/
inductive Body
  /-- None. -/
  | empty
  /-- Data. -/
  | data (v : Value)
  /-- Plain text. -/
  | text (s : String)
  deriving Repr, Inhabited

/-- What the service answers. -/
structure Response where
  /-- The status. -/
  status : Nat
  /-- The body. -/
  body : Body
  /-- The headers for browsers, if the request names an origin. -/
  crossOrigin : Option (List (String × String)) := none
  /-- The events of the work. -/
  events : List Event := []
  deriving Repr, Inhabited

namespace Response

/-- A response with data. -/
def ofData (status : Nat) (v : Value) (events : List Event) : Response where
  status := status
  body := .data v
  events := events

/-- A refusal with its reason. -/
def refusal (status : Nat) (reason : String) : Response :=
  ofData status (.object [("detail", .text reason)]) []

/-- The request was carried out. -/
def isSuccess (response : Response) : Bool :=
  200 ≤ response.status && response.status < 300

end Response

end Disposition
