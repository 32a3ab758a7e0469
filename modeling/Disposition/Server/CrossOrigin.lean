import Disposition.Server.Message
import Disposition.Settings

/-!
# Requests from other origins

Browsers tell the service the origin of a page that uses it, and ask before they send what a page
could not send by itself. Only the allowed origins are told that they may read the answers.

* `CrossOrigin.preflight?`: the response to a browser that asks.
* `CrossOrigin.mark`: a response with the headers for its origin.
-/

namespace Disposition.CrossOrigin

/-- The methods that browsers may use. -/
def methods : List String :=
  ["DELETE", "GET", "HEAD", "OPTIONS", "PATCH", "POST", "PUT", "QUERY"]

/-- Browsers may send what identifies the user. -/
def credentials : String × String :=
  ("access-control-allow-credentials", "true")

/-- The header that lets an allowed origin read the answer. -/
def allowed (settings : ServerSettings) (origin : String) : List (String × String) :=
  if settings.allowedOrigins.contains origin then [("access-control-allow-origin", origin)] else []

/-- The headers that the answer to a question depends on. -/
def questionHeaders : List String :=
  ["Origin", "Access-Control-Request-Method", "Access-Control-Request-Headers",
    "Access-Control-Request-Private-Network"]

/-- What a browser asks for and does not get. No page may use a private network. -/
def refused (settings : ServerSettings) (request : Request) (origin method : String) :
    List String :=
  (if settings.allowedOrigins.contains origin then [] else ["origin"]) ++
    (if methods.contains method then [] else ["method"]) ++
    (if (request.header? "access-control-request-private-network").isSome then
      ["private-network"]
    else [])

/-- The response to a browser that asks for a method. -/
def answer (settings : ServerSettings) (request : Request) (origin method : String) : Response :=
  let requested :=
    match request.header? "access-control-request-headers" with
    | some names => [("access-control-allow-headers", names)]
    | none => []
  let headers :=
    [("access-control-allow-methods", String.intercalate ", " methods),
      ("access-control-max-age", "600"), credentials,
      ("vary", String.intercalate ", " questionHeaders)] ++
      allowed settings origin ++ requested
  match refused settings request origin method with
  | [] => { status := 200, body := .text "OK", crossOrigin := some headers }
  | failures => {
      status := 400
      body := .text ("Disallowed CORS " ++ String.intercalate ", " failures)
      crossOrigin := some headers }

/-- The response to a request, if it is a browser that asks. -/
def preflight? (settings : ServerSettings) (request : Request) : Option Response :=
  match request.header? "origin", request.header? "access-control-request-method" with
  | some origin, some method =>
    if request.method = "OPTIONS" then some (answer settings request origin method) else none
  | _, _ => none

/-- A response with the headers for the origin of its request. A failure of the service has
none. -/
def mark (settings : ServerSettings) (request : Request) (response : Response) : Response :=
  match request.header? "origin" with
  | none => response
  | some origin =>
    let headers :=
      if response.status = 500 then []
      else credentials :: ("vary", "Origin") :: allowed settings origin
    { response with crossOrigin := some headers }

end Disposition.CrossOrigin
