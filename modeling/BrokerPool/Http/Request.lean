import BrokerPool.Http.Failure
import BrokerPool.Http.MediaType
import BrokerPool.Message.Outbound

/-!
# Requests

What can be asked of the service, and how the body of a request becomes a message. A body must be
declared as JSON; what follows the first value in it is not looked at.
-/

namespace BrokerPool.Http

/-- A request to the service. -/
structure Request where
  method : String
  path : String
  contentType : Option String := none
  body : List UInt8 := []

/-- The body of a response. -/
inductive Body
  | empty
  | text (s : String)
  | json (v : Json.Value)

/-- A response of the service. -/
structure Response where
  status : Status
  body : Body

/-- What the service offers. -/
inductive Endpoint
  | health
  | pool
  | publish
  | consume
deriving DecidableEq, Repr

namespace Endpoint

/-- The paths of the endpoints. -/
def paths : List (String × Endpoint) :=
  [("/health", .health), ("/pool", .pool), ("/publish", .publish), ("/consume", .consume)]

/-- The endpoint at a path, of which a query and what follows are no part. -/
def ofPath? (path : String) : Option Endpoint :=
  paths.lookup (String.ofList (path.toList.takeWhile fun c => c != '?' && c != '#'))

/-- Whether an endpoint can be asked with a method. -/
def allows : Endpoint → String → Bool
  | .health, method => method == "GET" || method == "HEAD"
  | .pool, method => method == "GET" || method == "HEAD"
  | .publish, method => method == "POST"
  | .consume, method => method == "POST"

end Endpoint

/-- The greatest number of bytes of a body. -/
def bodyLimit : Nat := 2097152

/-- The message in the body of a request, or the response that refuses it. -/
def Request.message (r : Request) : Except Response Message.Outbound :=
  let refuse (status : Status) (text : String) : Except Response Message.Outbound :=
    .error ⟨status, .text text⟩
  if !((r.contentType.bind MediaType.parse).any MediaType.isJson) then
    refuse .unsupportedMediaType "Expected request with `Content-Type: application/json`"
  else if bodyLimit < r.body.length then
    refuse .payloadTooLarge "Failed to buffer the request body: length limit exceeded"
  else
    match Message.Outbound.decode .text (Json.Document.ofBytes r.body).root with
    | .ok m => .ok m
    | .error (.flaw _) => refuse .badRequest "Failed to parse the request body as JSON"
    | .error (.mismatch path message) =>
      let place := if path.isEmpty then "" else Json.pathText path ++ ": "
      refuse .unprocessable
        ("Failed to deserialize the JSON body into the target type: " ++ place ++ message)

end BrokerPool.Http
