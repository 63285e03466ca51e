import BrokerPool.Lifecycle.Error
import BrokerPool.Json.Value
import BrokerPool.Log

/-!
# Failed triggers in HTTP

The status, the body and the log entry of a request whose trigger failed.
-/

namespace BrokerPool.Http

open Lifecycle (TriggerError)

/-- The status codes that the service answers with. -/
inductive Status
  | ok
  | badRequest
  | notFound
  | methodNotAllowed
  | payloadTooLarge
  | unsupportedMediaType
  | unprocessable
  | internalError
  | badGateway
  | unavailable
deriving DecidableEq, Repr

namespace Status

def code : Status → Nat
  | .ok => 200
  | .badRequest => 400
  | .notFound => 404
  | .methodNotAllowed => 405
  | .payloadTooLarge => 413
  | .unsupportedMediaType => 415
  | .unprocessable => 422
  | .internalError => 500
  | .badGateway => 502
  | .unavailable => 503

def reason : Status → String
  | .ok => "OK"
  | .badRequest => "Bad Request"
  | .notFound => "Not Found"
  | .methodNotAllowed => "Method Not Allowed"
  | .payloadTooLarge => "Payload Too Large"
  | .unsupportedMediaType => "Unsupported Media Type"
  | .unprocessable => "Unprocessable Entity"
  | .internalError => "Internal Server Error"
  | .badGateway => "Bad Gateway"
  | .unavailable => "Service Unavailable"

end Status

/-- The status of a failed trigger (`status` of `ApiError`): the broker cannot be reached, a step
    failed, or the service is about to stop. -/
def failureStatus : TriggerError → Status
  | .connection _ => .badGateway
  | .processing _ => .internalError
  | .shutdown => .unavailable

/-- The body of a failed trigger (`ErrorResponse`). -/
def failureBody (e : TriggerError) : Json.Value := .ofMembers [
  ("error", .string e.flat),
  ("suppressed", .ofText? (e.suppressed?.map (·.message)))]

/-- The part of the service that writes about requests. -/
def handlersPart : String := "amqp_lifecycle::api::handlers"

/-- The log entry of a failed trigger (`into_response` of `ApiError`). -/
def failureEntry (e : TriggerError) : Log.Entry :=
  let status := failureStatus e
  Log.entry .error handlersPart "Trigger failed" [
    ⟨"status", Number.digitText status.code ++ " " ++ status.reason, false⟩,
    ⟨"error", e.message, false⟩]

end BrokerPool.Http
