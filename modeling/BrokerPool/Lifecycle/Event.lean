import BrokerPool.Lifecycle.Error
import BrokerPool.Log

/-!
# What a controller reports

Every report of a controller, with what it is about, and the log entry that it becomes.
-/

namespace BrokerPool.Lifecycle

/-- A report of a controller. -/
inductive Event
  | reused (r : ResourceId)
  | created (r : ResourceId) (step : String)
  | discarding (r : ResourceId) (cause : Fault)
  /-- A discarded resource failed to close. -/
  | discardFailed (r : ResourceId) (e : CloseError)
  /-- A resource that nobody waits for failed to close. -/
  | closeFailed (r : ResourceId) (e : CloseError)
  /-- The connection failed to close after its worker had failed to. -/
  | alsoFailed (r : ResourceId) (e : CloseError)
  /-- A connection without a worker failed to close. -/
  | unwindFailed (cause : Fault)
  /-- The pool does not take a resource back. -/
  | refused (r : ResourceId)
  | cancelled (r : ResourceId)
  /-- A resource was dropped open. -/
  | leaked (r : ResourceId)
  | drained (step : String) (closed failed : Nat)
deriving DecidableEq, Repr

namespace Event

def controllerPart : String := "amqp_lifecycle::lifecycle::controller"

def resourcePart : String := "amqp_lifecycle::lifecycle::resource"

def resourceField (r : ResourceId) : Log.Field := ⟨"resource_id", r.text, false⟩

def errorField (text : String) : Log.Field := ⟨"error", text, false⟩

/-- The log entry of a report. -/
def entry : Event → Log.Entry
  | .reused r => Log.entry .debug controllerPart "Reusing pooled resource" [resourceField r]
  | .created r step =>
    Log.entry .info controllerPart "Created resource" [resourceField r, ⟨"step", step, true⟩]
  | .discarding r cause =>
    Log.entry .warn controllerPart "Processing failed, discarding resource"
      [resourceField r, errorField cause.text]
  | .discardFailed r e =>
    Log.entry .warn controllerPart "Failed to close discarded resource"
      [resourceField r, errorField e.message]
  | .closeFailed r e =>
    Log.entry .warn controllerPart "Failed to close AMQP resource"
      [resourceField r, errorField e.message]
  | .alsoFailed r e =>
    Log.entry .warn resourcePart "Connection close also failed"
      [resourceField r, errorField e.message]
  | .unwindFailed cause =>
    Log.entry .warn controllerPart "Failed to close connection after worker creation failed"
      [errorField cause.text]
  | .refused r =>
    Log.entry .debug controllerPart "Pool closed, closing returned resource" [resourceField r]
  | .cancelled r =>
    Log.entry .warn resourcePart "Trigger cancelled, closing checked-out resource" [resourceField r]
  | .leaked r =>
    Log.entry .warn resourcePart "No runtime left, resource dropped without close" [resourceField r]
  | .drained step closed failed =>
    Log.entry .info controllerPart "Resource pool drained"
      [⟨"step", step, true⟩, ⟨"closed", Number.digitText closed, false⟩,
        ⟨"failed", Number.digitText failed, false⟩]

end Event

end BrokerPool.Lifecycle
