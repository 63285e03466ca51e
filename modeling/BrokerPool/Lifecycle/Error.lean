import BrokerPool.Fault
import BrokerPool.Files
import BrokerPool.Lifecycle.Resource

/-!
# Failures of a trigger

A trigger fails with the first thing that went wrong. What goes wrong afterwards, while the broken
resource is closed, is kept beside it and never takes its place.
-/

namespace BrokerPool.Lifecycle

/-- Why there is no connection, or no worker for it. -/
inductive ConnectionError
  | establish (target : String) (cause : Fault)
  | tls (path : String) (cause : FileError)
  | worker (target : String) (cause : Fault)
deriving DecidableEq, Repr

/-- The half of a resource. -/
inductive Half
  | worker
  | connection
deriving DecidableEq, Repr

/-- A half of a resource that failed to close. -/
structure CloseError where
  half : Half
  resource : ResourceId
  cause : Fault
deriving DecidableEq, Repr

/-- A failed step. Its resource was discarded; `suppressed` is what went wrong
    on that occasion. -/
structure ProcessingError where
  resource : ResourceId
  cause : Fault
  suppressed : Option CloseError
deriving DecidableEq, Repr

/-- Why a trigger has no output. -/
inductive TriggerError
  | connection (e : ConnectionError)
  | processing (e : ProcessingError)
  | shutdown
deriving DecidableEq, Repr

namespace ConnectionError

def message : ConnectionError → String
  | .establish target _ => "failed to establish connection with AMQP broker " ++ target
  | .tls path _ => "failed to read TLS material from " ++ path
  | .worker target _ => "failed to create worker on connection to " ++ target

/-- The texts of the causes, the outermost first. -/
def chain : ConnectionError → List String
  | .establish _ cause => cause.chain
  | .tls _ cause => [cause.message]
  | .worker _ cause => cause.chain

end ConnectionError

namespace CloseError

def message (e : CloseError) : String :=
  (match e.half with
    | .worker => "failed to close worker of resource "
    | .connection => "failed to close connection of resource ") ++ e.resource.text

end CloseError

namespace ProcessingError

def message (e : ProcessingError) : String :=
  "processing failed on resource " ++ e.resource.text ++ ": " ++ e.cause.flat

end ProcessingError

namespace TriggerError

def message : TriggerError → String
  | .connection e => e.message
  | .processing e => e.message
  | .shutdown => "lifecycle controller has been shut down"

/-- The texts of the causes, the outermost first. -/
def chain : TriggerError → List String
  | .connection e => e.chain
  | .processing e => e.cause.chain
  | .shutdown => []

/-- The message and all causes in one line. -/
def flat (e : TriggerError) : String := ": ".intercalate (e.message :: e.chain)

/-- What went wrong while the resource of a failed step was closed. -/
def suppressed? : TriggerError → Option CloseError
  | .processing e => e.suppressed
  | _ => none

end TriggerError

end BrokerPool.Lifecycle
