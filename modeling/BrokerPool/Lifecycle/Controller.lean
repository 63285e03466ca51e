import BrokerPool.Config.Validation
import BrokerPool.Lifecycle.Rehearsal

/-!
# Making a controller

A controller is only made for settings that break no rule, so nothing is ever sent to a broker whose
settings do.
-/

namespace BrokerPool.Lifecycle

/-- The role of a controller for a broker, or the rules that the broker's settings break (`new` of
    `LifecycleController`). -/
def Role.ofBroker (b : Config.Broker) (step : String) : Except (List Config.Failure) Role :=
  match b.failures with
  | [] => .ok ⟨b.target, step⟩
  | failures => .error failures

/-- A rehearsal of a controller for a broker. -/
def Rehearsal.ofBroker (b : Config.Broker) (faults : Faults) :
    Except (List Config.Failure) Rehearsal :=
  (Role.ofBroker b "scripted").map fun role => { role, faults }

end BrokerPool.Lifecycle
