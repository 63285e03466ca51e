import BrokerPool.Config.Basic
import BrokerPool.Text.Classes

/-!
# Validation before the first connection

The rules for settings are checked one by one and all failures are reported together, in the order
of the rules. A configuration without failures has exactly one way to authenticate.
-/

namespace BrokerPool.Config

/-- One rule that settings break (`ValidationFailure`). -/
structure Failure where
  subject : String
  explanation : String
deriving DecidableEq, Repr

namespace Failure

/-- The failure as one line. -/
def line (f : Failure) : String := f.subject ++ ": " ++ f.explanation

/-- All failures in one message (`summarize`). -/
def summary (failures : List Failure) : String :=
  "invalid configuration: " ++ "; ".intercalate (failures.map line)

end Failure

/-- A failure, if its rule is broken. -/
def check (broken : Bool) (subject explanation : String) : List Failure :=
  if broken then [⟨subject, explanation⟩] else []

/-- Whether a text has nothing but blanks. -/
def isBlankText (s : String) : Bool := s.toList.all Text.isBlank

namespace Broker

/-- The rules that a broker's settings break (`validate`). -/
def failures (b : Broker) : List Failure :=
  check (isBlankText b.host) "Host Name" "must not be empty"
  ++ check (b.port == 0) "Port" "must be between 1 and 65535"
  ++ check (b.virtualHost == some "") "Virtual Host" "must not be empty when set"
  ++ check (b.byCertificate && (b.usernameSet || b.passwordSet)) "Authentication configuration"
      ("'User Name' with 'Password' and 'Use Client Certificate Authentication' "
        ++ "cannot be configured at the same time")
  ++ check (!b.byCertificate && !(b.usernameSet && b.passwordSet)) "Authentication configuration"
      ("either 'User Name' with 'Password' or 'Use Client Certificate Authentication' "
        ++ "must be configured")
  ++ check (b.byCertificate && b.tls.isNone) "SSL configuration"
      ("'Use Client Certificate Authentication' has been set "
        ++ "but no 'SSL Context Service' configured")

end Broker

/-- The rules that the consumer's settings break (`validate_consumer`). -/
def Consuming.failures (c : Consuming) : List Failure :=
  check (isBlankText c.queue) "Queue" "must not be empty"

end BrokerPool.Config
