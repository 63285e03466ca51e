import BrokerPool.Broker.Connection
import BrokerPool.Broker.Consumer
import BrokerPool.Broker.Publisher
import BrokerPool.Config.Diagnostic
import BrokerPool.Config.Validation
import BrokerPool.Http.Failure
import BrokerPool.Http.MediaType
import BrokerPool.Http.Request
import BrokerPool.Http.Server
import BrokerPool.Lifecycle.Controller
import BrokerPool.Lifecycle.Custody
import BrokerPool.Log.Line
import BrokerPool.Main
import BrokerPool.Proofs.Broker.Opening
import BrokerPool.Proofs.Broker.Order
import BrokerPool.Proofs.Config.Credentials
import BrokerPool.Proofs.Config.Defaults
import BrokerPool.Proofs.Files
import BrokerPool.Proofs.Http.Consuming
import BrokerPool.Proofs.Http.FailureText
import BrokerPool.Proofs.Http.Publishing
import BrokerPool.Proofs.Lifecycle.Drain
import BrokerPool.Proofs.Lifecycle.Dropped
import BrokerPool.Proofs.Lifecycle.Growth
import BrokerPool.Proofs.Lifecycle.Lifetime
import BrokerPool.Proofs.Lifecycle.OneSlot
import BrokerPool.Proofs.Lifecycle.Precedence
import BrokerPool.Proofs.Lifecycle.Refusal
import BrokerPool.Proofs.Lifecycle.Shutdown
import BrokerPool.Proofs.Lifecycle.Warnings
import BrokerPool.Proofs.Message.Attributes
import BrokerPool.Proofs.Message.HeaderText
import BrokerPool.Proofs.Message.InboundText
import BrokerPool.Proofs.Message.OutboundText
import BrokerPool.Proofs.Message.Transit
import BrokerPool.Proofs.Settings.Presence
import BrokerPool.Proofs.Startup.Secrecy
