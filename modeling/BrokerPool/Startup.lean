import BrokerPool.Http.Server
import BrokerPool.Log.Line
import BrokerPool.Settings.Sources
import BrokerPool.Settings.Variables

/-!
# Beginning and end of the service

The service reads its settings, checks all of them, and begins to listen. When it is told to stop it
empties both pools. It does not begin with settings that break a rule.
-/

namespace BrokerPool.Startup

open Http (Server)

/-- The part of the service that writes about its beginning and its end. -/
def part : String := "amqp_lifecycle"

def info (message : String) (fields : List Log.Field) : Log.Entry :=
  Log.entry .info part message fields

/-- What a beginning comes to: a server, or the reason why there is none. -/
structure Beginning where
  log : List Log.Entry := []
  server : Except String Server

/-- The entry about a rule that the settings break. -/
def failureEntry (f : Config.Failure) : Log.Entry :=
  Log.entry .error part f.explanation [⟨"subject", f.subject, false⟩]

/-- Why the service does not begin. -/
def refusal (failures : List Config.Failure) : String :=
  "refusing to start with " ++ Number.digitText failures.length ++ " configuration problem(s)"

/-- Checks settings and makes a server: the beginning of `main` behind the loading of settings. -/
def ofSettings (settings : Config.Service) (files : Files) (peer : Broker.Peer) : Beginning :=
  let log := [
    info ("Starting AMQP Lifecycle Service v" ++ Http.version) [],
    info "Broker configured" [⟨"broker", settings.broker.target, false⟩]]
  match settings.broker.failures ++ settings.consuming.failures with
  | [] =>
    match Server.ofSettings settings files peer with
    | .ok server =>
      let port := Number.digitText settings.httpPort.toNat
      { log := log ++ [info ("Listening on http://0.0.0.0:" ++ port) []], server := .ok server }
    | .error failures => { log, server := .error (Config.Failure.summary failures) }
  | failures => { log := log ++ failures.map failureEntry, server := .error (refusal failures) }

/-- Begins in a working directory with an environment (`main` up to `serve`). -/
def begin (environment : Settings.Environment) (files : Files) (peer : Broker.Peer) : Beginning :=
  match Config.Service.load (environment.withFile files) files with
  | .error e => { server := .error (e.message.getD "") }
  | .ok settings => ofSettings settings files peer

/-- Ends the service (`main` behind `serve`). -/
def finish (s : Server) : Server × List Log.Entry :=
  let (s, log, farewell) := s.shutdown
  let failed := farewell.publisher.failures.length + farewell.consumer.failures.length
  let warning := if failed = 0 then [] else
    [Log.entry .warn part "Some AMQP resources failed to close"
      [⟨"failed", Number.digitText failed, false⟩]]
  (s, info "Shutdown signal received" [] :: log ++ warning ++ [info "Shutdown complete" []])

/-- The filter of log lines when the environment names none. -/
def defaultFilter : String := "amqp_lifecycle=info,tower_http=debug"

/-- The text of the filter of log lines. -/
def filterText (environment : Settings.Environment) : String :=
  (environment.lookup "RUST_LOG").getD defaultFilter

/-- The complaints about the parts of a filter that are none. -/
def filterComplaints (text : String) : List String :=
  (Log.Filter.unreadable text).map fun part =>
    "ignoring `" ++ part ++ "`: invalid filter directive"

/-- The last words of a service that does not begin. -/
def errorLine (reason : String) : String := "Error: " ++ reason

end BrokerPool.Startup
