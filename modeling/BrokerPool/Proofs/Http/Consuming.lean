import BrokerPool.Proofs.Http.Sequence

/-!
# Messages taken

A trigger of the consuming controller that has got a worker asks for one message, once and on one
connection. A message that is handed over is returned, and it is acknowledged under its own tag
unless the broker does that by itself. Nothing else is ever acknowledged. After an empty queue the
resource is kept, and after a closed channel the connection is not used again.

Results:
* `Served.consumed`: what a trigger with a worker does for each reaction of the broker.
* `consumed_once`: one trigger after any requests.
-/

namespace BrokerPool.Http

open Broker (Hanging Moment Peer Reaction Script consuming deliveryTag handed inbound
  workerEntry)
open Lifecycle (TriggerError)
open Message (Delivery Inbound)

/-! ## Reactions to a request for a message -/

theorem handed_of_empties {moment : Moment} {reaction : Reaction} (h : reaction.empties = true) :
    handed moment reaction = some (.ok none) := by
  cases reaction <;> simp_all [Reaction.empties, handed]

theorem handed_of_breaks {moment : Moment} {reaction : Reaction} (h : reaction.breaks = true)
    (o : Option Inbound) : handed moment reaction ≠ some (.ok o) := by
  cases reaction <;> simp_all [Reaction.breaks, handed]

/-! ## Triggers -/

/-- A trigger that finds no worker: nothing is done on any connection. -/
structure Unconsumed (s : Server)
    (t : Server × List Log.Entry × Option (Except TriggerError (Option Inbound))) : Prop where
  works : ∀ n, t.1.peer.worksOn n = s.peer.worksOn n
  result : ∀ a, t.2.2 = some a → ∃ e, a = .error (.connection e)

/-- What a trigger comes to that asks for a message on the connection `c`, for each reaction of the
    broker to that; the requests `later` follow. -/
inductive Consumed (settings : Config.Consuming) (s : Server) (moment : Moment)
    (later : List (Moment × Request))
    (t : Server × List Log.Entry × Option (Except TriggerError (Option Inbound))) (c : ℕ) :
    Reaction → Prop
  /-- The message is acknowledged, unless the broker does so by itself, and returned. -/
  | delivered (d : Delivery) (tag : Option ℕ)
    (works : t.1.peer.worksOn c = s.peer.worksOn c ++ .get settings.queue settings.autoAck ::
      if settings.autoAck then [] else [.ack (deliveryTag (s.peer.taken c) tag) false])
    (result : t.2.2 = some (.ok (some (inbound moment d))))
    (pooled : ∃ r rest, t.1.consumers.idle = r :: rest ∧ r.connection = c) :
    Consumed settings s moment later t c (.message d tag)
  | empty (reaction : Reaction) (empties : reaction.empties = true)
    (works : t.1.peer.worksOn c = s.peer.worksOn c ++ [.get settings.queue settings.autoAck])
    (result : t.2.2 = some (.ok none))
    (pooled : ∃ r rest, t.1.consumers.idle = r :: rest ∧ r.connection = c) :
    Consumed settings s moment later t c reaction
  | failed (reaction : Reaction) (breaks : reaction.breaks = true)
    (works : t.1.peer.worksOn c = s.peer.worksOn c ++ [.get settings.queue settings.autoAck])
    (result : ∀ a, t.2.2 = some a → ∃ e, a = .error (.processing e))
    (unused : (t.1.after later).peer.worksOn c = t.1.peer.worksOn c) :
    Consumed settings s moment later t c reaction

/-- What a trigger with a worker does for each reaction of the broker. -/
theorem Served.consumed {s : Server} (sound : s.Sound) {moment : Moment} {c : ℕ} {p₁ : Peer}
    (served : Served (consuming s.settings.consuming) moment s.peer ⟨s.consumers, s.supply⟩ c p₁
      (s.trigger (consuming s.settings.consuming) s.consumers moment) (s.consume moment).2.2)
    (later : List (Moment × Request)) :
    Consumed s.settings.consuming s moment later (s.consume moment) c
      (s.peer.script.next .get).1 := by
  obtain ⟨worked, result⟩ :=
    Broker.fetch_spec s.settings.consuming moment served.channel
  rw [served.quiet.reactions .get rfl, served.quiet.works, served.quiet.taken] at worked
  rw [served.quiet.reactions .get rfl] at result
  have works := served.works.trans worked
  generalize (s.peer.script.next .get).1 = reaction at works result ⊢
  -- Without a success the connection is idle in neither pool, so no request comes back to it.
  have broken (breaks : reaction.breaks = true)
      (works : (s.consume moment).1.peer.worksOn c = s.peer.worksOn c ++
        [.get s.settings.consuming.queue s.settings.consuming.autoAck]) :
      Consumed s.settings.consuming s moment later (s.consume moment) c reaction := by
    obtain ⟨failed, spent⟩ := served.failure fun o ho =>
      handed_of_breaks breaks o (result.symm.trans ho)
    have retired : (s.consume moment).1.Retired c :=
      (spent _ (sound.stocked.perm List.perm_append_comm)).perm List.perm_append_comm
    have goes := Server.after_goes (Server.consume_goes sound moment).sound later
    exact .failed reaction breaks works failed (goes.worksOn retired)
  have emptied (empties : reaction.empties = true)
      (works : (s.consume moment).1.peer.worksOn c = s.peer.worksOn c ++
        [.get s.settings.consuming.queue s.settings.consuming.autoAck]) :
      Consumed s.settings.consuming s moment later (s.consume moment) c reaction := by
    obtain ⟨returned, pooled, -⟩ := served.success none (result.trans (handed_of_empties empties))
    exact .empty reaction empties works returned pooled
  cases reaction with
  | message d tag =>
    obtain ⟨returned, pooled, -⟩ := served.success _ result
    exact .delivered d tag works returned pooled
  | success | nack | returned => exact emptied rfl works
  | closeChannel | closeConnection | drop | hang => exact broken rfl works

/-- A trigger after any requests asks for one message if there is a worker, and acknowledges what it
    returns and nothing else. Only a broker that keeps silent somewhere leaves it without a
    result. -/
theorem consumed_once {settings : Config.Service} {script : Script} {s : Server}
    (reached : s.Reached settings script) (moment : Moment) (later : List (Moment × Request)) :
    ((s.consume moment).2.1.any workerEntry = true → ∃ c,
      Consumed settings.consuming s moment later (s.consume moment) c
        (s.peer.script.next .get).1 ∧
      ∀ n ≠ c, (s.consume moment).1.peer.worksOn n = s.peer.worksOn n) ∧
    ((s.consume moment).2.1.any workerEntry = false → Unconsumed s (s.consume moment)) ∧
    (settings.consuming.autoAck = true → ∀ n tag multiple,
      .ack tag multiple ∉ (s.consume moment).1.peer.framesOn n) ∧
    (¬ Hanging script → (s.consume moment).2.2.isSome = true) := by
  obtain ⟨sound, rfl, scripted, fits⟩ := reached.sound
  have tidy := Broker.tidy_consuming s.settings.consuming
  obtain ⟨ended, silent⟩ := triggered s tidy s.consumers sound.begins_consuming moment
  refine ⟨fun has => ?served, fun has => ?unserved, fun auto n tag multiple hf => ?automatic,
    fun hang => ?answered⟩
  case served =>
    obtain ⟨-, c, p₁, served⟩ := (ended.served tidy).resolve_left fun h => by
      simp [show (s.consume moment).2.1.any workerEntry = false from h.1] at has
    exact ⟨c, served.consumed sound later, fun n hn => Peer.worksOn_congr (served.others n hn)⟩
  case unserved =>
    obtain ⟨-, works, failed⟩ := (ended.served tidy).resolve_right fun h => by
      simp [show (s.consume moment).2.1.any workerEntry = true from h.1] at has
    exact ⟨works, failed⟩
  case automatic =>
    have hw : .ack tag multiple ∈ (s.consume moment).1.peer.worksOn n :=
      List.mem_filter.mpr ⟨hf, rfl⟩
    have h := ((Server.consume_goes sound moment).works n _ hw).elim (fits n _) id
    simp [h.1] at auto
  case answered =>
    rw [Option.isSome_iff_ne_none]
    exact fun hn => hang ((silent hn).imp fun _ => scripted _)

/-- A message from a queue. -/
def job : Delivery where
  body := [104, 105]
  properties := {}
  routingKey := "new"
  exchange := "jobs"
  redelivered := false

/-- A server whose broker closes one channel, and hands over a message with a tag of its own on the
    next one. -/
def interrupted : Server where
  settings.broker := .ofCredentials "broker" "guest" "guest"
  settings.consuming.queue := "jobs"
  files := {}
  peer.route := .through
  peer.script := [(.get, .closeChannel 404 "no queue"), (.get, .message job (some 7))]

/-- A request for a message. -/
def demand : Request := { method := "POST", path := "/consume" }

/-- A message that is taken after a closed channel. -/
theorem consumed_once_interrupted :
    let s := interrupted.after [(⟨0, ⟨0, 0, 0⟩⟩, demand)]
    ∃ c, Consumed interrupted.settings.consuming s ⟨1, ⟨0, 1, 0⟩⟩ [] (s.consume ⟨1, ⟨0, 1, 0⟩⟩) c
        (s.peer.script.next .get).1 ∧
      ∀ n ≠ c, (s.consume ⟨1, ⟨0, 1, 0⟩⟩).1.peer.worksOn n = s.peer.worksOn n := by
  intro s
  have reached : s.Reached interrupted.settings interrupted.peer.script :=
    ⟨{}, .through, interrupted, _, rfl, rfl⟩
  have worker : ((interrupted.after [(⟨0, ⟨0, 0, 0⟩⟩, demand)]).consume
      ⟨1, ⟨0, 1, 0⟩⟩).2.1.any workerEntry = true := by decide +kernel
  exact (consumed_once reached ⟨1, ⟨0, 1, 0⟩⟩ []).1 worker

end BrokerPool.Http
