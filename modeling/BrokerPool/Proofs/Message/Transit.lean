import BrokerPool.Proofs.Broker.Work
import BrokerPool.Proofs.Json.Records
import BrokerPool.Proofs.Text.Utf8

/-!
# From a publisher to a consumer

A message is published with properties, and whoever takes it sees them as attributes. Texts become
bytes on the way and texts again, and the headers become one attribute.

Results:
* `headers_ordered_of_decode`, `headers_ordered_withHeader`: the headers of every message that can
  be made are in order.
* `attributes_delivery`: the attributes of a message that is handed over as it was published.
* `arrives_as_published`: what is published and handed over unchanged is taken as it was.
-/

namespace BrokerPool.Message

/-! ## Headers -/

namespace Outbound

variable {m : Outbound}

theorem headers_ordered_withHeader (h : m.headers.Ordered) (key value : String) :
    (m.withHeader key value).headers.Ordered :=
  h.put key value

theorem headers_ordered_of_decode {medium : Json.Medium} {t : Json.Tree}
    (h : decode medium t = .ok m) : m.headers.Ordered := by
  refine Json.record_induction (P := fun m => m.headers.Ordered) (fun f hf => ?_)
    List.Pairwise.nil h
  simp only [decodeFields, List.mem_cons, List.not_mem_nil, or_false] at hf
  obtain rfl | rfl | rfl | rfl := hf
  case inl => exact Json.Field.keeps_needed fun _ _ _ _ kept => kept
  case inr.inl | inr.inr.inl => exact Json.Field.keeps_given fun _ _ _ _ kept => kept
  case inr.inr.inr => exact Json.Field.keeps_given fun _ _ map _ _ => Json.mapOf_ordered map

/-- The headers of a message, as whoever takes it sees them. -/
def headerText (m : Outbound) : String :=
  ",".intercalate (m.headers.map fun (k, v) => k ++ "=" ++ v)

theorem fields_text (m : Outbound) : m.fields.text = m.headerText := by
  have each : ((fun e : String × FieldValue => e.1 ++ "=" ++ e.2.text) ∘ fun e : String × String =>
      (e.1, FieldValue.longText (Text.Utf8.encode e.2))) = fun e => e.1 ++ "=" ++ e.2 := by
    funext e
    simp [FieldValue.text, Text.Utf8.decodeLossy_encode]
  rw [FieldTable.text, fields, headerText, List.map_map]
  exact congrArg _ (congrArg (List.map · m.headers) each)

end Outbound

/-! ## Attributes -/

/-- The attributes of a message that is handed over as it was published, in the order of their
    keys. -/
theorem attributes_delivery (s : Config.Publishing) (m : Outbound) (redelivered : Bool) :
    ((Broker.publication s m).delivery redelivered).attributes =
      (m.contentType.map ("amqp$contentType", ·)).toList ++
      [("amqp$deliveryMode", "2"), ("amqp$exchange", s.exchange)] ++
      (if m.headers = [] then [] else [("amqp$headers", m.headerText)]) ++
      [("amqp$redelivered", Text.ofBool redelivered),
        ("amqp$routingKey", m.routingKey.getD s.routingKey)] := by
  have mode : Number.digitText Outbound.persistent.toNat = "2" := by decide +kernel
  have text : FieldTable.text m.fields = m.headerText := m.fields_text
  simp only [Delivery.attributes, Delivery.facts, Broker.Publication.delivery, Broker.publication,
    Outbound.properties, Outbound.destination, List.isEmpty_iff]
  -- Which facts there are depends on the content type and on the headers.
  cases m.contentType <;> by_cases bare : m.headers = [] <;>
    simp only [bare, if_true, if_false, List.filterMap_cons, List.filterMap_nil, Option.map_none,
      Option.map_some, Option.toList, mode, text, List.nil_append, List.cons_append,
      List.append_nil] <;>
    simp only [Delivery.attributeKey, String.reduceAppend, Keyed.ofList, List.foldl_cons,
      List.foldl_nil, Keyed.put, String.reduceEq, String.reduceLT, if_true, if_false]

/-- A message that was published, as it is taken. -/
structure Arrived (s : Config.Publishing) (m : Outbound) (redelivered : Bool) (i : Inbound) :
    Prop where
  payload : i.payload = m.payload
  exchange : i.attributes.lookup "amqp$exchange" = some s.exchange
  routingKey : i.attributes.lookup "amqp$routingKey" = some (m.routingKey.getD s.routingKey)
  redelivered : i.attributes.lookup "amqp$redelivered" =
    some (if redelivered then "true" else "false")
  deliveryMode : i.attributes.lookup "amqp$deliveryMode" = some "2"
  contentType : i.attributes.lookup "amqp$contentType" = m.contentType
  headers : i.attributes.lookup "amqp$headers" =
    if m.headers = [] then none else some m.headerText
  /-- Every header is there once, in the order of the bytes of the keys. -/
  headerOrder : (m.headers.map fun (k, _) => Text.Utf8.encode k).Pairwise (· < ·)
  others : ∀ key, key ∉ ["amqp$exchange", "amqp$routingKey", "amqp$redelivered",
    "amqp$deliveryMode", "amqp$contentType", "amqp$headers"] → i.attributes.lookup key = none
  /-- Every attribute is there once. -/
  ordered : i.attributes.Ordered

theorem arrived_inbound (s : Config.Publishing) {m : Outbound} (ordered : m.headers.Ordered)
    (redelivered : Bool) (moment : Broker.Moment) : Arrived s m redelivered
      (Broker.inbound moment ((Broker.publication s m).delivery redelivered)) := by
  have attributes := attributes_delivery s m redelivered
  constructor
  case payload => exact Text.Utf8.decodeLossy_encode m.payload
  case headerOrder =>
    rw [List.pairwise_map]
    exact ordered.imp fun h => (Text.Utf8.encode_lt_encode_iff _ _).mpr h
  case ordered => exact Keyed.ordered_ofList _
  all_goals
    simp only [Broker.inbound, Inbound.ofBody, attributes]
  case exchange | routingKey | redelivered | deliveryMode | contentType | headers =>
    cases m.contentType <;> by_cases bare : m.headers = [] <;>
      simp [List.lookup_cons, bare, Text.ofBool]
  case others =>
    intro key new
    simp only [List.mem_cons, List.not_mem_nil, or_false, not_or] at new
    rw [List.lookup_eq_none_iff]
    cases m.contentType <;> by_cases bare : m.headers = [] <;> simp [bare, new]

/-! ## Both ends -/

section Transit

variable {m : Outbound} {k : ℕ} {p : Broker.Peer}

/-- What is published and handed over unchanged is taken as it was. -/
theorem arrives_as_published (s : Config.Publishing) (ordered : m.headers.Ordered)
    (open_ : p.hasChannel k = true) :
    (Broker.publish s k m p).peer.worksOn k =
        p.worksOn k ++ [.publish (Broker.publication s m)] ∧
      ∀ (t : Config.Consuming) (n : ℕ) (moment : Broker.Moment) (q : Broker.Peer)
        (redelivered : Bool) (tag : Option ℕ), q.hasChannel n = true →
        (q.script.next .get).1 =
          .message ((Broker.publication s m).delivery redelivered) tag →
        ∃ i, (Broker.fetch t n moment q).result = some (.ok (some i)) ∧
          Arrived s m redelivered i := by
  refine ⟨(Broker.publish_spec s m open_).1, ?_⟩
  intro t n moment q redelivered tag channel hands
  refine ⟨_, ?_, arrived_inbound s ordered redelivered moment⟩
  rw [(Broker.fetch_spec t moment channel).2, hands, Broker.handed]

/-- A message with an empty content type, and with the separators inside of its headers. -/
def punctuated : Outbound where
  payload := "zwölf = 12, ∞"
  contentType := some ""
  headers := Keyed.ofList [("π", "3,14"), ("a=b", "")]

/-- A broker with one open channel. -/
def broker (script : Broker.Script) : Broker.Peer where
  route := .through
  script := script
  sessions := [(1, { connected := true, channelOpen := true })]

theorem arrives_as_published_punctuated :
    let s : Config.Publishing := ⟨"orders", "new"⟩
    let delivery := (Broker.publication s punctuated).delivery true
    ∃ i, (Broker.fetch ⟨"orders", false, 1⟩ 1 ⟨0, ⟨0, 0, 0⟩⟩
        (broker [(.get, .message delivery none)])).result = some (.ok (some i)) ∧
      Arrived s punctuated true i :=
  (arrives_as_published (k := 1) (p := broker []) ⟨"orders", "new"⟩ (Keyed.ordered_ofList _)
    rfl).2 _ 1 _ _ true none rfl rfl

end Transit

end BrokerPool.Message
