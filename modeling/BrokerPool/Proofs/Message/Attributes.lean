import BrokerPool.Message.Properties
import BrokerPool.Proofs.Keyed
import Mathlib.Data.Option.Basic

/-!
# What the attributes of a delivery tell

Whoever takes a message sees its delivery as attributes: three for the delivery itself, and one for
every property that is set. Each of them stands under a key of its own, and there it is read back.
So the attributes tell everything about a delivery but its body and the structure of its headers, of
which they have the text.

Results:
* `lookup_attributes`: a fact is found under its key, and nothing is if there is no such fact.
* `facts_eq_of_attributes_eq`: the facts of a delivery are told by its attributes.
* `length_attributes`: how many attributes there are.
* `attributes_tell`: what deliveries with the same attributes have in common.
* `attributes_tell_tagged`: two deliveries that differ in their headers alone.
-/

namespace BrokerPool.Message

/-! ## Facts under keys -/

section Present

variable {α : Type} {facts : List (String × Option α)} {key : String → String}

/-- The facts that there are, under their keys. -/
def present (key : String → String) (facts : List (String × Option α)) : List (String × α) :=
  facts.filterMap fun (name, fact) => fact.map (key name, ·)

theorem present_keys (facts : List (String × Option α)) :
    (present key facts).map (·.1) = ((facts.filter (·.2.isSome)).map (·.1)).map key := by
  induction facts with
  | nil => rfl
  | cons e facts ih =>
    obtain ⟨name, _ | fact⟩ := e
    · simpa [present] using ih
    · simpa [present] using ih

theorem nodup_present (inj : Function.Injective key) (names : (facts.map (·.1)).Nodup) :
    ((present key facts).map (·.1)).Nodup := by
  have kept : ((facts.filter (·.2.isSome)).map (·.1)).Nodup :=
    names.sublist (List.filter_sublist.map _)
  rw [present_keys]
  exact kept.map inj

theorem length_present (facts : List (String × Option α)) :
    (present key facts).length = (facts.map (·.2.isSome)).count true := by
  rw [← List.length_map (·.1), present_keys, List.length_map, List.length_map,
    ← List.countP_eq_length_filter, List.count, List.countP_map]
  simp [Function.comp_def]

/-- A fact is read back under its key. -/
theorem lookup_present (inj : Function.Injective key) (names : (facts.map (·.1)).Nodup)
    {name : String} {fact : Option α} (h : (name, fact) ∈ facts) :
    (present key facts).lookup (key name) = fact := by
  have once := List.nodup_iff_count_le_one.mp (nodup_present inj names) (key name)
  refine Option.ext fun v => ?_
  rw [Keyed.lookup_eq_some_of_count once]
  constructor
  · intro found
    obtain ⟨e, he, shown⟩ := List.mem_filterMap.mp found
    obtain ⟨w, there, same⟩ := Option.map_eq_some_iff.mp shown
    obtain ⟨sameKey, rfl⟩ := Prod.mk.inj same
    have same : e = (name, fact) := List.inj_on_of_nodup_map names he h (inj sameKey)
    rw [← there, same]
  · rintro rfl
    exact List.mem_filterMap.mpr ⟨_, h, rfl⟩

end Present

/-! ## Attributes -/

/-- How many properties are set. -/
def Properties.count (p : Properties) : ℕ :=
  [p.appId.isSome, p.contentEncoding.isSome, p.contentType.isSome, p.correlationId.isSome,
    p.replyTo.isSome, p.expiration.isSome, p.messageId.isSome, p.kind.isSome, p.userId.isSome,
    p.clusterId.isSome, p.deliveryMode.isSome, p.priority.isSome, p.timestamp.isSome,
    p.headers.isSome].count true

namespace Delivery

/-- The names of the facts about a delivery. -/
def factNames : List String := ["routingKey", "exchange", "redelivered", "appId",
  "contentEncoding", "contentType", "correlationId", "replyTo", "expiration", "messageId", "type",
  "userId", "clusterId", "deliveryMode", "priority", "timestamp", "headers"]

variable {d d' : Delivery}

theorem facts_names (d : Delivery) : d.facts.map (·.1) = factNames := rfl

theorem nodup_facts (d : Delivery) : (d.facts.map (·.1)).Nodup := by
  rw [facts_names]
  decide

theorem attributeKey_injective : Function.Injective attributeKey := fun _ _ h =>
  String.append_right_inj _ |>.mp h

/-- The attributes are the facts under their keys, in the order of the keys. -/
theorem attributes_perm (d : Delivery) : d.attributes.Perm (present attributeKey d.facts) :=
  Keyed.ofList_perm (nodup_present attributeKey_injective d.nodup_facts)

/-- A fact is found under its key, and nothing is if there is no such fact. -/
theorem lookup_attributes {name : String} {fact : Option String} (h : (name, fact) ∈ d.facts) :
    d.attributes.lookup (attributeKey name) = fact := by
  have keys : (d.attributes.map (·.1)).Nodup :=
    (d.attributes_perm.map _).nodup_iff.mpr (nodup_present attributeKey_injective d.nodup_facts)
  rw [Keyed.lookup_perm d.attributes_perm keys]
  exact lookup_present attributeKey_injective d.nodup_facts h

/-- All facts are read back from the attributes. -/
theorem facts_eq (d : Delivery) :
    d.facts = factNames.map fun name => (name, d.attributes.lookup (attributeKey name)) := by
  have each : ∀ e ∈ d.facts, e = (e.1, d.attributes.lookup (attributeKey e.1)) :=
    fun e he => congrArg (Prod.mk e.1) (lookup_attributes he).symm
  rw [← d.facts_names, List.map_map]
  exact (List.map_id _).symm.trans (List.map_congr_left each)

/-- The facts of a delivery are told by its attributes. -/
theorem facts_eq_of_attributes_eq (h : d.attributes = d'.attributes) : d.facts = d'.facts := by
  rw [d.facts_eq, d'.facts_eq, h]

/-- There are three attributes, and one more for every property that is set. -/
theorem length_attributes (d : Delivery) : d.attributes.length = 3 + d.properties.count := by
  rw [d.attributes_perm.length_eq, length_present]
  simp only [facts, List.map_cons, List.map_nil, Option.isSome_some, Option.isSome_map,
    List.count_cons_self, Properties.count]
  omega

theorem exists_attributeKey {e : String × String} (h : e ∈ d.attributes) :
    ∃ name, e.1 = attributeKey name := by
  have there : e.1 ∈ (present attributeKey d.facts).map (·.1) :=
    List.mem_map.mpr ⟨e, d.attributes_perm.mem_iff.mp h, rfl⟩
  rw [present_keys] at there
  obtain ⟨name, -, key⟩ := List.mem_map.mp there
  exact ⟨name, key.symm⟩

/-! ## What is told -/

/-- What deliveries with the same attributes have in common. That a property is not set is told
    apart from every value of it, also from the empty text and from zero. -/
structure ToldAlike (d d' : Delivery) : Prop where
  routingKey : d.routingKey = d'.routingKey
  exchange : d.exchange = d'.exchange
  redelivered : d.redelivered = d'.redelivered
  properties : { d.properties with headers := none } = { d'.properties with headers := none }
  headers : d.properties.headers.map FieldTable.text = d'.properties.headers.map FieldTable.text

/-- A number that may be missing is told by its digits. -/
theorem digits_injective {α : Type} (toNat : α → ℕ) (inj : Function.Injective toNat) :
    Function.Injective (Option.map fun n => Number.digitText (toNat n)) :=
  Option.map_injective (Number.digitText_injective.comp inj)

theorem facts_eq_iff : d.facts = d'.facts ↔ d.ToldAlike d' := by
  have bytes := digits_injective UInt8.toNat fun _ _ => UInt8.toNat_inj.mp
  have words := digits_injective UInt64.toNat fun _ _ => UInt64.toNat_inj.mp
  constructor
  · intro h
    simp only [facts, List.cons.injEq, Prod.mk.injEq, Option.some.injEq, true_and, and_true,
      Text.ofBool_injective.eq_iff, bytes.eq_iff, words.eq_iff] at h
    obtain ⟨routingKey, exchange, redelivered, appId, contentEncoding, contentType, correlationId,
      replyTo, expiration, messageId, kind, userId, clusterId, deliveryMode, priority, timestamp,
      headers⟩ := h
    refine ⟨routingKey, exchange, redelivered, ?_, headers⟩
    simp only [appId, contentEncoding, contentType, correlationId, replyTo, expiration, messageId,
      kind, userId, clusterId, deliveryMode, priority, timestamp]
  · rintro ⟨routingKey, exchange, redelivered, properties, headers⟩
    simp only [Properties.mk.injEq] at properties
    simp only [facts, routingKey, exchange, redelivered, properties, headers]

end Delivery

/-- Deliveries have the same attributes exactly if they are alike in everything but their bodies and
    the structure of their headers. The attributes are three for the delivery itself and one for
    every property that is set, and each has a key of its own. -/
theorem attributes_tell :
    (∀ d d' : Delivery, d.attributes = d'.attributes ↔ d.ToldAlike d') ∧
    (∀ d d' : Delivery, d.attributes = d'.attributes →
      d.properties.headers.isSome = d'.properties.headers.isSome) ∧
    ∀ d : Delivery, d.attributes.length = 3 + d.properties.count ∧
      (∀ e ∈ d.attributes, ∃ name, e.1 = "amqp$" ++ name) ∧ d.attributes.Ordered := by
  have alike (d d' : Delivery) : d.attributes = d'.attributes ↔ d.ToldAlike d' := by
    rw [← Delivery.facts_eq_iff]
    refine ⟨Delivery.facts_eq_of_attributes_eq, fun same => ?_⟩
    rw [Delivery.attributes, Delivery.attributes, same]
  refine ⟨alike, fun d d' h => ?_, fun d => ?_⟩
  · have texts := congrArg Option.isSome ((alike d d').mp h).headers
    simpa only [Option.isSome_map] using texts
  · exact ⟨d.length_attributes, fun e => Delivery.exists_attributeKey, Keyed.ordered_ofList _⟩

/-- A delivery with an empty text and a zero among its properties. -/
def tagged (headers : FieldTable) : Delivery where
  body := []
  properties := { appId := some "", priority := some 0, headers := some headers }
  routingKey := "new"
  exchange := "orders"
  redelivered := true

theorem attributes_tell_tagged :
    let one := tagged [("a", .shortText "1,b=2")]
    let two := tagged [("a", .integer .int32 1), ("b", .longText [50])]
    one.attributes = two.attributes ∧ one.ToldAlike two ∧ two.attributes.length = 6 := by
  have same : (tagged [("a", .shortText "1,b=2")]).attributes =
      (tagged [("a", .integer .int32 1), ("b", .longText [50])]).attributes := by decide +kernel
  exact ⟨same, (attributes_tell.1 _ _).mp same, (attributes_tell.2.2 _).1⟩

end BrokerPool.Message
