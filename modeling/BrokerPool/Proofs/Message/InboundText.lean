import BrokerPool.Message.Inbound
import BrokerPool.Proofs.Json.Decoders
import BrokerPool.Proofs.Message.Instant
import BrokerPool.Proofs.Message.Uuid

/-!
# Messages taken from a queue, as texts

The text of a message is read as that message. An identifier and a point in time may be written in
many ways; when a message is read and written again, one way is left of them, and the message stays
what it is.

Results:
* `parse_ok_iff`: a text is accepted exactly if it tells of a message.
* `parse_print`: the text of a message is accepted as that message.
* `told_by_canonical_text`: both, and what the spellings mean that are accepted.
-/

namespace BrokerPool.Message.Inbound

open Json

/-- The message of a text. -/
def parse (s : String) : Except Json.Error Inbound := (Document.ofString s).decode (decode .text)

/-- The text of a message. -/
def print (m : Inbound) : String := m.toJson.print

/-! ## Reading -/

/-- The names under which something is told about a message, in the order of an array. -/
def names : List String := ["id", "payload", "attributes", "received_at"]

/-- What is told about a message. -/
structure Told (look : String → Option Tree) (m : Inbound) : Prop where
  id : ∃ s, look "id" = some (Value.string s).toTree ∧ Uuid.parse s = .ok m.id
  payload : look "payload" = some (Value.string m.payload).toTree
  attributes : ∃ pairs, look "attributes" = some (Value.texts pairs).toTree ∧
    m.attributes = Keyed.ofList pairs
  receivedAt : ∃ s, look "received_at" = some (Value.string s).toTree ∧
    Instant.parse s = .ok m.receivedAt

theorem uuid_ok_iff {t : Tree} {u : Uuid} :
    uuid t = .ok u ↔ ∃ s, t = (Value.string s).toTree ∧ Uuid.parse s = .ok u := by
  refine textAs_bind_ok_iff.trans (exists_congr fun s => and_congr_right fun _ => ?_)
  cases Uuid.parse s <;> simp [pure, Except.pure]

theorem instant_ok_iff {t : Tree} {i : Instant} :
    instant t = .ok i ↔ ∃ s, t = (Value.string s).toTree ∧ Instant.parse s = .ok i := by
  refine textAs_bind_ok_iff.trans (exists_congr fun s => and_congr_right fun _ => ?_)
  cases Instant.parse s <;> simp [pure, Except.pure]

theorem table : Table decodeFields where
  attentive := by
    have uuids : Attentive uuid := fun _ _ h => by
      obtain ⟨s, rfl, -⟩ := uuid_ok_iff.mp h
      exact Value.toTree_sound _
    have instants : Attentive instant := fun _ _ h => by
      obtain ⟨s, rfl, -⟩ := instant_ok_iff.mp h
      exact Value.toTree_sound _
    simp only [decodeFields, List.forall_mem_cons]
    refine ⟨fun _ => Field.sets_needed.attentive uuids,
      fun _ => Field.sets_needed.attentive attentive_textAs,
      fun _ => Field.sets_needed.attentive attentive_mapOf_text,
      fun _ => Field.sets_needed.attentive instants, ?_⟩
    exact List.forall_mem_nil _
  names := by decide
  commute := by
    simp only [decodeFields, List.pairwise_cons, List.forall_mem_cons, List.not_mem_nil,
      false_imp_iff, implies_true, List.Pairwise.nil, and_true]
    refine ⟨⟨?_, ?_, ?_⟩, ⟨?_, ?_⟩, ?_⟩
    iterate 6 exact Field.sets_needed.commutes Field.sets_needed fun _ _ _ => rfl

/-- A message is put together from what is told about it. -/
theorem assemble_iff {look : String → Option Tree} {m : Inbound} :
    assemble look decodeFields ⟨⟨0⟩, "", [], ⟨0, 0, 0⟩⟩ = some m ↔ Told look m := by
  constructor
  · intro h
    obtain ⟨_, id, hi, ok, h⟩ := assemble_needed_iff.mp h
    obtain ⟨s, rfl, hs⟩ := uuid_ok_iff.mp ok
    obtain ⟨_, payload, hp, ok, h⟩ := assemble_needed_iff.mp h
    obtain rfl := text_ok_iff.mp ok
    obtain ⟨_, attributes, ha, ok, h⟩ := assemble_needed_iff.mp h
    obtain ⟨pairs, rfl, hl⟩ := mapOf_text_ok_iff.mp ok
    obtain ⟨_, receivedAt, hr, ok, h⟩ := assemble_needed_iff.mp h
    obtain ⟨s', rfl, hs'⟩ := instant_ok_iff.mp ok
    obtain rfl := Option.some.inj h
    exact ⟨⟨s, hi, hs⟩, hp, ⟨pairs, ha, hl⟩, ⟨s', hr, hs'⟩⟩
  · rintro ⟨⟨s, hi, hs⟩, hp, ⟨pairs, ha, hl⟩, ⟨s', hr, hs'⟩⟩
    refine assemble_needed_iff.mpr ⟨_, _, hi, uuid_ok_iff.mpr ⟨s, rfl, hs⟩, ?_⟩
    refine assemble_needed_iff.mpr ⟨_, _, hp, rfl, ?_⟩
    refine assemble_needed_iff.mpr ⟨_, _, ha, mapOf_text_ok_iff.mpr ⟨pairs, rfl, hl⟩, ?_⟩
    exact assemble_needed_iff.mpr ⟨_, _, hr, instant_ok_iff.mpr ⟨s', rfl, hs'⟩, rfl⟩

/-- A text is accepted exactly if it tells of a message. -/
theorem parse_ok_iff {s : String} {m : Inbound} :
    parse s = .ok m ↔ ∃ t look, JsonText s t ∧ Gives names t look ∧ Told look m := by
  simp only [← assemble_iff]
  exact decode_record_ok_iff table

/-! ## Writing -/

/-- A message that can be: its attributes are a map, in the order of their keys, and it was taken at
    a point in time. -/
structure Valid (m : Inbound) : Prop where
  attributes : m.attributes.Ordered
  receivedAt : m.receivedAt.Valid

theorem valid_of_parse {s : String} {m : Inbound} (h : parse s = .ok m) : m.Valid := by
  obtain ⟨_, _, _, _, told⟩ := parse_ok_iff.mp h
  obtain ⟨pairs, -, attributes⟩ := told.attributes
  obtain ⟨_, -, receivedAt⟩ := told.receivedAt
  exact ⟨attributes ▸ Keyed.ordered_ofList pairs, Instant.valid_of_parse receivedAt⟩

/-- The members of a message's text. -/
def members (m : Inbound) : List (String × Value) := [
  ("id", .string m.id.text),
  ("payload", .string m.payload),
  ("attributes", .texts m.attributes),
  ("received_at", .string m.receivedAt.text)]

section Valid

variable {m : Inbound} (valid : m.Valid)

theorem members_keys (m : Inbound) : (m.members.map (·.1)).Nodup := by
  have distinct : names.Nodup := by decide
  exact distinct

theorem members_prints (m : Inbound) : ∀ e ∈ m.members, e.2.Prints := by
  simp only [members, List.forall_mem_cons]
  refine ⟨prints_string _, prints_string _, prints_texts _, prints_string _, ?_⟩
  exact List.forall_mem_nil _

include valid

theorem Valid.toJson_eq : m.toJson = .ofMembers m.members := by
  rw [toJson, members, ofMembers_texts valid.attributes]

/-- What the text of a message tells. -/
theorem Valid.told_members : Told (fun n => (m.members.lookup n).map Value.toTree) m where
  id := ⟨_, rfl, Uuid.parse_text m.id⟩
  payload := rfl
  attributes := ⟨m.attributes, rfl, valid.attributes.ofList_eq.symm⟩
  receivedAt := ⟨_, rfl, valid.receivedAt.parse_text⟩

/-- An object with the members of a message is accepted as that message. -/
theorem Valid.parse_object {ms : List (String × Value)} (perm : ms.Perm m.members) :
    parse (Value.object ms).print = .ok m := by
  have prints : (Value.object ms).Prints :=
    prints_object fun e he => m.members_prints e (perm.mem_iff.mp he)
  exact parse_ok_iff.mpr ⟨_, _, prints.jsonText, gives_object perm m.members_keys names,
    valid.told_members⟩

/-- The text of a message is accepted as that message. -/
theorem Valid.parse_print : parse m.print = .ok m := by
  rw [print, valid.toJson_eq]
  exact valid.parse_object (Keyed.ofList_perm m.members_keys)

end Valid

/-- What is left of a text when it is read and written again. -/
def canonical (s : String) : Except Json.Error String := (parse s).map print

/-- A message is told by its text, whichever order its members have there. Every text of a message
    has a canonical one that tells the same, and that stays as it is. -/
theorem told_by_canonical_text :
    (∀ m : Inbound, m.Valid → parse m.print = .ok m ∧
      ∀ ms, ms.Perm m.members → parse (Value.object ms).print = .ok m) ∧
    (∀ s m, parse s = .ok m → canonical s = .ok m.print ∧ parse m.print = .ok m ∧
      canonical m.print = .ok m.print) ∧
    -- What a text tells, and what the spellings of identifiers and times mean.
    (∀ s m, parse s = .ok m ↔ ∃ t look, JsonText s t ∧ Gives names t look ∧ Told look m) ∧
    (∀ s u, Uuid.parse s = .ok u ↔ ∃ ds n, Uuid.Spelling ds s.toList ∧ ds.length = 32 ∧
      Number.digits? 16 ds = some n ∧ u = ⟨BitVec.ofNat 128 n⟩) ∧
    (∀ c : Instant.Clock, c.Fits → ∀ t, Instant.parse (String.ofList c.chars) = .ok t ↔
      c.date.isValid = true ∧ Instant.InRange c.date.year ∧ c.zone.ahead.natAbs < 1440 ∧
      Instant.InRange (Date.ofDays t.day).year ∧ t.second < 86400 ∧ t.nanosecond = c.nanosecond ∧
      t.seconds = c.date.toDays * 86400 + c.secondOfDay - c.zone.ahead * 60) := by
  have again {s : String} {m : Inbound} (h : parse s = .ok m) : canonical s = .ok m.print := by
    rw [canonical, h]
    rfl
  refine ⟨fun m valid => ⟨valid.parse_print, fun ms => valid.parse_object⟩, fun s m h => ?_,
    fun s m => parse_ok_iff, fun s u => Uuid.parse_ok_iff, fun c fits t => ?_⟩
  · have back := (valid_of_parse h).parse_print
    exact ⟨again h, back, again back⟩
  · rw [Instant.parse_clock fits]
    exact Instant.ofClock_ok_iff

/-- A message that was taken in a leap second. -/
def late : Inbound where
  id := ⟨0xfedcba98765432100123456789abcdef⟩
  payload := "\"tick\"\n"
  attributes := Keyed.ofList [("amqp$routingKey", "π"), ("amqp$exchange", "")]
  receivedAt := ⟨17166, 86399, 1500000000⟩

theorem valid_late : late.Valid where
  attributes := Keyed.ordered_ofList _
  receivedAt := ⟨by decide, .inr ⟨by decide, by decide⟩, by decide, by decide⟩

theorem told_by_canonical_text_late :
    late.Valid ∧ parse late.print = .ok late ∧ canonical late.print = .ok late.print := by
  have back := (told_by_canonical_text.1 late valid_late).1
  exact ⟨valid_late, back, (told_by_canonical_text.2.1 late.print late back).1⟩

end BrokerPool.Message.Inbound
