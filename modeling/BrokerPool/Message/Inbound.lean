import BrokerPool.Json.Decode
import BrokerPool.Message.Instant
import BrokerPool.Message.Properties
import BrokerPool.Message.Uuid

/-!
# Messages taken from a queue

A message gets an identifier and a time when it is taken. Its body becomes a text, in which every
part that is no text is replaced, and all else that the broker says about it becomes attributes.
-/

namespace BrokerPool.Message

/-- A message taken from a queue (`InboundMessage`). -/
structure Inbound where
  id : Uuid
  payload : String
  attributes : Keyed String
  receivedAt : Instant
deriving DecidableEq, Repr

namespace Inbound

/-- The message of a body, taken at a time and named by random bits (`new` of `InboundMessage`). -/
def ofBody (random : BitVec 128) (now : Instant) (body : List UInt8) (attributes : Keyed String) :
    Inbound :=
  ⟨.ofRandom random, Text.Utf8.decodeLossy body, attributes, now⟩

/-! ## JSON -/

open Json

/-- An identifier. -/
def uuid : Decoder Uuid := fun t => do
  let s ← textAs "a UUID string" t
  match Uuid.parse s with
  | .ok u => return u
  | .error e => .error (.mismatched ("UUID parsing failed: " ++ e.message))

/-- A point in time. -/
def instant : Decoder Instant := fun t => do
  let s ← textAs "an RFC 3339 formatted date and time string" t
  match Instant.parse s with
  | .ok i => return i
  | .error e => .error (.mismatched e.message)

def decodeFields : List (Json.Field Inbound) := [
  .needed "id" uuid fun x m => { m with id := x },
  .needed "payload" text fun x m => { m with payload := x },
  .needed "attributes" (mapOf text) fun x m => { m with attributes := x },
  .needed "received_at" instant fun x m => { m with receivedAt := x }]

def decode (medium : Medium) : Decoder Inbound :=
  record medium "InboundMessage" decodeFields ⟨⟨0⟩, "", [], ⟨0, 0, 0⟩⟩

def toJson (m : Inbound) : Value := .ofMembers [
  ("id", .string m.id.text),
  ("payload", .string m.payload),
  ("attributes", .ofMembers (m.attributes.map fun (k, v) => (k, .string v))),
  ("received_at", .string m.receivedAt.text)]

end Inbound

end BrokerPool.Message
