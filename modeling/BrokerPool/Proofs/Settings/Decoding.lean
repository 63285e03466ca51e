import BrokerPool.Proofs.Settings.Contents
import BrokerPool.Settings.Groups

/-!
# Every setting out of a tree

Which settings there are, the keys that lead to each of them, and what a tree gives for it. A tree
in which only tables stand where groups belong gives every setting on its own.

Results:
* `ofSettings_iff`: the settings that a tree gives.
* `ofSettings_loads`: a tree gives settings if all that stands at their keys can be converted.
-/

namespace BrokerPool.Settings

open Config

/-! ## The settings -/

inductive Setting
  | host
  | port
  | virtualHost
  | username
  | password
  | authorityPath
  | identityPath
  | identityPassword
  | byCertificate
  | clientAuth
  | connectionName
  | exchange
  | routingKey
  | queue
  | autoAck
  | prefetch
  | httpPort
deriving DecidableEq, Repr

namespace Setting

def all : List Setting := [host, port, virtualHost, username, password, authorityPath, identityPath,
  identityPassword, byCertificate, clientAuth, connectionName, exchange, routingKey, queue, autoAck,
  prefetch, httpPort]

theorem mem_all (x : Setting) : x ∈ all := by
  cases x <;> decide

/-- The keys that lead to a setting. -/
def keys : Setting → List String
  | host => ["amqp", "host"]
  | port => ["amqp", "port"]
  | virtualHost => ["amqp", "virtual_host"]
  | username => ["amqp", "username"]
  | password => ["amqp", "password"]
  | authorityPath => ["amqp", "tls", "ca_cert_path"]
  | identityPath => ["amqp", "tls", "identity_path"]
  | identityPassword => ["amqp", "tls", "identity_password"]
  | byCertificate => ["amqp", "use_cert_authentication"]
  | clientAuth => ["amqp", "client_auth"]
  | connectionName => ["amqp", "connection_name"]
  | exchange => ["publish", "exchange"]
  | routingKey => ["publish", "routing_key"]
  | queue => ["consume", "queue"]
  | autoAck => ["consume", "auto_ack"]
  | prefetch => ["consume", "prefetch_count"]
  | httpPort => ["http_port"]

/-- The key of a setting as a path. -/
def key (x : Setting) : String := ".".intercalate x.keys

/-- The values of a setting. -/
def Kind : Setting → Type
  | host | connectionName | exchange | routingKey | queue => String
  | virtualHost | username | password | authorityPath | identityPath | identityPassword =>
    Option String
  | port | prefetch | httpPort => UInt16
  | byCertificate | autoAck => Bool
  | clientAuth => ClientAuth

def get : (x : Setting) → Service → x.Kind
  | host, s => s.broker.host
  | port, s => s.broker.port
  | virtualHost, s => s.broker.virtualHost
  | username, s => s.broker.username
  | password, s => s.broker.password
  | authorityPath, s => s.broker.tls.bind (·.authorityPath)
  | identityPath, s => s.broker.tls.bind (·.identityPath)
  | identityPassword, s => s.broker.tls.bind (·.identityPassword)
  | byCertificate, s => s.broker.byCertificate
  | clientAuth, s => s.broker.clientAuth
  | connectionName, s => s.broker.connectionName
  | exchange, s => s.publishing.exchange
  | routingKey, s => s.publishing.routingKey
  | queue, s => s.consuming.queue
  | autoAck, s => s.consuming.autoAck
  | prefetch, s => s.consuming.prefetch
  | httpPort, s => s.httpPort

/-- The conversion to the values of a setting. -/
def convert : (x : Setting) → Converter x.Kind
  | host | connectionName | exchange | routingKey | queue => text
  | virtualHost | username | password | authorityPath | identityPath | identityPassword =>
    optional text
  | port | prefetch | httpPort => word16
  | byCertificate | autoAck => boolean
  | clientAuth => oneOf "ClientAuth" ClientAuth.choices

/-- Settings with given values, with or without the optional group. -/
def build (values : (x : Setting) → x.Kind) (tls : Bool) : Service where
  broker := {
    host := values host
    port := values port
    virtualHost := values virtualHost
    username := values username
    password := values password
    tls := if tls then some ⟨values authorityPath, values identityPath, values identityPassword⟩
      else none
    byCertificate := values byCertificate
    clientAuth := values clientAuth
    connectionName := values connectionName }
  publishing := ⟨values exchange, values routingKey⟩
  consuming := ⟨values queue, values autoAck, values prefetch⟩
  httpPort := values httpPort

/-- The keys of the optional group. -/
def tlsKeys : List String := ["amqp", "tls"]

/-- The setting is one of the optional group. -/
def InTls (x : Setting) : Prop := tlsKeys <+: x.keys

instance : DecidablePred InTls := fun x => inferInstanceAs (Decidable (tlsKeys <+: x.keys))

/-- The keys that lead to groups of settings. -/
def groups : List (List String) := [[], ["amqp"], tlsKeys, ["publish"], ["consume"]]

theorem path_key (x : Setting) : path x.key = steps x.keys := by
  cases x <;> decide +kernel

theorem lowered_keys (x : Setting) : Lowered x.keys := by
  cases x <;> decide +kernel

theorem lowered_groups : ∀ g ∈ groups, Lowered g := by
  decide +kernel

theorem apart_keys {x y : Setting} (h : x ≠ y) : Apart (steps x.keys) (steps y.keys) := by
  have each : ∀ x ∈ all, ∀ y ∈ all, x ≠ y → Apart (steps x.keys) (steps y.keys) := by
    decide +kernel
  exact each x x.mem_all y y.mem_all h

/-- A group contains a setting, or parts from it. -/
theorem apart_or_contains (x : Setting) {g : List String} (hg : g ∈ groups) :
    Apart (steps x.keys) (steps g) ∨ g <+: x.keys ∧ g ≠ x.keys := by
  have each : ∀ x ∈ all, ∀ g ∈ groups,
      Apart (steps x.keys) (steps g) ∨ g <+: x.keys ∧ g ≠ x.keys := by
    decide +kernel
  exact each x x.mem_all g hg

end Setting

/-! ## Fields one by one -/

section Given

variable {σ α : Type} {convert : Converter α} {entries : List (String × Tree)} {name : String}
  {set : α → σ → σ} {get : σ → α} {fields : List (Field σ)} {start s : σ}

/-- What a tree gives for a setting: its own value if the tree is there, the default otherwise. -/
def Given (convert : Converter α) (default : α) : Option Tree → α → Prop
  | none, a => a = default
  | some t, a => convert t = .ok a

theorem visitTable_of (name : String) (get : σ → α) (h : ∀ s, set (get s) s = s) :
    visitTable entries (.of name convert set :: fields) start = .ok s ↔
      ∃ a, Given convert (get start) (entries.lookup name) a ∧
        visitTable entries fields (set a start) = .ok s := by
  rw [visitTable_cons_ok]
  simp only [Field.visit_ok, Field.of_name, Field.of_ok]
  cases entries.lookup name with
  | none => simp [Given, h]
  | some t => simp [Given]

end Given

theorem visitTable_nil {σ : Type} {entries : List (String × Tree)} {start s : σ} :
    visitTable entries [] start = .ok s ↔ start = s := by
  rw [visitTable, Except.ok.injEq]

/-! ## Groups -/

variable {entries : List (String × Tree)}

theorem tls_iff {s : Tls} : visitTable entries Tls.settings {} = .ok s ↔
    Given (optional text) none (entries.lookup "ca_cert_path") s.authorityPath ∧
    Given (optional text) none (entries.lookup "identity_path") s.identityPath ∧
    Given (optional text) none (entries.lookup "identity_password") s.identityPassword := by
  simp (disch := exact fun _ => rfl) only [Tls.settings,
    visitTable_of "ca_cert_path" Tls.authorityPath, visitTable_of "identity_path" Tls.identityPath,
    visitTable_of "identity_password" Tls.identityPassword, visitTable_nil]
  constructor
  · rintro ⟨a, ha, b, hb, c, hc, rfl⟩
    exact ⟨ha, hb, hc⟩
  · rintro ⟨ha, hb, hc⟩
    exact ⟨_, ha, _, hb, _, hc, rfl⟩

theorem broker_iff {s : Broker} : visitTable entries Broker.settings {} = .ok s ↔
    Given text "localhost" (entries.lookup "host") s.host ∧
    Given word16 5672 (entries.lookup "port") s.port ∧
    Given (optional text) none (entries.lookup "virtual_host") s.virtualHost ∧
    Given (optional text) none (entries.lookup "username") s.username ∧
    Given (optional text) none (entries.lookup "password") s.password ∧
    Given (optional (record "TlsContext" Tls.settings {})) none (entries.lookup "tls") s.tls ∧
    Given boolean false (entries.lookup "use_cert_authentication") s.byCertificate ∧
    Given (oneOf "ClientAuth" ClientAuth.choices) .none (entries.lookup "client_auth")
      s.clientAuth ∧
    Given text "amqp-lifecycle" (entries.lookup "connection_name") s.connectionName := by
  simp (disch := exact fun _ => rfl) only [Broker.settings, visitTable_of "host" Broker.host,
    visitTable_of "port" Broker.port,
    visitTable_of "virtual_host" Broker.virtualHost, visitTable_of "username" Broker.username,
    visitTable_of "password" Broker.password, visitTable_of "tls" Broker.tls,
    visitTable_of "use_cert_authentication" Broker.byCertificate,
    visitTable_of "client_auth" Broker.clientAuth,
    visitTable_of "connection_name" Broker.connectionName, visitTable_nil]
  constructor
  · rintro ⟨a, ha, b, hb, c, hc, d, hd, e, he, f, hf, g, hg, h, hh, i, hi, rfl⟩
    exact ⟨ha, hb, hc, hd, he, hf, hg, hh, hi⟩
  · rintro ⟨ha, hb, hc, hd, he, hf, hg, hh, hi⟩
    exact ⟨_, ha, _, hb, _, hc, _, hd, _, he, _, hf, _, hg, _, hh, _, hi, rfl⟩

theorem publishing_iff {s : Publishing} : visitTable entries Publishing.settings {} = .ok s ↔
    Given text "" (entries.lookup "exchange") s.exchange ∧
    Given text "" (entries.lookup "routing_key") s.routingKey := by
  simp (disch := exact fun _ => rfl) only [Publishing.settings,
    visitTable_of "exchange" Publishing.exchange,
    visitTable_of "routing_key" Publishing.routingKey, visitTable_nil]
  constructor
  · rintro ⟨a, ha, b, hb, rfl⟩
    exact ⟨ha, hb⟩
  · rintro ⟨ha, hb⟩
    exact ⟨_, ha, _, hb, rfl⟩

theorem consuming_iff {s : Consuming} : visitTable entries Consuming.settings {} = .ok s ↔
    Given text "" (entries.lookup "queue") s.queue ∧
    Given boolean false (entries.lookup "auto_ack") s.autoAck ∧
    Given word16 10 (entries.lookup "prefetch_count") s.prefetch := by
  simp (disch := exact fun _ => rfl) only [Consuming.settings,
    visitTable_of "queue" Consuming.queue, visitTable_of "auto_ack" Consuming.autoAck,
    visitTable_of "prefetch_count" Consuming.prefetch, visitTable_nil]
  constructor
  · rintro ⟨a, ha, b, hb, c, hc, rfl⟩
    exact ⟨ha, hb, hc⟩
  · rintro ⟨ha, hb, hc⟩
    exact ⟨_, ha, _, hb, _, hc, rfl⟩

theorem service_iff {s : Service} : visitTable entries Service.settings {} = .ok s ↔
    Given (record "AmqpConfig" Broker.settings {}) {} (entries.lookup "amqp") s.broker ∧
    Given (record "PublisherSettings" Publishing.settings {}) {} (entries.lookup "publish")
      s.publishing ∧
    Given (record "ConsumerSettings" Consuming.settings {}) {} (entries.lookup "consume")
      s.consuming ∧
    Given word16 3018 (entries.lookup "http_port") s.httpPort := by
  simp (disch := exact fun _ => rfl) only [Service.settings, visitTable_of "amqp" Service.broker,
    visitTable_of "publish" Service.publishing, visitTable_of "consume" Service.consuming,
    visitTable_of "http_port" Service.httpPort, visitTable_nil]
  constructor
  · rintro ⟨a, ha, b, hb, c, hc, d, hd, rfl⟩
    exact ⟨ha, hb, hc, hd⟩
  · rintro ⟨ha, hb, hc, hd⟩
    exact ⟨_, ha, _, hb, _, hc, _, hd, rfl⟩

/-! ## Groups inside of a tree -/

/-- Only tables stand where groups of settings belong. -/
def Tree.Grouped (t : Tree) : Prop :=
  ∀ g ∈ Setting.groups, ∀ u, t.at? g = some u → ∃ entries origin, u = .table entries origin

/-- The entries of a group. -/
def Tree.entriesAt (t : Tree) (keys : List String) : List (String × Tree) :=
  ((t.at? keys).map (·.tableEntries.1)).getD []

theorem Tree.lookup_entriesAt (t : Tree) (keys : List String) (k : String) :
    (t.entriesAt keys).lookup k = t.at? (keys ++ [k]) := by
  rw [entriesAt, at?_append]
  cases t.at? keys with
  | none => rfl
  | some u => exact (Option.bind_fun_some _).symm

theorem visitTable_empty {σ : Type} (fields : List (Field σ)) (start : σ) :
    visitTable [] fields start = .ok start := by
  induction fields with
  | nil => rfl
  | cons f fields ih => simpa [visitTable] using ih

section Grouped

variable {t : Tree} {keys : List String} {σ : Type} {type : String} {fields : List (Field σ)}
  {start : σ}

theorem given_record (grouped : t.Grouped) (hg : keys ∈ Setting.groups) {s : σ} :
    Given (record type fields start) start (t.at? keys) s ↔
      visitTable (t.entriesAt keys) fields start = .ok s := by
  rw [Tree.entriesAt]
  cases h : t.at? keys with
  | none => simp [Given, visitTable_empty, eq_comm]
  | some u =>
    obtain ⟨entries, origin, rfl⟩ := grouped keys hg u h
    rfl

theorem given_optional (grouped : t.Grouped) (hg : keys ∈ Setting.groups) {o : Option σ} :
    Given (optional (record type fields start)) none (t.at? keys) o ↔
      (o.isSome ↔ (t.at? keys).isSome) ∧
        ∀ s, o = some s → visitTable (t.entriesAt keys) fields start = .ok s := by
  rw [Tree.entriesAt]
  cases h : t.at? keys with
  | none => cases o <;> simp [Given]
  | some u =>
    obtain ⟨entries, origin, rfl⟩ := grouped keys hg u h
    rw [Given, optional_ok (by simp)]
    cases o <;> simp [record]

/-- The settings of the optional group, found along their keys. -/
theorem given_tls (grouped : t.Grouped) {o : Option Tls} :
    Given (optional (record "TlsContext" Tls.settings {})) none (t.at? Setting.tlsKeys) o ↔
      (o.isSome ↔ (t.at? Setting.tlsKeys).isSome) ∧
      Given (optional text) none (t.at? Setting.authorityPath.keys) (o.bind (·.authorityPath)) ∧
      Given (optional text) none (t.at? Setting.identityPath.keys) (o.bind (·.identityPath)) ∧
      Given (optional text) none (t.at? Setting.identityPassword.keys)
        (o.bind (·.identityPassword)) := by
  have lookup := t.lookup_entriesAt Setting.tlsKeys
  rw [given_optional grouped (by decide)]
  refine and_congr_right fun some_iff => ?_
  cases o with
  | some s =>
    simp only [Option.some.injEq, forall_eq', tls_iff, lookup, Option.bind_some]
    rfl
  | none =>
    -- Without the group there is nothing to be found inside of it.
    have absent : t.at? Setting.tlsKeys = none := by simpa using some_iff
    have inside (k : String) : t.at? (Setting.tlsKeys ++ [k]) = none := by
      rw [Tree.at?_append, absent, Option.bind_none]
    have authority : t.at? Setting.authorityPath.keys = none := inside _
    have identity : t.at? Setting.identityPath.keys = none := inside _
    have password : t.at? Setting.identityPassword.keys = none := inside _
    simp [Given, authority, identity, password]

/-- The settings that a tree gives, found along their keys. -/
theorem ofSettings_iff (grouped : t.Grouped) {s : Service} : Service.ofSettings t = .ok s ↔
    (∀ x : Setting, Given x.convert (x.get {}) (t.at? x.keys) (x.get s)) ∧
      (s.broker.tls.isSome ↔ (t.at? Setting.tlsKeys).isSome) := by
  have top := t.lookup_entriesAt []
  have amqp := t.lookup_entriesAt ["amqp"]
  have publish := t.lookup_entriesAt ["publish"]
  have consume := t.lookup_entriesAt ["consume"]
  have root : Service.ofSettings t = visitTable (t.entriesAt []) Service.settings {} := by
    obtain ⟨entries, origin, rfl⟩ := grouped [] (by decide) t rfl
    rfl
  simp only [List.nil_append, List.cons_append] at top amqp publish consume
  rw [root, service_iff, top, top, top, top, given_record grouped (by decide),
    given_record grouped (by decide), given_record grouped (by decide), broker_iff, publishing_iff,
    consuming_iff]
  simp only [amqp, publish, consume]
  rw [show ["amqp", "tls"] = Setting.tlsKeys from rfl, given_tls grouped]
  constructor
  · rintro ⟨⟨host, port, virtualHost, username, password, ⟨tls, authority, identity, secret⟩,
      byCertificate, clientAuth, connectionName⟩, ⟨exchange, routingKey⟩,
      ⟨queue, autoAck, prefetch⟩, httpPort⟩
    refine ⟨fun x => ?_, tls⟩
    cases x <;> assumption
  · rintro ⟨each, tls⟩
    exact ⟨⟨each .host, each .port, each .virtualHost, each .username, each .password,
      ⟨tls, each .authorityPath, each .identityPath, each .identityPassword⟩, each .byCertificate,
      each .clientAuth, each .connectionName⟩, ⟨each .exchange, each .routingKey⟩,
      ⟨each .queue, each .autoAck, each .prefetch⟩, each .httpPort⟩

/-- A tree gives settings if all that stands at their keys can be converted. -/
theorem ofSettings_loads (grouped : t.Grouped) : (∃ s, Service.ofSettings t = .ok s) ↔
    ∀ (x : Setting) (u : Tree), t.at? x.keys = some u → ∃ a, x.convert u = .ok a := by
  constructor
  · rintro ⟨s, hs⟩ x u hu
    have given := ((ofSettings_iff grouped).mp hs).1 x
    rw [hu] at given
    exact ⟨_, given⟩
  · intro converts
    have each (x : Setting) : ∃ a, Given x.convert (x.get {}) (t.at? x.keys) a := by
      cases h : t.at? x.keys with
      | none => exact ⟨_, rfl⟩
      | some u => exact converts x u h
    choose values given using each
    refine ⟨Setting.build values (t.at? Setting.tlsKeys).isSome, (ofSettings_iff grouped).mpr ?_⟩
    cases tls : t.at? Setting.tlsKeys with
    | some u => exact ⟨fun x => by cases x <;> exact given _, by simp [Setting.build]⟩
    | none =>
      have outside {x : Setting} (h : x.InTls) : t.at? x.keys = none := by
        obtain ⟨rest, hk⟩ := h
        rw [← hk, Tree.at?_append, tls, Option.bind_none]
      refine ⟨fun x => ?_, by simp [Setting.build]⟩
      cases x
      case authorityPath | identityPath | identityPassword =>
        rw [outside (by decide)]
        rfl
      all_goals exact given _

end Grouped

end BrokerPool.Settings
