import BrokerPool.Proofs.Settings.Records
import BrokerPool.Proofs.Settings.Verbatim

/-!
# Text settings from the environment

Every text setting of the service has a variable of its own. What the variable holds becomes a value
first and a text again, so the setting has the text of the variable only if that text survives.

Results:
* `TextSetting.reads`: a text that is set at the keys of a text setting is that setting.
* `text_setting_of_variable`: what the setting is for every text of its variable, and for which
  texts it is the very same.
* `password_changed`: a password that does not survive.
-/

namespace BrokerPool.Settings

open Config

/-! ## The text settings -/

inductive TextSetting
  | host
  | virtualHost
  | username
  | password
  | connectionName
  | authorityPath
  | identityPath
  | identityPassword
  | exchange
  | routingKey
  | queue
deriving DecidableEq, Repr

namespace TextSetting

/-- The keys that lead to a setting. -/
def keys : TextSetting → List String
  | host => ["amqp", "host"]
  | virtualHost => ["amqp", "virtual_host"]
  | username => ["amqp", "username"]
  | password => ["amqp", "password"]
  | connectionName => ["amqp", "connection_name"]
  | authorityPath => ["amqp", "tls", "ca_cert_path"]
  | identityPath => ["amqp", "tls", "identity_path"]
  | identityPassword => ["amqp", "tls", "identity_password"]
  | exchange => ["publish", "exchange"]
  | routingKey => ["publish", "routing_key"]
  | queue => ["consume", "queue"]

/-- The name of the variable that sets a setting. -/
def variableName : TextSetting → String
  | host => "APP_AMQP__HOST"
  | virtualHost => "APP_AMQP__VIRTUAL_HOST"
  | username => "APP_AMQP__USERNAME"
  | password => "APP_AMQP__PASSWORD"
  | connectionName => "APP_AMQP__CONNECTION_NAME"
  | authorityPath => "APP_AMQP__TLS__CA_CERT_PATH"
  | identityPath => "APP_AMQP__TLS__IDENTITY_PATH"
  | identityPassword => "APP_AMQP__TLS__IDENTITY_PASSWORD"
  | exchange => "APP_PUBLISH__EXCHANGE"
  | routingKey => "APP_PUBLISH__ROUTING_KEY"
  | queue => "APP_CONSUME__QUEUE"

def get : TextSetting → Service → Option String
  | host, s => s.broker.host
  | virtualHost, s => s.broker.virtualHost
  | username, s => s.broker.username
  | password, s => s.broker.password
  | connectionName, s => s.broker.connectionName
  | authorityPath, s => s.broker.tls.bind (·.authorityPath)
  | identityPath, s => s.broker.tls.bind (·.identityPath)
  | identityPassword, s => s.broker.tls.bind (·.identityPassword)
  | exchange, s => s.publishing.exchange
  | routingKey, s => s.publishing.routingKey
  | queue, s => s.consuming.queue

/-- The key that the variable of a setting sets. -/
def key (x : TextSetting) : String := ".".intercalate x.keys

theorem keyOfVariable?_variableName (x : TextSetting) :
    keyOfVariable? x.variableName = some x.key := by
  cases x <;> decide +kernel

theorem path_key (x : TextSetting) : path x.key = steps x.keys := by
  cases x <;> decide +kernel

end TextSetting

/-! ## Texts out of the groups of settings -/

theorem Proper.of_isPlain {σ : Type} {fields : List (Field σ)}
    (distinct : (fields.map Field.name).Nodup)
    (plain : (fields.all fun f => f.name.toList.all (Text.IsPlain ·)) = true) : Proper fields where
  distinct := distinct
  lower f hf := Text.lower_of_isPlain fun c hc =>
    of_decide_eq_true (List.all_eq_true.mp (List.all_eq_true.mp plain f hf) c hc)

theorem proper_tls : Proper Tls.settings := .of_isPlain (by decide) (by decide)

theorem proper_broker : Proper Broker.settings := .of_isPlain (by decide) (by decide)

theorem proper_publishing : Proper Publishing.settings := .of_isPlain (by decide) (by decide)

theorem proper_consuming : Proper Consuming.settings := .of_isPlain (by decide) (by decide)

theorem proper_service : Proper Service.settings := .of_isPlain (by decide) (by decide)

section Groups

variable {keys : List String}

theorem Reads.amqp {get : Broker → Option String}
    (h : Reads (record "AmqpConfig" Broker.settings {}) keys get) :
    Reads Service.ofSettings ("amqp" :: keys) (get ·.broker) :=
  h.field 0 proper_service rfl (fun _ _ => rfl) (by simp [Service.settings])

theorem Reads.publish {get : Publishing → Option String}
    (h : Reads (record "PublisherSettings" Publishing.settings {}) keys get) :
    Reads Service.ofSettings ("publish" :: keys) (get ·.publishing) :=
  h.field 1 proper_service rfl (fun _ _ => rfl) (by simp [Service.settings])

theorem Reads.consume {get : Consuming → Option String}
    (h : Reads (record "ConsumerSettings" Consuming.settings {}) keys get) :
    Reads Service.ofSettings ("consume" :: keys) (get ·.consuming) :=
  h.field 2 proper_service rfl (fun _ _ => rfl) (by simp [Service.settings])

theorem Reads.tls {get : Tls → Option String}
    (h : Reads (record "TlsContext" Tls.settings {}) keys get) :
    Reads Service.ofSettings ("amqp" :: "tls" :: keys) (·.broker.tls.bind get) := by
  have inner : Reads (record "AmqpConfig" Broker.settings {}) ("tls" :: keys)
      fun b => b.tls.bind get :=
    h.optional.field 5 proper_broker rfl (fun _ _ => rfl) (by simp [Broker.settings])
  exact inner.amqp

end Groups

/-- A text that is set at the keys of a text setting is that setting. -/
theorem TextSetting.reads (x : TextSetting) : Reads Service.ofSettings x.keys x.get := by
  have text : Reads text [] some := .text
  have maybe : Reads (optional Settings.text) [] (·.bind some) := text.optional
  cases x with
  | host =>
    have h : Reads (record "AmqpConfig" Broker.settings {}) ["host"] fun b => some b.host :=
      text.field 0 proper_broker rfl (fun _ _ => rfl) (by simp [Broker.settings])
    exact h.amqp
  | virtualHost =>
    have h : Reads (record "AmqpConfig" Broker.settings {}) ["virtual_host"] (·.virtualHost) :=
      maybe.field 2 proper_broker rfl (by simp) (by simp [Broker.settings])
    exact h.amqp
  | username =>
    have h : Reads (record "AmqpConfig" Broker.settings {}) ["username"] (·.username) :=
      maybe.field 3 proper_broker rfl (by simp) (by simp [Broker.settings])
    exact h.amqp
  | password =>
    have h : Reads (record "AmqpConfig" Broker.settings {}) ["password"] (·.password) :=
      maybe.field 4 proper_broker rfl (by simp) (by simp [Broker.settings])
    exact h.amqp
  | connectionName =>
    have h : Reads (record "AmqpConfig" Broker.settings {}) ["connection_name"]
        fun b => some b.connectionName :=
      text.field 8 proper_broker rfl (fun _ _ => rfl) (by simp [Broker.settings])
    exact h.amqp
  | authorityPath =>
    have h : Reads (record "TlsContext" Tls.settings {}) ["ca_cert_path"] (·.authorityPath) :=
      maybe.field 0 proper_tls rfl (by simp) (by simp [Tls.settings])
    exact h.tls
  | identityPath =>
    have h : Reads (record "TlsContext" Tls.settings {}) ["identity_path"] (·.identityPath) :=
      maybe.field 1 proper_tls rfl (by simp) (by simp [Tls.settings])
    exact h.tls
  | identityPassword =>
    have h : Reads (record "TlsContext" Tls.settings {}) ["identity_password"]
        (·.identityPassword) :=
      maybe.field 2 proper_tls rfl (by simp) (by simp [Tls.settings])
    exact h.tls
  | exchange =>
    have h : Reads (record "PublisherSettings" Publishing.settings {}) ["exchange"]
        fun p => some p.exchange :=
      text.field 0 proper_publishing rfl (fun _ _ => rfl) (by simp [Publishing.settings])
    exact h.publish
  | routingKey =>
    have h : Reads (record "PublisherSettings" Publishing.settings {}) ["routing_key"]
        fun p => some p.routingKey :=
      text.field 1 proper_publishing rfl (fun _ _ => rfl) (by simp [Publishing.settings])
    exact h.publish
  | queue =>
    have h : Reads (record "ConsumerSettings" Consuming.settings {}) ["queue"]
        fun c => some c.queue :=
      text.field 0 proper_consuming rfl (fun _ _ => rfl) (by simp [Consuming.settings])
    exact h.consume

/-! ## Loading -/

/-- A variable of the name sets nothing, or something on a path that parts from the setting's. -/
def TextSetting.KeptBy (x : TextSetting) (name : String) : Prop :=
  ∀ key, keyOfVariable? name = some key → Apart (steps x.keys) (path key)

theorem load_eq (environment : List (String × String)) (files : Files) :
    Service.load environment files = Layer.ofFiles files >>= fun file =>
      Service.ofSettings (Tree.assignAll
        (file ++ Layer.ofEnvironment environment ++ Layer.ofPlatform environment) .empty) := by
  simp only [Service.load, merged_eq, List.flatten_cons, List.flatten_nil, List.append_nil,
    List.append_assoc]

theorem TextSetting.keepsOff_platform (x : TextSetting) (environment : List (String × String)) :
    KeepsOff (steps x.keys) (Layer.ofPlatform environment) := by
  have apart : Apart (steps x.keys) (path "http_port") := by
    have port : path "http_port" = [.key "http_port"] := by decide +kernel
    have amqp : Text.lower "amqp" ≠ Text.lower "http_port" := by decide +kernel
    have publish : Text.lower "publish" ≠ Text.lower "http_port" := by decide +kernel
    have consume : Text.lower "consume" ≠ Text.lower "http_port" := by decide +kernel
    rw [port]
    cases x <;> simp [keys, steps, Apart, amqp, publish, consume]
  unfold Layer.ofPlatform
  split
  · simpa [KeepsOff] using apart
  · simp [KeepsOff]

theorem TextSetting.keepsOff_environment {x : TextSetting} {environment : List (String × String)}
    (h : ∀ e ∈ environment, x.KeptBy e.1) :
    KeepsOff (steps x.keys) (Layer.ofEnvironment environment) := by
  intro e he
  obtain ⟨⟨name, value⟩, hm, hk⟩ := List.mem_filterMap.mp he
  obtain ⟨key, hkey, rfl⟩ := Option.map_eq_some_iff.mp hk
  exact ⟨h _ hm key hkey, _, _, rfl⟩

/-- What the environment sets, with the variable of a text setting in it. -/
theorem TextSetting.ofEnvironment (x : TextSetting) (v : String)
    (before after : List (String × String)) :
    Layer.ofEnvironment (before ++ (x.variableName, v) :: after) = Layer.ofEnvironment before ++
      (x.key, .leaf (.ofVariable v) (some "the environment")) :: Layer.ofEnvironment after := by
  rw [Layer.ofEnvironment, List.filterMap_append, List.filterMap_cons_some]
  · rfl
  · simp [keyOfVariable?_variableName]

/-- No text setting has the variable that sets the port. -/
theorem TextSetting.ofPlatform (x : TextSetting) (v : String)
    (before after : List (String × String)) :
    Layer.ofPlatform (before ++ (x.variableName, v) :: after) =
      Layer.ofPlatform (before ++ after) := by
  have hn : ("PORT" == x.variableName) = false := by cases x <;> decide
  simp [Layer.ofPlatform, List.lookup_append, List.lookup_cons, hn]

/-- The variable of a text setting can as well be set behind all others that keep off it. -/
theorem TextSetting.load_eq (x : TextSetting) (v : String) {before after : List (String × String)}
    (files : Files) (last : ∀ e ∈ after, x.KeptBy e.1) :
    Service.load (before ++ (x.variableName, v) :: after) files =
      Layer.ofFiles files >>= fun file => Service.ofSettings (.assignAt
        (.leaf (.ofVariable v) (some "the environment")) (steps x.keys) (Tree.assignAll
          (file ++ Layer.ofEnvironment (before ++ after) ++ Layer.ofPlatform (before ++ after))
          .empty)) := by
  have keepsOff : KeepsOff (path x.key)
      (Layer.ofEnvironment after ++ Layer.ofPlatform (before ++ after)) := by
    rw [x.path_key]
    exact List.forall_mem_append.mpr ⟨keepsOff_environment last, x.keepsOff_platform _⟩
  rw [Settings.load_eq, x.ofEnvironment, x.ofPlatform]
  congr
  funext file
  have split : Layer.ofEnvironment (before ++ after) =
      Layer.ofEnvironment before ++ Layer.ofEnvironment after := List.filterMap_append
  rw [split, ← x.path_key]
  simp only [List.append_assoc, List.cons_append]
  rw [← List.append_assoc file, ← List.append_assoc file, Tree.assignAll_override keepsOff]

/-- A text setting whose variable is set, and kept by all variables behind it, is what the text of
    the variable is after it has been a value. It is the very same text exactly if it is `Verbatim`.
    Whatever loads without the variable loads with it. -/
theorem text_setting_of_variable (x : TextSetting) (v : String)
    (before after : List (String × String)) (files : Files) (last : ∀ e ∈ after, x.KeptBy e.1) :
    (∀ s, Service.load (before ++ (x.variableName, v) :: after) files = .ok s →
      x.get s = some (Leaf.ofVariable v).written ∧ (x.get s = some v ↔ Verbatim v)) ∧
    ((∃ s, Service.load (before ++ after) files = .ok s) →
      ∃ s, Service.load (before ++ (x.variableName, v) :: after) files = .ok s) := by
  rw [x.load_eq v files last]
  constructor
  · intro s hs
    obtain ⟨file, -, hs⟩ := bind_ok_iff.mp hs
    have value := x.reads.value _ _ _ _ (text_ofVariable v _) s hs
    refine ⟨value, ?_⟩
    rw [value, Option.some.injEq, written_ofVariable_iff]
  · rintro ⟨s, hs⟩
    rw [load_eq] at hs
    obtain ⟨file, hf, hs⟩ := bind_ok_iff.mp hs
    obtain ⟨s', hs'⟩ := x.reads.loads _ _ _ _ (text_ofVariable v _) (.inr ⟨s, hs⟩)
    exact ⟨s', bind_ok_iff.mpr ⟨file, hf, hs'⟩⟩

/-- A password with leading zeros, between two other variables. -/
theorem text_setting_of_variable_zeros : ∃ s,
    Service.load [("APP_AMQP__HOST", "broker"), ("APP_AMQP__PASSWORD", "007"),
      ("APP_AMQP__USERNAME", "guest")] {} = .ok s ∧ s.broker.password = some "7" ∧
    (s.broker.password = some "007" ↔ Verbatim "007") := by
  have last : ∀ e ∈ [("APP_AMQP__USERNAME", "guest")], TextSetting.password.KeptBy e.1 := by
    intro e he key hk
    obtain rfl := List.mem_singleton.mp he
    rw [show keyOfVariable? "APP_AMQP__USERNAME" = some TextSetting.username.key from
      TextSetting.keyOfVariable?_variableName .username, Option.some.injEq] at hk
    rw [← hk, TextSetting.path_key]
    exact .inr (.inl (by decide +kernel))
  have base : ∃ s, Service.load [("APP_AMQP__HOST", "broker"), ("APP_AMQP__USERNAME", "guest")]
      {} = .ok s := by
    have loaded : (Service.load [("APP_AMQP__HOST", "broker"), ("APP_AMQP__USERNAME", "guest")]
        {}).toOption.isSome := by decide +kernel
    revert loaded
    cases Service.load [("APP_AMQP__HOST", "broker"), ("APP_AMQP__USERNAME", "guest")] {} with
    | ok s => exact fun _ => ⟨s, rfl⟩
    | error e => simp [Except.toOption]
  have written : (Leaf.ofVariable "007").written = "7" := by decide +kernel
  obtain ⟨value, loads⟩ := text_setting_of_variable .password "007" [("APP_AMQP__HOST", "broker")]
    [("APP_AMQP__USERNAME", "guest")] {} last
  obtain ⟨s, hs⟩ := loads base
  obtain ⟨changed, same⟩ := value s hs
  exact ⟨s, hs, written ▸ changed, same⟩

/-- A password with leading zeros loses them. -/
theorem password_changed : ¬∀ (x : TextSetting) (v : String),
    ∃ s, Service.load [(x.variableName, v)] {} = .ok s ∧ x.get s = some v := by
  intro h
  obtain ⟨s, hs, hv⟩ := h .password "007"
  have changed : (Service.load [(TextSetting.password.variableName, "007")] {}).toOption.map
      TextSetting.password.get = some (some "7") := by decide +kernel
  rw [hs] at changed
  simp [Except.toOption, hv] at changed

end BrokerPool.Settings
