import BrokerPool.Config.Address
import BrokerPool.Lifecycle.Controller
import BrokerPool.Proofs.Http.Sequence
import Mathlib.Logic.Basic

/-!
# One way to authenticate

The rules for settings and the address of a broker look at different things to find out how a client
proves who it is: the rules ask which texts are empty, the address asks for the files that secure
the transport. Settings that break no rule leave no room for a difference.

Results:
* `failures_eq_nil_iff`: settings break no rule if and only if they have a host, a port, no empty
  virtual host, and exactly one way to authenticate.
* `usable_ofCredentials`, `usable_ofCertificate`, `Usable.withPort` and others: what is built from
  parts that are not empty breaks no rule.
* `addressed_of_usable`: the address of such settings authenticates in that very way.
* `refused_of_failures`: there is no controller for any other settings.
* `one_credential_path`: the three of them.
-/

namespace BrokerPool.Config

open Lifecycle (Rehearsal Role)
open Http (Server)

/-! ## What usable settings are -/

/-- A text is there and has something in it. -/
def Given (text : Option String) : Prop := ∃ s, text = some s ∧ s ≠ ""

namespace Broker

/-- The client authenticates with its certificate, and with nothing else. -/
structure Certified (b : Broker) : Prop where
  chosen : b.byCertificate = true
  files : ∃ tls, b.tls = some tls
  username : ¬Given b.username
  password : ¬Given b.password

/-- The client authenticates with a name and a password. -/
structure Credentialed (b : Broker) : Prop where
  chosen : b.byCertificate = false
  username : Given b.username
  password : Given b.password

/-- Settings that break no rule. -/
structure Usable (b : Broker) : Prop where
  host : ∃ c ∈ b.host.toList, Text.isBlank c = false
  port : b.port ≠ 0
  virtualHost : b.virtualHost = none ∨ Given b.virtualHost
  login : Xor b.Certified b.Credentialed

end Broker

/-! ## The rules -/

theorem isSet_iff (text : Option String) : Broker.isSet text = true ↔ Given text := by
  cases text <;> simp [Broker.isSet, Given]

theorem check_eq_nil_iff (broken : Bool) (subject explanation : String) :
    check broken subject explanation = [] ↔ broken = false := by
  cases broken <;> simp [check]

theorem isBlankText_eq_false_iff (s : String) :
    isBlankText s = false ↔ ∃ c ∈ s.toList, Text.isBlank c = false := by
  simp [isBlankText]

/-- A text is missing or not empty. -/
theorem ne_some_empty_iff (text : Option String) :
    text ≠ some "" ↔ text = none ∨ Given text := by
  cases text <;> simp [Given]

namespace Broker

variable {b : Broker}

/-- The three rules about authentication leave exactly one way. -/
theorem login_iff :
    ((b.byCertificate && (b.usernameSet || b.passwordSet)) = false ∧
      (!b.byCertificate && !(b.usernameSet && b.passwordSet)) = false ∧
      (b.byCertificate && b.tls.isNone) = false) ↔ Xor b.Certified b.Credentialed := by
  have username := isSet_iff b.username
  have password := isSet_iff b.password
  rw [← usernameSet] at username
  rw [← passwordSet] at password
  cases chosen : b.byCertificate with
  | true =>
    have other : ¬b.Credentialed := fun h => by simp [h.chosen] at chosen
    rw [Xor]
    simp only [other, not_false_eq_true, and_true, false_and, or_false]
    constructor
    · rintro ⟨unset, -, files⟩
      simp only [Bool.true_and, Bool.or_eq_false_iff] at unset files
      refine ⟨chosen, ?_, ?_, ?_⟩
      · exact Option.isSome_iff_exists.mp (by simpa using files)
      · simp [← username, unset.1]
      · simp [← password, unset.2]
    · rintro ⟨-, ⟨tls, files⟩, noUsername, noPassword⟩
      rw [← username, Bool.not_eq_true] at noUsername
      rw [← password, Bool.not_eq_true] at noPassword
      simp [noUsername, noPassword, files]
  | false =>
    have other : ¬b.Certified := fun h => by simp [h.chosen] at chosen
    rw [Xor]
    simp only [other, not_false_eq_true, and_true, false_and, false_or]
    constructor
    · rintro ⟨-, set, -⟩
      simp only [Bool.not_false, Bool.true_and, Bool.not_eq_false', Bool.and_eq_true] at set
      exact ⟨chosen, username.mp set.1, password.mp set.2⟩
    · rintro ⟨-, hasUsername, hasPassword⟩
      simp [username.mpr hasUsername, password.mpr hasPassword]

/-- Which settings break no rule. -/
theorem failures_eq_nil_iff : b.failures = [] ↔ b.Usable := by
  simp only [failures, List.append_eq_nil_iff, check_eq_nil_iff, isBlankText_eq_false_iff,
    beq_eq_false_iff_ne, ne_some_empty_iff]
  constructor
  · rintro ⟨⟨⟨⟨⟨host, port⟩, virtualHost⟩, both⟩, neither⟩, files⟩
    exact ⟨host, port, virtualHost, login_iff.mp ⟨both, neither, files⟩⟩
  · rintro ⟨host, port, virtualHost, login⟩
    obtain ⟨both, neither, files⟩ := login_iff.mpr login
    exact ⟨⟨⟨⟨⟨host, port⟩, virtualHost⟩, both⟩, neither⟩, files⟩

/-! ## Settings that are built -/

theorem usable_ofCredentials {host username password : String}
    (hh : ∃ c ∈ host.toList, Text.isBlank c = false) (hu : username ≠ "") (hp : password ≠ "") :
    (ofCredentials host username password).Usable where
  host := hh
  port := (by decide : (5672 : UInt16) ≠ 0)
  virtualHost := .inl rfl
  login := .inr ⟨⟨rfl, ⟨username, rfl, hu⟩, ⟨password, rfl, hp⟩⟩, fun h => nomatch h.chosen⟩

theorem usable_ofCertificate {host : String} (hh : ∃ c ∈ host.toList, Text.isBlank c = false)
    (tls : Tls) : (ofCertificate host tls).Usable where
  host := hh
  port := (by decide : (5672 : UInt16) ≠ 0)
  virtualHost := .inl rfl
  login := .inl ⟨⟨rfl, ⟨tls, rfl⟩, nofun, nofun⟩, fun h => nomatch h.chosen⟩

/-- Settings stay usable when the way to authenticate stays and nothing is left empty. -/
theorem Usable.rebuilt {b' : Broker} (h : b.Usable) (host : b'.host = b.host) (port : b'.port ≠ 0)
    (virtualHost : b'.virtualHost = none ∨ Given b'.virtualHost)
    (chosen : b'.byCertificate = b.byCertificate) (username : b'.username = b.username)
    (password : b'.password = b.password)
    (files : (∃ tls, b.tls = some tls) → ∃ tls, b'.tls = some tls) : b'.Usable where
  host := host ▸ h.host
  port := port
  virtualHost := virtualHost
  login := by
    rcases h.login with ⟨c, -⟩ | ⟨c, -⟩
    · have certified : b'.Certified :=
        ⟨chosen.trans c.chosen, files c.files, username ▸ c.username, password ▸ c.password⟩
      exact .inl ⟨certified, fun h' => nomatch certified.chosen.symm.trans h'.chosen⟩
    · have credentialed : b'.Credentialed :=
        ⟨chosen.trans c.chosen, username ▸ c.username, password ▸ c.password⟩
      exact .inr ⟨credentialed, fun h' => nomatch credentialed.chosen.symm.trans h'.chosen⟩

theorem Usable.withPort (h : b.Usable) {port : UInt16} (hp : port ≠ 0) : (b.withPort port).Usable :=
  h.rebuilt rfl hp h.virtualHost rfl rfl rfl id

theorem Usable.withVirtualHost (h : b.Usable) {virtualHost : String} (hv : virtualHost ≠ "") :
    (b.withVirtualHost virtualHost).Usable :=
  h.rebuilt rfl h.port (.inr ⟨virtualHost, rfl, hv⟩) rfl rfl rfl id

theorem Usable.withTls (h : b.Usable) (tls : Tls) : (b.withTls tls).Usable :=
  h.rebuilt rfl h.port h.virtualHost rfl rfl rfl fun _ => ⟨tls, rfl⟩

/-! ## The address -/

/-- The address authenticates as the settings say. -/
structure Addressed (b : Broker) (a : Address) : Prop where
  certified : b.Certified →
    a.scheme = .secure ∧ a.mechanism = .external ∧ a.username = "" ∧ a.password = ""
  credentialed : b.Credentialed →
    a.mechanism = .password ∧ (a.scheme = .secure ↔ ∃ tls, b.tls = some tls) ∧
      b.username = some a.username ∧ a.username ≠ "" ∧
      b.password = some a.password ∧ a.password ≠ ""
  host : a.host = b.host
  port : a.port = b.port
  virtualHost : a.virtualHost ≠ "" ∧
    (b.virtualHost = some a.virtualHost ∨ b.virtualHost = none ∧ a.virtualHost = "/")

theorem addressed_of_usable (h : b.Usable) : b.Addressed b.address := by
  constructor
  case certified =>
    rintro ⟨chosen, ⟨tls, files⟩, -, -⟩
    simp [address, chosen, files]
  case credentialed =>
    rintro ⟨chosen, ⟨name, hname, nameGiven⟩, ⟨word, hword, wordGiven⟩⟩
    have scheme : b.address.scheme = .secure ↔ ∃ tls, b.tls = some tls := by
      cases htls : b.tls <;> simp [address, htls]
    refine ⟨by simp [address, chosen], scheme, ?_⟩
    simp [address, chosen, hname, hword, nameGiven, wordGiven]
  case host => rfl
  case port => rfl
  case virtualHost =>
    rcases h.virtualHost with missing | ⟨v, given, ne⟩
    · simp [address, missing]
    · simp [address, given, ne]

/-! ## Controllers -/

/-- There is no controller for the settings: whoever asks for one gets exactly the rules that they
    break, and no server ever comes to a request, so nothing is ever sent to the broker. -/
structure Refused (b : Broker) : Prop where
  role : ∀ step, Role.ofBroker b step = .error b.failures
  rehearsal : ∀ faults, Rehearsal.ofBroker b faults = .error b.failures
  server : ∀ settings files peer, settings.broker = b →
    Server.ofSettings settings files peer = .error b.failures
  unreached : ∀ settings script s, settings.broker = b → ¬Server.Reached settings script s

/-- There is a controller for settings that break no rule. -/
theorem ofBroker_of_no_failure (h : b.failures = []) (step : String) :
    Role.ofBroker b step = .ok ⟨b.target, step⟩ := by
  unfold Role.ofBroker
  rw [h]

theorem refused_of_failures (h : b.failures ≠ []) : b.Refused := by
  have role (step : String) : Role.ofBroker b step = .error b.failures := by
    unfold Role.ofBroker
    split
    case h_1 none => exact absurd none h
    case h_2 => rfl
  have server (settings : Service) (files : Files) (peer : BrokerPool.Broker.Peer)
      (hb : settings.broker = b) : Server.ofSettings settings files peer = .error b.failures := by
    unfold Server.ofSettings
    split
    case h_1 none => exact absurd (hb ▸ none) h
    case h_2 => rw [hb]
  refine ⟨role, fun faults => ?_, server, ?_⟩
  · rw [Rehearsal.ofBroker, role]
    rfl
  · rintro settings script s hb ⟨files, route, first, requests, fresh, -⟩
    simp [server settings files _ hb] at fresh

/-- Settings break no rule if and only if they are usable, with exactly one way to authenticate. The
    address takes that way, and there is a controller for these settings and no others. -/
theorem one_credential_path (b : Broker) :
    (b.failures = [] ↔ b.Usable) ∧
    (b.failures = [] →
      b.Addressed b.address ∧ ∀ step, Role.ofBroker b step = .ok ⟨b.target, step⟩) ∧
    (b.failures ≠ [] → b.Refused) :=
  ⟨failures_eq_nil_iff,
    fun h => ⟨addressed_of_usable (failures_eq_nil_iff.mp h), ofBroker_of_no_failure h⟩,
    refused_of_failures⟩

/-- A certificate is asked for without the files for it: the address would send an empty name and an
    empty password. -/
example : Broker.failures { byCertificate := true } ≠ [] ∧
    Broker.address { byCertificate := true } =
      ⟨.plain, "", "", "localhost", 5672, "/", .password⟩ := by decide +kernel

end Broker

end BrokerPool.Config
