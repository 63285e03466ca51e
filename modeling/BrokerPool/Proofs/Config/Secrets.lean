import BrokerPool.Broker.Connection
import BrokerPool.Config.Diagnostic
import BrokerPool.Config.Validation
import Mathlib.Data.Option.Basic

/-!
# Settings that differ in their secrets

Two settings that agree on everything but the two passwords look the same wherever they are shown,
checked or named. Only whether a password is there, and whether it is empty, may make a difference.

Results:
* `Tls.Alike.shape_eq`, `Broker.Alike.shape_eq`, `Service.Alike.shape_eq`: the diagnostic texts are
  the same.
* `Broker.Alike.target_eq`, `Broker.Alike.failures_eq`: the broker goes by the same name, and the
  same rules are broken.
* `Tls.Alike.load_error`, `Broker.Alike.materialOf_error`: what cannot be read fails with the same
  error.
-/

namespace BrokerPool.Config

/-! ## Settings that are alike -/

/-- Two secrets are both missing, both empty, or both neither. -/
inductive SecretsAlike : Option String → Option String → Prop
  | missing : SecretsAlike none none
  | empty : SecretsAlike (some "") (some "")
  | given {s t : String} (hs : s ≠ "") (ht : t ≠ "") : SecretsAlike (some s) (some t)

/-- The files are the same. -/
structure Tls.Alike (t t' : Tls) : Prop where
  rest : { t with identityPassword := none } = { t' with identityPassword := none }
  secret : SecretsAlike t.identityPassword t'.identityPassword

/-- The settings of a broker agree on everything but the passwords. -/
structure Broker.Alike (b b' : Broker) : Prop where
  rest : { b with password := none, tls := none } = { b' with password := none, tls := none }
  secret : SecretsAlike b.password b'.password
  tls : Option.Rel Tls.Alike b.tls b'.tls

/-- All settings agree on everything but the passwords. -/
structure Service.Alike (s s' : Service) : Prop where
  rest : { s with broker := {} } = { s' with broker := {} }
  broker : s.broker.Alike s'.broker

/-- Two related options are both missing, or both there. -/
theorem rel_cases {α β : Type} {R : α → β → Prop} {o : Option α} {o' : Option β}
    (h : Option.Rel R o o') :
    (o = none ∧ o' = none) ∨ ∃ a a', o = some a ∧ o' = some a' ∧ R a a' := by
  cases h with
  | none => exact .inl ⟨rfl, rfl⟩
  | some related => exact .inr ⟨_, _, rfl, rfl, related⟩

/-! ## What is shown -/

theorem SecretsAlike.concealed_eq {p p' : Option String} (h : SecretsAlike p p') :
    concealed p = concealed p' := by
  cases h <;> rfl

theorem SecretsAlike.isSet_eq {p p' : Option String} (h : SecretsAlike p p') :
    Broker.isSet p = Broker.isSet p' := by
  cases h with
  | missing | empty => rfl
  | given hs ht => simp [Broker.isSet, bne_iff_ne.mpr hs, bne_iff_ne.mpr ht]

section Tls

variable {t t' : Tls}

theorem Tls.Alike.shape_eq (h : t.Alike t') : t.shape = t'.shape := by
  obtain ⟨authority, identity, -⟩ := Tls.mk.inj h.rest
  rw [Tls.shape, Tls.shape, authority, identity, h.secret.concealed_eq]

/-- What comes of the files does not depend on the password, unless all of them can be read. -/
theorem Tls.Alike.load_error (h : t.Alike t') (files : Files) (e : Lifecycle.ConnectionError) :
    BrokerPool.Broker.TlsMaterial.load files t = .error e ↔
      BrokerPool.Broker.TlsMaterial.load files t' = .error e := by
  obtain ⟨authority, identity, -⟩ := Tls.mk.inj h.rest
  rw [BrokerPool.Broker.TlsMaterial.load, BrokerPool.Broker.TlsMaterial.load, authority, identity]
  cases BrokerPool.Broker.readAt files.readText t'.authorityPath <;>
    cases BrokerPool.Broker.readAt files.read t'.identityPath <;>
    simp [bind, Except.bind, pure, Except.pure]

end Tls

namespace Broker.Alike

variable {b b' : Broker}

theorem tls_cases (h : b.Alike b') : (b.tls = none ∧ b'.tls = none) ∨
    ∃ t t', b.tls = some t ∧ b'.tls = some t' ∧ t.Alike t' :=
  rel_cases h.tls

theorem isSome_tls (h : b.Alike b') : b.tls.isSome = b'.tls.isSome := by
  rcases h.tls_cases with ⟨hb, hb'⟩ | ⟨t, t', hb, hb', -⟩
  · rw [hb, hb']
  · rw [hb, hb', Option.isSome_some, Option.isSome_some]

theorem shape_eq (h : b.Alike b') : b.shape = b'.shape := by
  obtain ⟨host, port, virtualHost, username, -, -, byCertificate, clientAuth, connectionName⟩ :=
    Broker.mk.inj h.rest
  have tls : Text.Shape.ofOption Tls.shape b.tls = Text.Shape.ofOption Tls.shape b'.tls := by
    rcases h.tls_cases with ⟨hb, hb'⟩ | ⟨t, t', hb, hb', alike⟩
    · rw [hb, hb']
    · rw [hb, hb', Text.Shape.ofOption, Text.Shape.ofOption, alike.shape_eq]
  rw [Broker.shape, Broker.shape, host, port, virtualHost, username, byCertificate, clientAuth,
    connectionName, h.secret.concealed_eq, tls]

theorem target_eq (h : b.Alike b') : b.target = b'.target := by
  obtain ⟨host, port, virtualHost, -⟩ := Broker.mk.inj h.rest
  rw [target, target, host, port, virtualHost]

theorem failures_eq (h : b.Alike b') : b.failures = b'.failures := by
  obtain ⟨host, port, virtualHost, username, -, -, byCertificate, -⟩ := Broker.mk.inj h.rest
  have files : b.tls.isNone = b'.tls.isNone := by
    rw [← Option.not_isSome, ← Option.not_isSome, h.isSome_tls]
  rw [failures, failures, host, port, virtualHost, byCertificate, usernameSet, usernameSet,
    username, passwordSet, passwordSet, h.secret.isSet_eq, files]

/-- Files that cannot be read fail in the same way. -/
theorem materialOf_error (h : b.Alike b') (files : Files) (e : Lifecycle.ConnectionError) :
    BrokerPool.Broker.materialOf files b = .error e ↔
      BrokerPool.Broker.materialOf files b' = .error e := by
  rw [BrokerPool.Broker.materialOf, BrokerPool.Broker.materialOf]
  rcases h.tls_cases with ⟨hb, hb'⟩ | ⟨t, t', hb, hb', alike⟩
  · rw [hb, hb']
  · rw [hb, hb']
    exact alike.load_error files e

end Broker.Alike

theorem Service.Alike.shape_eq {s s' : Service} (h : s.Alike s') : s.shape = s'.shape := by
  obtain ⟨-, publishing, consuming, httpPort⟩ := Service.mk.inj h.rest
  rw [Service.shape, Service.shape, h.broker.shape_eq, publishing, consuming, httpPort]

end BrokerPool.Config
