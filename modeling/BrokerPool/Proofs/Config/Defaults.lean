import BrokerPool.Config.Fields
import BrokerPool.Proofs.Json.Shapes

/-!
# Settings that are given in part

The settings of a broker are the built-in defaults with what is given in their place. Whatever is
given has the form that its kind of setting wants, and it may be given by an object, in any order
and with other members among it, or by an array. The same holds for the files that secure the
transport, which are a group among the settings.

Results:
* `Tls.accepts_decode`, `Broker.accepts_decode`: what is decoded from a tree.
* `Broker.parse_ok_iff`: what is decoded from a text.
* `Broker.defaults_overridden`: defaults are overridden by what is given, and by nothing else.
* `Broker.defaults_overridden_mixed`: settings with a group in the other shape.
-/

namespace BrokerPool.Config

open Json

/-! ## Files that secure the transport -/

namespace Tls

/-- The names of the files, in the order of an array. -/
def names : List String := ["ca_cert_path", "identity_path", "identity_password"]

/-- Some of the files. One that is given may be null. -/
structure Partial where
  authorityPath : Option (Option String) := none
  identityPath : Option (Option String) := none
  identityPassword : Option (Option String) := none

/-- What is given, in the place of what was there. -/
def Partial.override (g : Partial) (s : Tls) : Tls where
  authorityPath := g.authorityPath.getD s.authorityPath
  identityPath := g.identityPath.getD s.identityPath
  identityPassword := g.identityPassword.getD s.identityPassword

/-- What the trees under the names give. -/
structure Told (look : String → Option Tree) (g : Partial) : Prop where
  authorityPath : Option.Rel (Nullable (Written .string)) (look "ca_cert_path") g.authorityPath
  identityPath : Option.Rel (Nullable (Written .string)) (look "identity_path") g.identityPath
  identityPassword :
    Option.Rel (Nullable (Written .string)) (look "identity_password") g.identityPassword

/-- A tree that gives some of the files. -/
def Shown (t : Tree) (s : Tls) : Prop :=
  t.skipFlaw? = none ∧ ∃ look g, Gives names t look ∧ Told look g ∧ g.override {} = s

theorem table : Table fields where
  attentive := by
    simp only [fields, List.forall_mem_cons]
    refine ⟨fun _ => Field.sets_given.attentive attentive_optional_text,
      fun _ => Field.sets_given.attentive attentive_optional_text,
      fun _ => Field.sets_given.attentive attentive_optional_text, ?_⟩
    exact List.forall_mem_nil _
  names := by decide
  commute := by
    simp only [fields, List.pairwise_cons, List.forall_mem_cons, List.not_mem_nil, false_imp_iff,
      implies_true, List.Pairwise.nil, and_true]
    refine ⟨⟨?_, ?_⟩, ?_⟩
    iterate 3 exact Field.sets_given.commutes Field.sets_given fun _ _ _ => rfl

/-- Files are put together from what is given over what was there. -/
theorem assemble_iff {look : String → Option Tree} {s s' : Tls} :
    assemble look fields s = some s' ↔ ∃ g, Told look g ∧ g.override s = s' := by
  have path := accepts_optional_textAs "path string"
  have text := accepts_optional_textAs "a string"
  constructor
  · intro h
    obtain ⟨authorityPath, ha, h⟩ := (assemble_over_iff path fun _ => rfl).mp h
    obtain ⟨identityPath, hi, h⟩ := (assemble_over_iff path fun _ => rfl).mp h
    obtain ⟨identityPassword, hp, h⟩ := (assemble_over_iff text fun _ => rfl).mp h
    exact ⟨⟨authorityPath, identityPath, identityPassword⟩, ⟨ha, hi, hp⟩, Option.some.inj h⟩
  · rintro ⟨g, ⟨ha, hi, hp⟩, rfl⟩
    refine (assemble_over_iff path fun _ => rfl).mpr ⟨_, ha, ?_⟩
    refine (assemble_over_iff path fun _ => rfl).mpr ⟨_, hi, ?_⟩
    exact (assemble_over_iff text fun _ => rfl).mpr ⟨_, hp, rfl⟩

/-- What is decoded is what is given over the defaults. -/
theorem accepts_decode (medium : Medium) : Accepts (decode medium) Shown := by
  intro t s
  have same : fields.map (·.name) = names := rfl
  rw [decode, record_ok_iff table, same]
  simp only [assemble_iff, Shown, exists_and_left]

theorem not_shown_null (s : Tls) : ¬ Shown .null s := by
  rintro ⟨-, look, g, gives, -⟩
  cases gives

theorem shapes (medium : Medium) : Shapes (decode medium) names := record_shapes table

/-- Where nothing is given, nothing is told. -/
theorem Told.eq_nothing {look : String → Option Tree} {g : Partial} (told : Told look g)
    (nothing : ∀ n ∈ names, look n = none) : g = {} := by
  simp only [names, List.forall_mem_cons] at nothing
  obtain ⟨authority, identity, password, -⟩ := nothing
  obtain ⟨authorityPath, identityPath, identityPassword⟩ := g
  obtain ⟨ha, hi, hp⟩ := told
  rw [authority] at ha
  rw [identity] at hi
  rw [password] at hp
  cases ha
  cases hi
  cases hp
  rfl

/-- An object that gives none of the files, whatever else it gives. -/
theorem Shown.eq_default {members : Members} {s : Tls} (h : Shown (.object members) s)
    (nothing : ∀ n ∈ names, some n ∉ members.entries.map (·.1)) : s = {} := by
  obtain ⟨-, look, g, gives, told, rfl⟩ := h
  cases gives with
  | object =>
    have none_ : ∀ n ∈ names, members.entries.lookup (some n) = none := by
      intro n hn
      rw [List.lookup_eq_none_iff]
      intro e he
      have other : some n ≠ e.1 := fun same =>
        nothing n hn (same ▸ List.mem_map.mpr ⟨e, he, rfl⟩)
      exact bne_iff_ne.mpr other
    rw [told.eq_nothing none_]
    rfl

end Tls

/-! ## The mode of client authentication -/

/-- How a mode is written. -/
def ClientAuth.word : ClientAuth → String
  | .none => "NONE"
  | .want => "WANT"
  | .required => "REQUIRED"

theorem ClientAuth.lookup_choices {name : String} {mode : ClientAuth} :
    ClientAuth.choices.lookup name = some mode ↔ name = mode.word := by
  have once := List.nodup_iff_count_le_one.mp (show (choices.map (·.1)).Nodup by decide) name
  rw [Keyed.lookup_eq_some_of_count once]
  constructor
  · intro there
    simp only [choices, List.mem_cons, Prod.mk.injEq, List.not_mem_nil, or_false] at there
    rcases there with ⟨rfl, rfl⟩ | ⟨rfl, rfl⟩ | ⟨rfl, rfl⟩ <;> rfl
  · rintro rfl
    cases mode <;> simp [choices, word]

theorem ClientAuth.accepts (medium : Medium) :
    Accepts (oneOf medium ClientAuth.choices) fun t mode => Chosen mode.word t := by
  intro t mode
  rw [accepts_oneOf medium choices]
  simp only [lookup_choices, exists_eq_left]

/-! ## The broker -/

namespace Broker

/-- The names of the settings, in the order of an array. -/
def names : List String := ["host", "port", "virtual_host", "username", "password", "tls",
  "use_cert_authentication", "client_auth", "connection_name"]

/-- Some of the settings. Those that may be missing may be given as null. -/
structure Partial where
  host : Option String := none
  port : Option UInt16 := none
  virtualHost : Option (Option String) := none
  username : Option (Option String) := none
  password : Option (Option String) := none
  tls : Option (Option Tls) := none
  byCertificate : Option Bool := none
  clientAuth : Option ClientAuth := none
  connectionName : Option String := none

/-- What is given, in the place of what was there. -/
def Partial.override (g : Partial) (b : Broker) : Broker where
  host := g.host.getD b.host
  port := g.port.getD b.port
  virtualHost := g.virtualHost.getD b.virtualHost
  username := g.username.getD b.username
  password := g.password.getD b.password
  tls := g.tls.getD b.tls
  byCertificate := g.byCertificate.getD b.byCertificate
  clientAuth := g.clientAuth.getD b.clientAuth
  connectionName := g.connectionName.getD b.connectionName

/-- What the trees under the names give. -/
structure Told (look : String → Option Tree) (g : Partial) : Prop where
  host : Option.Rel (Written .string) (look "host") g.host
  port : Option.Rel (Written fun n => .nat n.toNat) (look "port") g.port
  virtualHost : Option.Rel (Nullable (Written .string)) (look "virtual_host") g.virtualHost
  username : Option.Rel (Nullable (Written .string)) (look "username") g.username
  password : Option.Rel (Nullable (Written .string)) (look "password") g.password
  tls : Option.Rel (Nullable Tls.Shown) (look "tls") g.tls
  byCertificate : Option.Rel (Written .bool) (look "use_cert_authentication") g.byCertificate
  clientAuth : Option.Rel (fun t mode => Chosen mode.word t) (look "client_auth") g.clientAuth
  connectionName : Option.Rel (Written .string) (look "connection_name") g.connectionName

/-- A tree that gives some of the settings. -/
def Shown (t : Tree) (b : Broker) : Prop :=
  t.skipFlaw? = none ∧ ∃ look g, Gives names t look ∧ Told look g ∧ g.override {} = b

theorem accepts_tls (medium : Medium) :
    Accepts (optional (Tls.decode medium)) (Nullable Tls.Shown) :=
  (Tls.accepts_decode medium).optional Tls.not_shown_null

theorem table (medium : Medium) : Table (fields medium) where
  attentive := by
    have tls : Attentive (optional (Tls.decode medium)) :=
      (accepts_tls medium).attentive fun _ _ => Nullable.sound fun _ _ shown => shown.1
    have mode : Attentive (oneOf medium ClientAuth.choices) :=
      (ClientAuth.accepts medium).attentive fun _ _ => Chosen.sound
    simp only [fields, List.forall_mem_cons]
    refine ⟨fun _ => Field.sets_given.attentive attentive_textAs,
      fun _ => Field.sets_given.attentive (accepts_word16.attentive fun _ _ => Written.sound),
      fun _ => Field.sets_given.attentive attentive_optional_text,
      fun _ => Field.sets_given.attentive attentive_optional_text,
      fun _ => Field.sets_given.attentive attentive_optional_text,
      fun _ => Field.sets_given.attentive tls,
      fun _ => Field.sets_given.attentive (accepts_boolean.attentive fun _ _ => Written.sound),
      fun _ => Field.sets_given.attentive mode,
      fun _ => Field.sets_given.attentive attentive_textAs, ?_⟩
    exact List.forall_mem_nil _
  names := show names.Nodup by decide
  commute := by
    simp only [fields, List.pairwise_cons, List.forall_mem_cons, List.not_mem_nil, false_imp_iff,
      implies_true, List.Pairwise.nil, and_true, and_assoc]
    repeat' apply And.intro
    all_goals exact Field.sets_given.commutes Field.sets_given fun _ _ _ => rfl

/-- Settings are put together from what is given over what was there. -/
theorem assemble_iff (medium : Medium) {look : String → Option Tree} {b b' : Broker} :
    assemble look (fields medium) b = some b' ↔ ∃ g, Told look g ∧ g.override b = b' := by
  have text := accepts_textAs "a string"
  have missing := accepts_optional_textAs "a string"
  constructor
  · intro h
    obtain ⟨host, hh, h⟩ := (assemble_over_iff text fun _ => rfl).mp h
    obtain ⟨port, hp, h⟩ := (assemble_over_iff accepts_word16 fun _ => rfl).mp h
    obtain ⟨virtualHost, hv, h⟩ := (assemble_over_iff missing fun _ => rfl).mp h
    obtain ⟨username, hu, h⟩ := (assemble_over_iff missing fun _ => rfl).mp h
    obtain ⟨password, hw, h⟩ := (assemble_over_iff missing fun _ => rfl).mp h
    obtain ⟨tls, ht, h⟩ := (assemble_over_iff (accepts_tls medium) fun _ => rfl).mp h
    obtain ⟨byCertificate, hb, h⟩ := (assemble_over_iff accepts_boolean fun _ => rfl).mp h
    obtain ⟨mode, hm, h⟩ := (assemble_over_iff (ClientAuth.accepts medium) fun _ => rfl).mp h
    obtain ⟨connectionName, hc, h⟩ := (assemble_over_iff text fun _ => rfl).mp h
    exact ⟨⟨host, port, virtualHost, username, password, tls, byCertificate, mode, connectionName⟩,
      ⟨hh, hp, hv, hu, hw, ht, hb, hm, hc⟩, Option.some.inj h⟩
  · rintro ⟨g, ⟨hh, hp, hv, hu, hw, ht, hb, hm, hc⟩, rfl⟩
    refine (assemble_over_iff text fun _ => rfl).mpr ⟨_, hh, ?_⟩
    refine (assemble_over_iff accepts_word16 fun _ => rfl).mpr ⟨_, hp, ?_⟩
    refine (assemble_over_iff missing fun _ => rfl).mpr ⟨_, hv, ?_⟩
    refine (assemble_over_iff missing fun _ => rfl).mpr ⟨_, hu, ?_⟩
    refine (assemble_over_iff missing fun _ => rfl).mpr ⟨_, hw, ?_⟩
    refine (assemble_over_iff (accepts_tls medium) fun _ => rfl).mpr ⟨_, ht, ?_⟩
    refine (assemble_over_iff accepts_boolean fun _ => rfl).mpr ⟨_, hb, ?_⟩
    refine (assemble_over_iff (ClientAuth.accepts medium) fun _ => rfl).mpr ⟨_, hm, ?_⟩
    exact (assemble_over_iff text fun _ => rfl).mpr ⟨_, hc, rfl⟩

/-- What is decoded is what is given over the defaults. -/
theorem accepts_decode (medium : Medium) : Accepts (decode medium) Shown := by
  intro t b
  have same : (fields medium).map (·.name) = names := rfl
  rw [decode, record_ok_iff (table medium), same]
  simp only [assemble_iff, Shown, exists_and_left]

theorem shapes (medium : Medium) : Shapes (decode medium) names := record_shapes (table medium)

/-! ### The group -/

section Group

variable {medium : Medium} {t : Tree} {look : String → Option Tree} {b : Broker}

/-- What is given for the group is what was decoded from it. -/
theorem tls_of_decode (gives : Gives names t look) (h : decode medium t = .ok b) :
    ∃ tls, Option.Rel (Nullable Tls.Shown) (look "tls") tls ∧ tls.getD none = b.tls := by
  obtain ⟨-, look', g, gives', told, rfl⟩ := (accepts_decode medium t b).mp h
  obtain rfl := gives.unique gives'
  exact ⟨g.tls, told.tls, rfl⟩

theorem tls_eq_none (gives : Gives names t look) (h : decode medium t = .ok b)
    (missing : look "tls" = none ∨ look "tls" = some .null) : b.tls = none := by
  obtain ⟨tls, given, same⟩ := tls_of_decode gives h
  rw [← same]
  rcases missing with missing | missing <;> rw [missing] at given
  · cases given
    rfl
  · cases given with
    | some shown =>
      cases shown with
      | null => rfl
      | some shown => exact absurd shown (Tls.not_shown_null _)

theorem tls_shown (gives : Gives names t look) (h : decode medium t = .ok b) {members : Members}
    (object : look "tls" = some (.object members)) :
    ∃ tls, Tls.Shown (.object members) tls ∧ b.tls = some tls := by
  obtain ⟨tls, given, same⟩ := tls_of_decode gives h
  rw [object] at given
  rw [← same]
  cases given with
  | some shown =>
    cases shown with
    | some shown => exact ⟨_, shown, rfl⟩

end Group

/-! ### Texts -/

/-- The settings of a text. -/
def parse (s : String) : Except Json.Error Broker := (Document.ofString s).decode (decode .text)

theorem parse_of_jsonText {s : String} {t : Tree} (text : JsonText s t) :
    parse s = decode .text t :=
  decode_of_jsonText text (decode .text)

theorem parse_ok_iff {s : String} {b : Broker} :
    parse s = .ok b ↔ ∃ t, JsonText s t ∧ Shown t b := by
  have attentive : Attentive (decode .text) :=
    (accepts_decode .text).attentive fun _ _ shown => shown.1
  rw [parse, decode_ok_iff attentive]
  simp only [accepts_decode .text _ b]

/-- The built-in defaults are overridden by what is given, and by nothing else, in a text as well as
    in a value. -/
theorem defaults_overridden :
    (∀ medium t look g, t.skipFlaw? = none → Gives names t look → Told look g →
      decode medium t = .ok (g.override {})) ∧
    (∀ medium t b, decode medium t = .ok b ↔ Shown t b) ∧
    -- The group is there as soon as it is given, even if nothing is given in it.
    (∀ medium t look b, Gives names t look → decode medium t = .ok b →
      (look "tls" = none ∨ look "tls" = some .null → b.tls = none) ∧
      ∀ members, look "tls" = some (.object members) →
        (∀ n ∈ Tls.names, some n ∉ members.entries.map (·.1)) → b.tls = some {}) ∧
    (∀ medium, Shapes (decode medium) names ∧ Shapes (Tls.decode medium) Tls.names) ∧
    -- What is given twice inside of the group makes the whole be refused.
    (∀ medium t look members n, Gives names t look → look "tls" = some (.object members) →
      n ∈ Tls.names → 1 < (members.entries.map (·.1)).count (some n) →
      ∀ b, decode medium t ≠ .ok b) ∧
    (∀ s t, JsonText s t → t.skipFlaw? = none ∧ parse s = decode .text t) ∧
    (∀ s b, parse s = .ok b ↔ ∃ t, JsonText s t ∧ Shown t b) ∧
    (∀ s members n, JsonText s (.object members) → n ∈ names →
      1 < (members.entries.map (·.1)).count (some n) → ∃ e, parse s = .error e) := by
  refine ⟨?given, fun medium t b => accepts_decode medium t b, ?group,
    fun medium => ⟨shapes medium, Tls.shapes medium⟩, ?inside,
    fun s t text => ⟨text.sound, parse_of_jsonText text⟩, fun s b => parse_ok_iff, ?twice⟩
  case given =>
    intro medium t look g sound gives told
    exact (accepts_decode medium t _).mpr ⟨sound, look, g, gives, told, rfl⟩
  case group =>
    intro medium t look b gives h
    refine ⟨tls_eq_none gives h, fun members object nothing => ?_⟩
    obtain ⟨tls, shown, same⟩ := tls_shown gives h object
    rw [same, shown.eq_default nothing]
  case inside =>
    intro medium t look members n gives object known twice b h
    obtain ⟨tls, shown, -⟩ := tls_shown gives h object
    exact (Tls.shapes medium).once known twice tls ((Tls.accepts_decode medium _ _).mpr shown)
  case twice =>
    intro s members n text known twice
    cases h : parse s with
    | error e => exact ⟨e, rfl⟩
    | ok b =>
      rw [parse_of_jsonText text] at h
      exact absurd h ((shapes .text).once known twice b)

/-- An object with a port, with files as an array, and with something that nobody reads. -/
def mixed : Members :=
  .cons (some "comment") (.array (.cons (.string none) .done))
    (.cons (some "tls") (.array (.cons .null (.cons (.string (some "client.p12")) .done)))
      (.cons (some "port") (.number (some (.integer 5671))) .done))

theorem gives_mixed :
    Gives names (.object mixed) fun n => mixed.entries.lookup (some n) :=
  .object mixed (by decide) (by decide)

theorem shown_tls_mixed :
    Tls.Shown (.array (.cons .null (.cons (.string (some "client.p12")) .done)))
      { identityPath := some "client.p12" } := by
  refine ⟨rfl, _, ⟨some none, some (some "client.p12"), none⟩, .array _ (by decide), ?_, rfl⟩
  exact ⟨.some .null, .some (.some rfl), .none⟩

/-- An object that gives a name twice. -/
def doubled : List (String × Value) := [("username", .string "guest"), ("username", .null)]

theorem defaults_overridden_mixed :
    Gives names (.object mixed) (fun n => mixed.entries.lookup (some n)) ∧
    decode .text (.object mixed) =
      .ok { port := 5671, tls := some { identityPath := some "client.p12" } } ∧
    JsonText (Value.object doubled).print (Value.object doubled).toTree ∧
    ∃ e, parse (Value.object doubled).print = .error e := by
  have told : Told (fun n => mixed.entries.lookup (some n))
      { port := some 5671, tls := some (some { identityPath := some "client.p12" }) } :=
    ⟨.none, .some rfl, .none, .none, .none, .some (.some shown_tls_mixed), .none, .none, .none⟩
  have text : JsonText (Value.object doubled).print (Value.object doubled).toTree := by
    refine (prints_object ?_).jsonText
    simp only [doubled, List.forall_mem_cons]
    exact ⟨prints_string _, prints_null, List.forall_mem_nil _⟩
  obtain ⟨given, -, -, -, -, -, -, twice⟩ := defaults_overridden
  exact ⟨gives_mixed, given .text _ _ _ rfl gives_mixed told, text,
    twice _ _ "username" text (by decide) (by decide)⟩

end Broker

end BrokerPool.Config
