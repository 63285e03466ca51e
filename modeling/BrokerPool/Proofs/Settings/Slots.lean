import BrokerPool.Proofs.Settings.Resolution

/-!
# Where a setting stands

A group of settings is a table, in which a setting stands under its key, or an array, in which it
stands at its position. What stands there is converted to the value of the setting, however the
groups on the way are written. What is set later leaves it alone if it parts from it on the way, and
a table that is set where an array stands, or the other way round, takes all that stands there.

Results:
* `convert_slot`: what stands at a setting is converted to its value.
* `Tree.slot?_assignAll`: what stands at a setting stays, if all that is set later spares it.
* `Tree.sparedBy_of_apart`: in tables, that is whatever is set at other keys.
-/

namespace BrokerPool.Settings

open Config

/-! ## Slots -/

/-- Where a setting stands in its group. -/
structure Slot where
  key : String
  position : ℕ
deriving DecidableEq, Repr

namespace Tree

/-- What stands at a slot of a group. -/
def child? (slot : Slot) : Tree → Option Tree
  | .table entries _ => entries.lookup slot.key
  | .array items _ => items[slot.position]?
  | .leaf _ _ => none

/-- What stands at the end of some slots, one inside of the other. -/
def slot? : List Slot → Tree → Option Tree
  | [], t => some t
  | slot :: slots, t => (t.child? slot).bind (slot? slots)

variable {slot : Slot} {slots : List Slot} {t u : Tree}

theorem slot?_cons : t.slot? (slot :: slots) = some u ↔
    ∃ v, t.child? slot = some v ∧ v.slot? slots = some u :=
  Option.bind_eq_some_iff

theorem slot?_singleton : t.slot? [slot] = t.child? slot := Option.bind_fun_some _

end Tree

/-- The slots that lead to a setting. -/
def Setting.slots : Setting → List Slot
  | host => [⟨"amqp", 0⟩, ⟨"host", 0⟩]
  | port => [⟨"amqp", 0⟩, ⟨"port", 1⟩]
  | virtualHost => [⟨"amqp", 0⟩, ⟨"virtual_host", 2⟩]
  | username => [⟨"amqp", 0⟩, ⟨"username", 3⟩]
  | password => [⟨"amqp", 0⟩, ⟨"password", 4⟩]
  | authorityPath => [⟨"amqp", 0⟩, ⟨"tls", 5⟩, ⟨"ca_cert_path", 0⟩]
  | identityPath => [⟨"amqp", 0⟩, ⟨"tls", 5⟩, ⟨"identity_path", 1⟩]
  | identityPassword => [⟨"amqp", 0⟩, ⟨"tls", 5⟩, ⟨"identity_password", 2⟩]
  | byCertificate => [⟨"amqp", 0⟩, ⟨"use_cert_authentication", 6⟩]
  | clientAuth => [⟨"amqp", 0⟩, ⟨"client_auth", 7⟩]
  | connectionName => [⟨"amqp", 0⟩, ⟨"connection_name", 8⟩]
  | exchange => [⟨"publish", 1⟩, ⟨"exchange", 0⟩]
  | routingKey => [⟨"publish", 1⟩, ⟨"routing_key", 1⟩]
  | queue => [⟨"consume", 2⟩, ⟨"queue", 0⟩]
  | autoAck => [⟨"consume", 2⟩, ⟨"auto_ack", 1⟩]
  | prefetch => [⟨"consume", 2⟩, ⟨"prefetch_count", 2⟩]
  | httpPort => [⟨"http_port", 3⟩]

theorem Setting.map_key_slots (x : Setting) : x.slots.map Slot.key = x.keys := by
  cases x <;> rfl

/-! ## Conversion -/

section Conversion

variable {σ α : Type} {fields : List (Field σ)} {start s : σ} {t u : Tree} {name type : String}
  {convert : Converter α} {set : α → σ → σ}

theorem visitArray_cons_ok {f : Field σ} {index : ℕ} {items : List Tree} :
    visitArray index (f :: fields) (t :: items) start = .ok s ↔
      ∃ u, f.convert t = .ok u ∧ visitArray (index + 1) fields items (u start) = .ok s := by
  rw [visitArray]
  cases hc : f.convert t <;> simp [Except.mapError, bind, Except.bind]

theorem visitArray_keeps {γ : Type} {get : σ → γ} {index : ℕ} {items : List Tree}
    (h : ∀ f ∈ fields, f.Keeps get) (hs : visitArray index fields items start = .ok s) :
    get s = get start := by
  induction fields generalizing index items start with
  | nil =>
    simp only [visitArray, Except.ok.injEq] at hs
    rw [hs]
  | cons f fields ih =>
    obtain ⟨first, others⟩ := List.forall_mem_cons.mp h
    cases items with
    | nil =>
      simp only [visitArray, Except.ok.injEq] at hs
      rw [hs]
    | cons t items =>
      obtain ⟨u, hu, hs⟩ := visitArray_cons_ok.mp hs
      rw [ih others hs, first t u hu]

/-- The item at a position is converted, and no later field changes what comes of it. -/
theorem visitArray_nth {γ : Type} {get : σ → γ} {n index : ℕ} {items : List Tree} {f : Field σ}
    (hs : visitArray index fields items start = .ok s) (nth : fields[n]? = some f)
    (found : items[n]? = some u) (keeps : ∀ f ∈ fields.drop (n + 1), f.Keeps get) :
    ∃ v before, f.convert u = .ok v ∧ get s = get (v before) := by
  induction n generalizing index fields items start with
  | zero =>
    obtain ⟨fields, rfl⟩ : ∃ rest, fields = f :: rest := by
      cases fields <;> simp_all
    obtain ⟨items, rfl⟩ : ∃ rest, items = u :: rest := by
      cases items <;> simp_all
    obtain ⟨v, hv, hs⟩ := visitArray_cons_ok.mp hs
    exact ⟨v, start, hv, visitArray_keeps keeps hs⟩
  | succ n ih =>
    cases fields with
    | nil => cases nth
    | cons g fields =>
      cases items with
      | nil => cases found
      | cons w items =>
        obtain ⟨v, -, hs⟩ := visitArray_cons_ok.mp hs
        exact ih hs nth found keeps

/-- The entry of a key is converted, and no later field changes what comes of it. -/
theorem visitTable_nth {γ : Type} {get : σ → γ} {n : ℕ} {entries : List (String × Tree)}
    {f : Field σ} (hs : visitTable entries fields start = .ok s) (nth : fields[n]? = some f)
    (found : entries.lookup f.name = some u) (keeps : ∀ f ∈ fields.drop (n + 1), f.Keeps get) :
    ∃ v before, f.convert u = .ok v ∧ get s = get (v before) := by
  obtain ⟨hn, rfl⟩ := List.getElem?_eq_some_iff.mp nth
  rw [← List.take_append_drop n fields, List.drop_eq_getElem_cons hn] at hs
  obtain ⟨before, -, hs⟩ := visitTable_append_ok.mp hs
  obtain ⟨after, hv, hs⟩ := visitTable_cons_ok.mp hs
  rcases Field.visit_ok.mp hv with ⟨absent, -⟩ | ⟨w, v, present, hc, rfl⟩
  · rw [found] at absent
    cases absent
  · rw [found] at present
    obtain rfl := Option.some.inj present
    exact ⟨v, before, hc, visitTable_keeps keeps hs⟩

/-- What stands at a slot of a record is converted to the value that the record has. -/
theorem record_child (get : σ → α) {slot : Slot} (hs : record type fields start t = .ok s)
    (found : t.child? slot = some u)
    (nth : fields[slot.position]? = some (.of slot.key convert set))
    (own : ∀ a s, get (set a s) = a) (keeps : ∀ f ∈ fields.drop (slot.position + 1), f.Keeps get) :
    convert u = .ok (get s) := by
  obtain ⟨v, before, hv, value⟩ : ∃ v before, (Field.of slot.key convert set).convert u = .ok v ∧
      get s = get (v before) := by
    cases t with
    | leaf value origin => cases found
    | array items origin => exact visitArray_nth hs nth found keeps
    | table entries origin => exact visitTable_nth hs nth found keeps
  obtain ⟨a, ha, rfl⟩ := Field.of_ok.mp hv
  rw [value, own, ha]

/-- An optional group in which something stands is there. -/
theorem optional_child {slot : Slot} {o : Option α} (h : optional convert t = .ok o)
    (found : t.child? slot = some u) : ∃ a, o = some a ∧ convert t = .ok a := by
  have given : ∀ origin, t ≠ .leaf .absent origin := by
    rintro origin rfl
    cases found
  obtain ⟨a, ha, rfl⟩ := (optional_ok given).mp h
  exact ⟨a, rfl, ha⟩

/-- What stands at a slot of a group is converted to the value that the group of the record has. -/
theorem group_child {τ : Type} {inner : String} {items : List (Field τ)} {empty : τ}
    {group slot : Slot} {put : τ → σ → σ} {set : α → τ → τ} (outer : σ → τ) (get : τ → α)
    (hs : record type fields start t = .ok s) (found : t.slot? [group, slot] = some u)
    (place : fields[group.position]? = some (.of group.key (record inner items empty) put))
    (ownGroup : ∀ a s, outer (put a s) = a)
    (keepsGroup : ∀ f ∈ fields.drop (group.position + 1), f.Keeps outer)
    (nth : items[slot.position]? = some (.of slot.key convert set))
    (own : ∀ a s, get (set a s) = a)
    (keeps : ∀ f ∈ items.drop (slot.position + 1), f.Keeps get) :
    convert u = .ok (get (outer s)) := by
  obtain ⟨v, hv, hu⟩ := Tree.slot?_cons.mp found
  have whole : record inner items empty v = .ok (outer s) :=
    record_child outer hs hv place ownGroup keepsGroup
  exact record_child get whole (Tree.slot?_singleton ▸ hu) nth own keeps

section Groups

variable {settings : Service} {slot : Slot}

theorem amqp_slot {set : α → Broker → Broker} (get : Broker → α)
    (h : Service.ofSettings t = .ok settings) (found : t.slot? [⟨"amqp", 0⟩, slot] = some u)
    (nth : Broker.settings[slot.position]? = some (.of slot.key convert set))
    (own : ∀ a s, get (set a s) = a)
    (keeps : ∀ f ∈ Broker.settings.drop (slot.position + 1), f.Keeps get) :
    convert u = .ok (get settings.broker) :=
  group_child Service.broker get h found rfl (fun _ _ => rfl) (by simp [Service.settings]) nth own
    keeps

theorem tls_slot {convert : Converter (Option α)} {set : Option α → Tls → Tls}
    (get : Tls → Option α) (h : Service.ofSettings t = .ok settings)
    (found : t.slot? [⟨"amqp", 0⟩, ⟨"tls", 5⟩, slot] = some u)
    (nth : Tls.settings[slot.position]? = some (.of slot.key convert set))
    (own : ∀ a s, get (set a s) = a)
    (keeps : ∀ f ∈ Tls.settings.drop (slot.position + 1), f.Keeps get) :
    convert u = .ok (settings.broker.tls.bind get) := by
  obtain ⟨v, hv, inside⟩ := Tree.slot?_cons.mp found
  obtain ⟨w, hw, hu⟩ := Tree.slot?_cons.mp inside
  rw [Tree.slot?_singleton] at hu
  have outer : t.slot? [⟨"amqp", 0⟩, ⟨"tls", 5⟩] = some w :=
    Tree.slot?_cons.mpr ⟨v, hv, Tree.slot?_singleton ▸ hw⟩
  have group := amqp_slot Broker.tls h outer rfl (fun _ _ => rfl) (by simp [Broker.settings])
  obtain ⟨tls, there, inner⟩ := optional_child group hu
  rw [there, Option.bind_some]
  exact record_child get inner hu nth own keeps

theorem publish_slot {set : α → Publishing → Publishing} (get : Publishing → α)
    (h : Service.ofSettings t = .ok settings) (found : t.slot? [⟨"publish", 1⟩, slot] = some u)
    (nth : Publishing.settings[slot.position]? = some (.of slot.key convert set))
    (own : ∀ a s, get (set a s) = a)
    (keeps : ∀ f ∈ Publishing.settings.drop (slot.position + 1), f.Keeps get) :
    convert u = .ok (get settings.publishing) :=
  group_child Service.publishing get h found rfl (fun _ _ => rfl) (by simp [Service.settings]) nth
    own keeps

theorem consume_slot {set : α → Consuming → Consuming} (get : Consuming → α)
    (h : Service.ofSettings t = .ok settings) (found : t.slot? [⟨"consume", 2⟩, slot] = some u)
    (nth : Consuming.settings[slot.position]? = some (.of slot.key convert set))
    (own : ∀ a s, get (set a s) = a)
    (keeps : ∀ f ∈ Consuming.settings.drop (slot.position + 1), f.Keeps get) :
    convert u = .ok (get settings.consuming) :=
  group_child Service.consuming get h found rfl (fun _ _ => rfl) (by simp [Service.settings]) nth
    own keeps

/-- What stands at a setting is converted to its value. -/
theorem convert_slot (h : Service.ofSettings t = .ok settings) {x : Setting}
    (found : t.slot? x.slots = some u) : x.convert u = .ok (x.get settings) := by
  cases x with
  | host =>
    exact amqp_slot Broker.host h found rfl (fun _ _ => rfl) (by simp [Broker.settings])
  | port =>
    exact amqp_slot Broker.port h found rfl (fun _ _ => rfl) (by simp [Broker.settings])
  | virtualHost =>
    exact amqp_slot Broker.virtualHost h found rfl (fun _ _ => rfl) (by simp [Broker.settings])
  | username =>
    exact amqp_slot Broker.username h found rfl (fun _ _ => rfl) (by simp [Broker.settings])
  | password =>
    exact amqp_slot Broker.password h found rfl (fun _ _ => rfl) (by simp [Broker.settings])
  | byCertificate =>
    exact amqp_slot Broker.byCertificate h found rfl (fun _ _ => rfl) (by simp [Broker.settings])
  | clientAuth =>
    exact amqp_slot Broker.clientAuth h found rfl (fun _ _ => rfl) (by simp [Broker.settings])
  | connectionName =>
    exact amqp_slot Broker.connectionName h found rfl (fun _ _ => rfl) (by simp [Broker.settings])
  | authorityPath =>
    exact tls_slot Tls.authorityPath h found rfl (fun _ _ => rfl) (by simp [Tls.settings])
  | identityPath =>
    exact tls_slot Tls.identityPath h found rfl (fun _ _ => rfl) (by simp [Tls.settings])
  | identityPassword =>
    exact tls_slot Tls.identityPassword h found rfl (fun _ _ => rfl) (by simp [Tls.settings])
  | exchange =>
    exact publish_slot Publishing.exchange h found rfl (fun _ _ => rfl)
      (by simp [Publishing.settings])
  | routingKey =>
    exact publish_slot Publishing.routingKey h found rfl (fun _ _ => rfl)
      (by simp [Publishing.settings])
  | queue =>
    exact consume_slot Consuming.queue h found rfl (fun _ _ => rfl)
      (by simp [Consuming.settings])
  | autoAck =>
    exact consume_slot Consuming.autoAck h found rfl (fun _ _ => rfl)
      (by simp [Consuming.settings])
  | prefetch =>
    exact consume_slot Consuming.prefetch h found rfl (fun _ _ => rfl)
      (by simp [Consuming.settings])
  | httpPort =>
    rw [Setting.slots, Tree.slot?_singleton] at found
    exact record_child Service.httpPort h found rfl (fun _ _ => rfl) (by simp [Service.settings])

end Groups

end Conversion

/-! ## What is set later -/

/-- The position in an array that an index means. -/
def itemPosition (i : Int) (length : ℕ) : ℕ := if 0 ≤ i then i.toNat else length - i.natAbs

namespace Tree

/-- Setting a path of a tree leaves alone what stands at some slots: the path parts from the slots
    at a key of a table, or at an item of an array. A key where an array stands takes the place of
    the array, and an index the place of a table. -/
def Spares : List Step → List Slot → Tree → Prop
  | .key name :: path, slot :: slots, .table entries _ =>
    Text.lower name ≠ slot.key ∨ ∃ u, entries.lookup slot.key = some u ∧ Spares path slots u
  | .index i :: path, slot :: slots, .array items _ =>
    itemPosition i items.length ≠ slot.position ∨
      ∃ u, items[slot.position]? = some u ∧ Spares path slots u
  | _, _, _ => False

/-- Every key of a layer leaves alone what stands at some slots, in the tree that the keys before it
    have made. -/
def SparedBy : Layer → List Slot → Tree → Prop
  | [], _, _ => True
  | (key, v) :: layer, slots, t =>
    Spares (path key) slots t ∧ SparedBy layer slots (assignAt v (path key) t)

variable {p : List Step} {slot : Slot} {slots : List Slot} {t u : Tree} {layer : Layer}

theorem assignAt_index (value : Leaf) (origin : Option String) (i : Int) (path : List Step)
    (t : Tree) : assignAt (.leaf value origin) (.index i :: path) t =
      t.alterIndex i (assignAt (.leaf value origin) path) := by
  cases path <;> rfl

theorem child?_alterKey {entries : List (String × Tree)} (h : entries.lookup slot.key = some u)
    (name : String) (f : Option Tree → Tree) (origin : Option String) :
    ((table entries origin).alterKey name f).child? slot =
      some (if Text.lower name = slot.key then f (some u) else u) := by
  rw [alterKey_eq, child?, tableEntries_table]
  split_ifs with same
  · rw [same, Keyed.lookup_put_self, h]
  · rw [Keyed.lookup_put_of_ne (Ne.symm same), h]

theorem child?_alterIndex {items : List Tree} (h : items[slot.position]? = some u) (i : Int)
    (f : Tree → Tree) (origin : Option String) : ((array items origin).alterIndex i f).child? slot =
      some (if itemPosition i items.length = slot.position then f u else u) := by
  have within : slot.position < items.length := (List.getElem?_eq_some_iff.mp h).1
  simp only [alterIndex, arrayItems, child?, List.getElem?_modify,
    List.getElem?_append_left within, h, Option.map_eq_map, Option.map_some]
  rfl

/-- What a path leaves alone stays when the path is set. -/
theorem slot?_assignAt (value : Leaf) (origin : Option String) (spares : Spares p slots t)
    (found : t.slot? slots = some u) :
    (assignAt (.leaf value origin) p t).slot? slots = some u := by
  induction p generalizing slots t with
  | nil => cases spares
  | cons step p ih =>
    cases slots with
    | nil => cases step <;> cases spares
    | cons slot slots =>
      obtain ⟨v, hv, hu⟩ := slot?_cons.mp found
      rw [slot?_cons]
      cases step with
      | key name =>
        cases t with
        | leaf | array => cases spares
        | table entries from_ =>
          rw [assignAt_key]
          refine ⟨_, child?_alterKey hv name _ from_, ?_⟩
          split_ifs with same
          · obtain ⟨w, hw, inner⟩ := spares.resolve_left (not_not_intro same)
            obtain rfl := Option.some.inj (hv.symm.trans hw)
            exact ih inner hu
          · exact hu
      | index i =>
        cases t with
        | leaf | table => cases spares
        | array items from_ =>
          rw [assignAt_index]
          refine ⟨_, child?_alterIndex hv i _ from_, ?_⟩
          split_ifs with same
          · obtain ⟨w, hw, inner⟩ := spares.resolve_left (not_not_intro same)
            obtain rfl := Option.some.inj (hv.symm.trans hw)
            exact ih inner hu
          · exact hu

/-- What every key of a layer leaves alone stays when the layer is set. -/
theorem slot?_assignAll (leaves : ∀ e ∈ layer, ∃ value origin, e.2 = .leaf value origin)
    (spared : SparedBy layer slots t) (found : t.slot? slots = some u) :
    (assignAll layer t).slot? slots = some u := by
  induction layer generalizing t with
  | nil => exact found
  | cons e layer ih =>
    obtain ⟨key, v⟩ := e
    obtain ⟨⟨value, origin, rfl⟩, others⟩ := List.forall_mem_cons.mp leaves
    exact ih others spared.2 (slot?_assignAt value origin spared.1 found)

/-! ### Slots in tables -/

/-- In tables, what stands at the keys of the slots stands at the slots. -/
theorem slot?_of_at? (found : t.at? (slots.map Slot.key) = some u) : t.slot? slots = some u := by
  induction slots generalizing t with
  | nil => exact found
  | cons slot slots ih =>
    cases t with
    | leaf | array => cases found
    | table entries origin =>
      obtain ⟨v, hv, hu⟩ := Option.bind_eq_some_iff.mp found
      exact slot?_cons.mpr ⟨v, hv, ih hu⟩

/-- In tables, a path that parts from the keys of the slots leaves alone what stands there. -/
theorem spares_of_apart (lowered : Lowered (slots.map Slot.key))
    (apart : Apart p (steps (slots.map Slot.key)))
    (found : t.at? (slots.map Slot.key) = some u) : Spares p slots t := by
  induction p generalizing slots t with
  | nil => cases apart
  | cons step p ih =>
    cases slots with
    | nil => cases step <;> cases apart
    | cons slot slots =>
      cases step with
      | index i => cases apart
      | key name =>
        obtain ⟨low, lowered⟩ := lowered_cons.mp lowered
        obtain ⟨v, hv, hu⟩ := Option.bind_eq_some_iff.mp found
        cases t with
        | leaf | array => cases hv
        | table entries origin =>
          rcases apart with ne | apart
          · exact .inl (low ▸ ne)
          · exact .inr ⟨v, hv, ih lowered apart hu⟩

/-- In tables, a layer at other keys leaves alone what stands at the slots. -/
theorem sparedBy_of_apart (lowered : Lowered (slots.map Slot.key))
    (apart : ∀ e ∈ layer, Apart (path e.1) (steps (slots.map Slot.key)) ∧
      ∃ value origin, e.2 = .leaf value origin)
    (found : t.at? (slots.map Slot.key) = some u) : SparedBy layer slots t := by
  induction layer generalizing t with
  | nil => trivial
  | cons e layer ih =>
    obtain ⟨key, v⟩ := e
    obtain ⟨⟨parts, value, origin, rfl⟩, others⟩ := List.forall_mem_cons.mp apart
    exact ⟨spares_of_apart lowered parts found,
      ih others ((at?_assignAt_of_apart value origin t lowered parts).trans found)⟩

end Tree

end BrokerPool.Settings
