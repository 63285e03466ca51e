import BrokerPool.Proofs.Lifecycle.Run

/-!
# Every connection has one place

A connection that was once made is with a call that still builds on it, or inside one resource. The
resource is idle in the pool, held by a call, being closed by a call, or closed. The account of
connections is balanced turn by turn (`Run.tally`): a turn moves a connection from one place to the
next, and only an answer brings a new one.

Results:
* `connections_balanced`, `resources_balanced`: the two accounts, over every run whatever.
* `opened_nodup`, `created_ids_nodup`: numbers are given out once.
* `connection_in_one_place`: in orderly runs every connection that was made is in exactly one place,
  and no resource is in two.
-/

namespace BrokerPool.Lifecycle

variable {ι ω : Type}

/-! ## Places -/

/-- Where a connection is that was made. -/
inductive Place
  /-- With a call that waits for its worker, or for its end because there is no worker. -/
  | building (call : ℕ)
  | idle (r : Resource)
  | held (call : ℕ) (r : Resource)
  | closing (call : ℕ) (r : Resource)
  /-- Closed; without a resource if it never had a worker. -/
  | closed (r : Option Resource)
deriving DecidableEq, Repr

/-- The resource around the connection. -/
def Place.resource? : Place → Option Resource
  | .building _ => none
  | .idle r | .held _ r | .closing _ r => some r
  | .closed r => r

namespace Stage

/-- The resource that a call has at a stage. -/
def resource? : Stage ι ω → Option Resource
  | .holding r | .processing r _ | .returning r _ | .closingWorker r _
  | .closingConnection r _ _ => some r
  | _ => none

/-- The connection that a call has at a stage, inside a resource or on its own. -/
def connection? : Stage ι ω → Option ℕ
  | .equipping _ c | .unwinding c _ => some c
  | .holding r | .processing r _ | .returning r _ | .closingWorker r _
  | .closingConnection r _ _ => some r.connection
  | _ => none

/-- The place of the connection that a call has. -/
def place? (call : ℕ) : Stage ι ω → Option (ℕ × Place)
  | .equipping _ c | .unwinding c _ => some (c, .building call)
  | .holding r | .processing r _ | .returning r _ => some (r.connection, .held call r)
  | .closingWorker r _ | .closingConnection r _ _ => some (r.connection, .closing call r)
  | _ => none

/-- A connection is there, its worker is not. -/
def builds : Stage ι ω → Bool
  | .equipping _ _ | .unwinding _ _ => true
  | _ => false

/-- A resource is in use or at hand. -/
def holds : Stage ι ω → Bool
  | .holding _ | .processing _ _ | .returning _ _ => true
  | _ => false

/-- A resource is being closed. -/
def closes : Stage ι ω → Bool
  | .closingWorker _ _ | .closingConnection _ _ _ => true
  | _ => false

@[simp] theorem resource?_obtained (goal : Goal ι) (r : Resource) :
    (obtained goal r : Stage ι ω).resource? = some r := by cases goal <;> rfl

@[simp] theorem connection?_obtained (goal : Goal ι) (r : Resource) :
    (obtained goal r : Stage ι ω).connection? = some r.connection := by cases goal <;> rfl

@[simp] theorem resource?_settled (r : Resource) (failure : Option CloseError)
    (purpose : Purpose ω) : (settled r failure purpose : Stage ι ω × _).1.resource? = none := by
  cases purpose <;> cases failure <;> rfl

@[simp] theorem connection?_settled (r : Resource) (failure : Option CloseError)
    (purpose : Purpose ω) : (settled r failure purpose : Stage ι ω × _).1.connection? = none := by
  cases purpose <;> cases failure <;> rfl

theorem place?_map_fst (call : ℕ) (st : Stage ι ω) :
    (st.place? call).map Prod.fst = st.connection? := by cases st <;> rfl

theorem place?_resource? (call : ℕ) (st : Stage ι ω) :
    (st.place? call).bind (·.2.resource?) = st.resource? := by cases st <;> rfl

end Stage

/-! ## What a turn does to connections and resources -/

/-- The connection that an answer brings. -/
def opened? : Option (Stage ι ω) → Action ι ω → Option ℕ
  | some (.connecting _ c), .resume _ (.connected (.ok _)) => some c
  | _, _ => none

/-- The resource that is made. -/
def created? : Option (Stage ι ω) → Option (Stage ι ω) → Option Resource
  | some (.equipping _ _), some st => st.resource?
  | _, _ => none

/-- The connection that has been closed, whether or not that succeeded. -/
def closed? : Option (Stage ι ω) → Action ι ω → Option (ℕ × Place)
  | some (.closingConnection r _ _), .resume _ (.closed _) => some (r.connection, .closed (some r))
  | some (.unwinding c _), .resume _ (.closed _) => some (c, .closed none)
  | _, _ => none

/-- The call that goes away and leaves nothing behind. -/
def lost? : Option (Stage ι ω) → Option (Stage ι ω) → Option (Stage ι ω)
  | some st, none => some st
  | _, _ => none

/-- The connections that were made in the course of a run. -/
def opened (history : List (Turn ι ω)) : List ℕ := history.filterMap fun t => opened? t.old t.action

/-- The resources that were made. -/
def created (history : List (Turn ι ω)) : List Resource :=
  history.filterMap fun t => created? t.old t.new

/-- The connections that were closed. -/
def closed (history : List (Turn ι ω)) : List (ℕ × Place) :=
  history.filterMap fun t => closed? t.old t.action

/-- The stages at which calls went away for good. -/
def lost (history : List (Turn ι ω)) : List (Stage ι ω) :=
  history.filterMap fun t => lost? t.old t.new

/-- All connections after a run, with their places. -/
def places (history : List (Turn ι ω)) (s : System ι ω) : List (ℕ × Place) :=
  s.calls.filterMap (fun c => c.2.place? c.1) ++
    s.world.pool.idle.map (fun r => (r.connection, .idle r)) ++ closed history

/-! ## The accounts -/

/-- What a sum of optional elements has. -/
theorem sum_map_toList {α β : Type} (f : α → Option β) (l : List α) :
    (l.map fun a => ((f a).toList : Multiset β)).sum = (l.filterMap f : List β) := by
  induction l with
  | nil => rfl
  | cons a l ih =>
    rw [List.map_cons, List.sum_cons, ih, List.filterMap_cons]
    cases f a <;> rfl

theorem elim_toList {α β : Type} (f : α → Option β) (o : Option α) :
    o.elim 0 (fun a => ((f a).toList : Multiset β)) = ((o.bind f).toList : List β) := by
  cases o <;> rfl

theorem coe_cons {α : Type} (a : α) (l : List α) : ((a :: l : List α) : Multiset α) = l + {a} := by
  rw [add_comm, Multiset.singleton_add, Multiset.cons_coe]

section Accounts

variable {role : Role} {permits : Option (Stage ι ω) → Action ι ω → Prop} {s : System ι ω}
  {history : List (Turn ι ω)} {w w' : World} {old new : Option (Stage ι ω)} {a : Action ι ω}
  {events : List Event}

/-- A turn moves a connection from one place to the next, unless an answer brings it or its last
    call goes away. -/
theorem Passage.connections (p : Passage role w old a w' new events) :
    ((w'.pool.idle.map (·.connection) : List ℕ) : Multiset ℕ) +
        (new.bind Stage.connection?).toList +
        (((closed? old a).map Prod.fst).toList + ((lost? old new).bind Stage.connection?).toList) =
      ((w.pool.idle.map (·.connection) : List ℕ) : Multiset ℕ) +
        (old.bind Stage.connection?).toList + (opened? old a).toList := by
  cases p with
  | reuse n goal r rest idle =>
    rw [Option.bind_some, Stage.connection?_obtained]
    simp [idle, coe_cons, opened?, closed?, lost?, Stage.connection?]
  | equip n goal c r made =>
    rw [Option.bind_some, Stage.connection?_obtained]
    simp [made, opened?, closed?, lost?, Stage.connection?]
  | giveBack n r output opened => simp [coe_cons, opened?, closed?, lost?, Stage.connection?]
  | connectionClosed n r worker purpose result =>
    rw [Option.bind_some, Stage.connection?_settled]
    simp [opened?, closed?, lost?, Stage.connection?]
  | close n => simp [Pool.close, opened?, closed?, lost?, Stage.connection?]
  | drain n summary r rest idle => simp [idle, coe_cons, opened?, closed?, lost?, Stage.connection?]
  | _ => simp [opened?, closed?, lost?, Stage.connection?]

/-- The same for resources, which are made once and last until they are closed. -/
theorem Passage.resources (p : Passage role w old a w' new events) :
    (w'.pool.idle : Multiset Resource) + (new.bind Stage.resource?).toList +
        (((closed? old a).bind (·.2.resource?)).toList +
          ((lost? old new).bind Stage.resource?).toList) =
      (w.pool.idle : Multiset Resource) + (old.bind Stage.resource?).toList +
        (created? old new).toList := by
  cases p with
  | reuse n goal r rest idle =>
    rw [Option.bind_some, Stage.resource?_obtained]
    simp [idle, coe_cons, created?, closed?, lost?, Stage.resource?]
  | equip n goal c r made =>
    simp only [created?]
    rw [Option.bind_some, Stage.resource?_obtained]
    simp [closed?, lost?, Stage.resource?]
  | giveBack n r output opened => simp [coe_cons, created?, closed?, lost?, Stage.resource?]
  | connectionClosed n r worker purpose result =>
    rw [Option.bind_some, Stage.resource?_settled]
    simp [created?, closed?, lost?, Stage.resource?, Place.resource?]
  | close n => simp [Pool.close, created?, closed?, lost?, Stage.resource?]
  | drain n summary r rest idle =>
    simp [idle, coe_cons, created?, closed?, lost?, Stage.resource?]
  | _ => simp [created?, closed?, lost?, Stage.resource?, Place.resource?]

/-- Connections made are with calls, idle, closed, or lost with a call that went away. -/
theorem connections_balanced (run : Run role permits {} history s) :
    ((s.world.pool.idle.map (·.connection) : List ℕ) : Multiset ℕ) +
      (s.calls.filterMap (·.2.connection?) : List ℕ) +
      (((closed history).map Prod.fst : List ℕ) +
        ((lost history).filterMap Stage.connection? : List ℕ)) = (opened history : List ℕ) := by
  have h := run.tally (fun _ st => (st.connection?.toList : Multiset ℕ))
    (fun w => (w.pool.idle.map (·.connection) : List ℕ)) (fun _ old a _ => (opened? old a).toList)
    (fun _ old a new => (((closed? old a).map Prod.fst).toList : Multiset ℕ) +
      ((lost? old new).bind Stage.connection?).toList) numbered_empty ?_
  · simp only [List.sum_map_add, System.total, sum_map_toList] at h
    simpa [closed, lost, opened, List.map_filterMap, List.filterMap_filterMap] using h
  · intro n w old a w' new events p _
    simpa only [elim_toList] using p.connections

/-- Resources made are with calls, idle, closed, or lost with a call that went away. -/
theorem resources_balanced (run : Run role permits {} history s) :
    (s.world.pool.idle : Multiset Resource) + (s.calls.filterMap (·.2.resource?) : List Resource) +
      (((closed history).filterMap (·.2.resource?) : List Resource) +
        ((lost history).filterMap Stage.resource? : List Resource)) =
      (created history : List Resource) := by
  have h := run.tally (fun _ st => (st.resource?.toList : Multiset Resource))
    (fun w => w.pool.idle) (fun _ old _ new => (created? old new).toList)
    (fun _ old a new => (((closed? old a).bind (·.2.resource?)).toList : Multiset Resource) +
      ((lost? old new).bind Stage.resource?).toList) numbered_empty ?_
  · simp only [List.sum_map_add, System.total, sum_map_toList] at h
    simpa [closed, lost, created, List.filterMap_filterMap] using h
  · intro n w old a w' new events p _
    simpa only [elim_toList] using p.resources

/-! ## Numbers are given out once -/

/-- The connection that a call asks for at a stage. -/
def Stage.attempt? : Stage ι ω → Option ℕ
  | .connecting _ c => some c
  | _ => none

@[simp] theorem Stage.attempt?_obtained (goal : Goal ι) (r : Resource) :
    (obtained goal r : Stage ι ω).attempt? = none := by cases goal <;> rfl

@[simp] theorem Stage.attempt?_settled (r : Resource) (failure : Option CloseError)
    (purpose : Purpose ω) : (settled r failure purpose : Stage ι ω × _).1.attempt? = none := by
  cases purpose <;> cases failure <;> rfl

/-- The number of an attempt that has brought no connection. -/
def failed? (old : Option (Stage ι ω)) (a : Action ι ω) : Option ℕ :=
  if (opened? old a).isSome then none else old.bind Stage.attempt?

/-- Every attempt has the number after the last one. -/
theorem Passage.attempts (p : Passage role w old a w' new events) :
    (List.range' 1 w'.supply.connections : Multiset ℕ) =
      List.range' 1 w.supply.connections + (new.bind Stage.attempt?).toList := by
  cases p with
  | reuse n goal r rest idle => rw [Option.bind_some, Stage.attempt?_obtained]; simp
  | miss n goal idle =>
    simp [Stage.attempt?, List.range'_1_concat, Nat.add_comm 1, ← Multiset.coe_add]
  | equip n goal c r made => rw [Option.bind_some, Stage.attempt?_obtained]; simp
  | connectionClosed n r worker purpose result =>
    rw [Option.bind_some, Stage.attempt?_settled]; simp
  | _ => simp [Stage.attempt?]

/-- An attempt brings at most one connection, the one with its number. -/
theorem Passage.attempt_ends (p : Passage role w old a w' new events) :
    ((opened? old a).toList + (failed? old a).toList : Multiset ℕ) =
      (old.bind Stage.attempt?).toList := by
  cases p <;> simp [opened?, failed?, Stage.attempt?]

/-- Every resource, and its worker, has the number after the last one. -/
theorem Passage.made (p : Passage role w old a w' new events) :
    (created? old new = none ∧ w'.supply.resources = w.supply.resources ∧
      w'.supply.workers = w.supply.workers) ∨
    ∃ r, created? old new = some r ∧
      (r.id.number = w.supply.resources + 1 ∧ w'.supply.resources = w.supply.resources + 1) ∧
      r.worker = w.supply.workers + 1 ∧ w'.supply.workers = w.supply.workers + 1 := by
  cases p with
  | equip n goal c r made =>
    exact .inr ⟨r, Stage.resource?_obtained goal r, ⟨by rw [made], rfl⟩, by rw [made], rfl⟩
  | equipFail | cancel | abandon => left; simp [created?, Stage.resource?]
  | _ => exact .inl ⟨rfl, rfl, rfl⟩

theorem opened_nodup (run : Run role permits {} history s) : (opened history).Nodup := by
  have hn := run.tally_world (fun w => (List.range' 1 w.supply.connections : Multiset ℕ))
    (fun _ _ new => (new.bind Stage.attempt?).toList) numbered_empty
    (fun _ _ _ _ _ _ p => p.attempts)
  have ha := run.tally (fun _ st => (st.attempt?.toList : Multiset ℕ)) (fun _ => 0)
    (fun _ _ _ new => (new.bind Stage.attempt?).toList)
    (fun _ old a _ => ((opened? old a).toList : Multiset ℕ) + (failed? old a).toList) numbered_empty
    (fun n w old a w' new events p _ => by
      rw [elim_toList, elim_toList, p.attempt_ends]; abel)
  simp only [List.sum_map_add, sum_map_toList, System.total_empty, zero_add] at ha hn
  have hle : (opened history : Multiset ℕ) ≤ List.range' 1 s.world.supply.connections := by
    calc (opened history : Multiset ℕ)
        ≤ s.total (fun _ st => (st.attempt?.toList : Multiset ℕ)) + (opened history +
            (history.filterMap fun t => failed? t.old t.action : List ℕ)) :=
          (Multiset.le_add_right _ _).trans (Multiset.le_add_left _ _)
      _ = List.range' 1 s.world.supply.connections := by rw [opened, ha, hn]; simp
  exact Multiset.coe_nodup.mp (Multiset.nodup_of_le hle (Multiset.coe_nodup.mpr List.nodup_range'))

/-- Numbers of resources are distinct if each is the one after the last. -/
theorem created_numbers_nodup (number : Resource → ℕ) (last : World → ℕ) (zero : last {} = 0)
    (law : ∀ w (old : Option (Stage ι ω)) a w' new events, Passage role w old a w' new events →
      (created? old new = none ∧ last w' = last w) ∨
      ∃ r, created? old new = some r ∧ number r = last w + 1 ∧ last w' = last w + 1)
    (run : Run role permits {} history s) : ((created history).map number).Nodup := by
  have h := run.tally_world (fun w => (List.range' 1 (last w) : Multiset ℕ))
    (fun old _ new => ((created? old new).map number).toList) numbered_empty ?_
  · rw [sum_map_toList, ← List.map_filterMap, ← created] at h
    rw [← Multiset.coe_nodup]
    have h0 : (List.range' 1 (last ({} : System ι ω).world) : Multiset ℕ) = 0 := by
      rw [show last ({} : System ι ω).world = 0 from zero]
      rfl
    rw [h0, zero_add] at h
    rw [← h]
    exact Multiset.coe_nodup.mpr List.nodup_range'
  · intro w old a w' new events p
    rcases law w old a w' new events p with ⟨hc, hl⟩ | ⟨r, hc, hn, hl⟩
    · simp [hc, hl]
    · simp [hc, hn, hl, List.range'_1_concat, Nat.add_comm 1, ← Multiset.coe_add]

theorem created_ids_nodup (run : Run role permits {} history s) :
    ((created history).map (·.id)).Nodup := by
  have hn := created_numbers_nodup (fun r => r.id.number) (fun w => w.supply.resources) rfl
    (fun _ _ _ _ _ _ p => p.made.imp (fun h => ⟨h.1, h.2.1⟩)
      fun ⟨r, h, hr, _⟩ => ⟨r, h, hr⟩) run
  refine List.Nodup.of_map ResourceId.number ?_
  rw [List.map_map]
  exact hn

theorem created_workers_nodup (run : Run role permits {} history s) :
    ((created history).map (·.worker)).Nodup :=
  created_numbers_nodup (fun r => r.worker) (fun w => w.supply.workers) rfl
    (fun _ _ _ _ _ _ p => p.made.imp (fun h => ⟨h.1, h.2.2⟩)
      fun ⟨r, h, _, hr⟩ => ⟨r, h, hr⟩) run

/-- A turn of an orderly run leaves no call behind with what it had. -/
theorem Passage.orderly (p : Passage role w old a w' new events) (h : Orderly old a) :
    lost? old new = none := by
  cases p with
  | letGo n r => exact h.elim
  | cancel n stage awaited step =>
    obtain ⟨r, input, rfl⟩ : ∃ r input, stage = .processing r input := by
      cases stage <;> simp_all [Orderly, Stage.runs]
    exact absurd rfl (step r input)
  | abandon n stage awaited => exact h.elim
  | _ => rfl

theorem lost_of_orderly (run : Run role Orderly {} history s) : lost history = [] := by
  refine run.induction (P := fun history _ => lost history = []) numbered_empty rfl ?_
  intro history t left right _ _ permitted h ih
  have := h.passage.orderly permitted
  simp only [lost] at ih
  simp [lost, ih, this]

end Accounts

/-! ## One place for each connection -/

section Places

variable {role : Role} {permits : Option (Stage ι ω) → Action ι ω → Prop} {s : System ι ω}
  {history : List (Turn ι ω)}

/-- Two members that have the same thing, which the list has once, are the same. -/
theorem eq_of_nodup_filterMap {α β : Type} {f : α → Option β} {l : List α}
    (h : (l.filterMap f).Nodup) {a a' : α} (ha : a ∈ l) (ha' : a' ∈ l) {b : β} (hb : f a = some b)
    (hb' : f a' = some b) : a = a' := by
  induction l with
  | nil => simp at ha
  | cons x l ih =>
    have hmem : ∀ y ∈ l, f y = some b → b ∈ l.filterMap f := fun y hy he =>
      List.mem_filterMap.mpr ⟨y, hy, he⟩
    rcases List.mem_cons.mp ha with hx | hl <;> rcases List.mem_cons.mp ha' with hx' | hl'
    · rw [hx, hx']
    · rw [List.filterMap_cons_some (hx ▸ hb)] at h
      exact absurd (hmem _ hl' hb') (List.nodup_cons.mp h).1
    · rw [List.filterMap_cons_some (hx' ▸ hb')] at h
      exact absurd (hmem _ hl hb) (List.nodup_cons.mp h).1
    · exact ih (h.sublist ((List.sublist_cons_self x l).filterMap f)) hl hl'

/-- A map that gives more gives a longer list. -/
theorem filterMap_sublist {α β : Type} {f g : α → Option β}
    (h : ∀ a b, f a = some b → g a = some b) (l : List α) :
    (l.filterMap f).Sublist (l.filterMap g) := by
  induction l with
  | nil => exact .refl _
  | cons a l ih =>
    rw [List.filterMap_cons]
    cases hf : f a with
    | none => exact ih.trans ((List.sublist_cons_self a l).filterMap g)
    | some b =>
      rw [List.filterMap_cons_some (h a b hf)]
      exact ih.cons_cons b

theorem places_map_fst (history : List (Turn ι ω)) (s : System ι ω) :
    (places history s).map Prod.fst = s.calls.filterMap (·.2.connection?) ++
      s.world.pool.idle.map (·.connection) ++ (closed history).map Prod.fst := by
  simp [places, List.map_filterMap, Stage.place?_map_fst, Function.comp_def]

theorem places_resources (history : List (Turn ι ω)) (s : System ι ω) :
    (places history s).filterMap (·.2.resource?) = s.calls.filterMap (·.2.resource?) ++
      s.world.pool.idle ++ (closed history).filterMap (·.2.resource?) := by
  have hi : (s.world.pool.idle.map fun r => (r.connection, Place.idle r)).filterMap
      (·.2.resource?) = s.world.pool.idle := by
    rw [List.filterMap_map]
    exact List.filterMap_some
  rw [places, List.filterMap_append, List.filterMap_append, List.filterMap_filterMap, hi]
  simp only [Stage.place?_resource?]

/-- What a call has is in one of three kinds of places. -/
theorem Stage.place?_length (call : ℕ) (st : Stage ι ω) : (st.place? call).toList.length =
    (if st.builds then 1 else 0) + (if st.holds then 1 else 0) + (if st.closes then 1 else 0) := by
  cases st <;> rfl

theorem length_filterMap_place? (calls : List (ℕ × Stage ι ω)) :
    (calls.filterMap fun c => c.2.place? c.1).length = calls.countP (·.2.builds) +
      calls.countP (·.2.holds) + calls.countP (·.2.closes) := by
  induction calls with
  | nil => rfl
  | cons c calls ih =>
    have hc := c.2.place?_length c.1
    have hl : ((c :: calls).filterMap fun c => c.2.place? c.1).length =
        (c.2.place? c.1).toList.length + (calls.filterMap fun c => c.2.place? c.1).length := by
      rw [List.filterMap_cons]
      cases c.2.place? c.1 <;> simp [Nat.add_comm]
    rw [hl, hc, ih, List.countP_cons, List.countP_cons, List.countP_cons]
    omega

theorem places_perm_opened (run : Run role permits {} history s) (hl : lost history = []) :
    ((places history s).map Prod.fst).Perm (opened history) := by
  have h := connections_balanced run
  rw [hl, List.filterMap_nil, Multiset.coe_nil, add_zero] at h
  rw [← Multiset.coe_eq_coe, ← h, places_map_fst, ← Multiset.coe_add, ← Multiset.coe_add]
  abel

theorem places_resources_perm_created (run : Run role permits {} history s)
    (hl : lost history = []) :
    ((places history s).filterMap (·.2.resource?)).Perm (created history) := by
  have h := resources_balanced run
  rw [hl, List.filterMap_nil, Multiset.coe_nil, add_zero] at h
  rw [← Multiset.coe_eq_coe, ← h, places_resources, ← Multiset.coe_add, ← Multiset.coe_add]
  abel

theorem Stage.place?_of_resource? (call : ℕ) {st : Stage ι ω} {r : Resource}
    (h : st.resource? = some r) : ∃ place, st.place? call = some (r.connection, place) ∧
      place.resource? = some r ∧ (place = .held call r ∨ place = .closing call r) := by
  cases st <;> simp_all [Stage.resource?, Stage.place?, Place.resource?]

theorem place_of_call (history : List (Turn ι ω)) {c : ℕ × Stage ι ω} (hc : c ∈ s.calls)
    {r : Resource} (h : c.2.resource? = some r) :
    ∃ place, (r.connection, place) ∈ places history s ∧ place.resource? = some r ∧
      (place = .held c.1 r ∨ place = .closing c.1 r) := by
  obtain ⟨place, hp, hr, ho⟩ := Stage.place?_of_resource? c.1 h
  refine ⟨place, ?_, hr, ho⟩
  rw [places, List.append_assoc]
  exact List.mem_append_left _ (List.mem_filterMap.mpr ⟨c, hc, hp⟩)

theorem place_of_idle {r : Resource} (h : r ∈ s.world.pool.idle) :
    (r.connection, Place.idle r) ∈ places history s := by
  rw [places]
  exact List.mem_append_left _ (List.mem_append_right _ (List.mem_map.mpr ⟨r, h, rfl⟩))

theorem places_length (history : List (Turn ι ω)) (s : System ι ω) :
    (places history s).length = s.calls.countP (·.2.builds) + s.world.pool.idle.length +
      s.calls.countP (·.2.holds) + s.calls.countP (·.2.closes) + (closed history).length := by
  rw [places, List.length_append, List.length_append, length_filterMap_place?, List.length_map]
  omega

/-- No resource is idle twice, and none is closed twice. -/
theorem idle_closed_nodup (run : Run role permits {} history s) :
    (s.world.pool.idle.map (·.id)).Nodup ∧
      (((closed history).filterMap (·.2.resource?)).map (·.id)).Nodup := by
  have hn := Multiset.coe_nodup.mpr (created_ids_nodup run)
  rw [← Multiset.map_coe, ← resources_balanced run] at hn
  constructor
  · refine Multiset.coe_nodup.mp (Multiset.nodup_of_le ?_ hn)
    rw [← Multiset.map_coe]
    exact Multiset.map_le_map ((Multiset.le_add_right _ _).trans (Multiset.le_add_right _ _))
  · refine Multiset.coe_nodup.mp (Multiset.nodup_of_le ?_ hn)
    rw [← Multiset.map_coe]
    exact Multiset.map_le_map ((Multiset.le_add_right _ _).trans (Multiset.le_add_left _ _))

/-- Two places of one resource are one place. -/
theorem place_unique (run : Run role permits {} history s) (hl : lost history = [])
    {p q : ℕ × Place} (hp : p ∈ places history s) (hq : q ∈ places history s) {r r' : Resource}
    (hr : p.2.resource? = some r) (hr' : q.2.resource? = some r') (he : r.id = r'.id) : p = q := by
  have hn : ((places history s).filterMap fun p => p.2.resource?.map (·.id)).Nodup := by
    have := ((places_resources_perm_created run hl).map (·.id)).nodup_iff.mpr
      (created_ids_nodup run)
    rwa [List.map_filterMap] at this
  exact eq_of_nodup_filterMap hn hp hq (b := r.id) (by simp [hr]) (by simp [hr', he])

/-- Every connection that was made is in one place, and every resource has one place, which for a
    resource with a call is that of one call. -/
structure Accounted (history : List (Turn ι ω)) (s : System ι ω) : Prop where
  one_place : ∀ c ∈ opened history, ∃! place, (c, place) ∈ places history s
  place_nodup : (places history s).Nodup
  of_opened : ∀ p ∈ places history s, p.1 ∈ opened history
  one_resource : ∀ p ∈ places history s, ∀ q ∈ places history s, ∀ r r', p.2.resource? = some r →
    q.2.resource? = some r' → r.id = r'.id → p = q
  /-- No two calls hold or close one resource. -/
  one_call : ∀ c ∈ s.calls, ∀ c' ∈ s.calls, ∀ r r', c.2.resource? = some r →
    c'.2.resource? = some r' → r.id = r'.id → c = c'
  idle_nodup : (s.world.pool.idle.map (·.id)).Nodup
  /-- What is idle is not held, closing or closed. -/
  idle_apart : ∀ r ∈ s.world.pool.idle, ∀ p ∈ places history s, ∀ r', p.2.resource? = some r' →
    r'.id = r.id → p.2 = .idle r
  count : (opened history).length = s.calls.countP (·.2.builds) + s.world.pool.idle.length +
    s.calls.countP (·.2.holds) + s.calls.countP (·.2.closes) + (closed history).length

/-- In orderly runs every connection that was made is in exactly one place. -/
theorem connection_in_one_place (run : Run role Orderly {} history s) : Accounted history s := by
  have hl := lost_of_orderly run
  have hperm := places_perm_opened run hl
  have hn : ((places history s).map Prod.fst).Nodup := hperm.nodup_iff.mpr (opened_nodup run)
  constructor
  case one_place =>
    intro c hc
    obtain ⟨⟨c', place⟩, hm, rfl⟩ := List.mem_map.mp (hperm.mem_iff.mpr hc)
    refine ⟨place, hm, fun place' hm' => ?_⟩
    exact congrArg Prod.snd (List.inj_on_of_nodup_map hn hm' hm rfl)
  case place_nodup => exact hn.of_map
  case of_opened => exact fun p hp => hperm.mem_iff.mp (List.mem_map.mpr ⟨p, hp, rfl⟩)
  case one_resource => exact fun p hp q hq r r' hr hr' he => place_unique run hl hp hq hr hr' he
  case one_call =>
    intro c hc c' hc' r r' hr hr' he
    obtain ⟨place, hp, hpr, ho⟩ := place_of_call history hc hr
    obtain ⟨place', hp', hpr', ho'⟩ := place_of_call history hc' hr'
    have := congrArg Prod.snd (place_unique run hl hp hp' hpr hpr' he)
    have hcall : c.1 = c'.1 := by
      rcases ho with rfl | rfl <;> rcases ho' with rfl | rfl <;> simp_all
    exact List.inj_on_of_nodup_map (run.numbered numbered_empty).nodup hc hc' hcall
  case idle_nodup => exact (idle_closed_nodup run).1
  case idle_apart =>
    intro r hi p hp r' hr' he
    exact congrArg Prod.snd (place_unique run hl hp (place_of_idle hi) hr' rfl he)
  case count => rw [← hperm.length_eq, List.length_map, places_length]

/-- One caller takes over what another gave back and goes away while its step runs. A third one
    finds nothing idle, and its connection gets no worker. -/
def takeover : List (Action Unit Unit) :=
  [.start (.acquire (.trigger ())), .proceed 1, .proceed 1, .resume 1 (.connected (.ok ())),
    .resume 1 (.equipped (.ok ())), .resume 1 (.processed (.ok ())), .proceed 1,
    .start (.acquire .acquire), .proceed 2, .proceed 2, .run 2 (), .cancel 2,
    .start (.acquire .acquire), .proceed 3, .proceed 3, .resume 3 (.connected (.ok ())),
    .resume 3 (.equipped (.error ⟨"gone", []⟩)), .resume 2 (.closed (.ok ()))]

theorem connection_in_one_place_takeover : ∃ history s,
    System.turns ⟨"broker", "step"⟩ {} takeover = some (history, s) ∧
      places history s = [(1, .closing 2 ⟨⟨1⟩, 1, 1⟩), (2, .building 3)] ∧
      Accounted history s := by
  have h : System.turns ⟨"broker", "step"⟩ {} takeover = some (_, _) := rfl
  exact ⟨_, _, h, rfl, connection_in_one_place (Run.of_turns h (by decide))⟩

end Places

end BrokerPool.Lifecycle
