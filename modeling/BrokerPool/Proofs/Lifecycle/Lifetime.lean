import BrokerPool.Proofs.Lifecycle.Ownership

/-!
# The life of a resource

Once a resource is made, its worker and its connection are called in a fixed order: steps that
succeed, at most one that does not, the close of the worker, and the close of the connection. The
order does not depend on who holds the resource and what else happens. It is kept turn by turn:
where the resource is tells how far its life has got (`Living`).

Results:
* `created_connections_nodup`, `Run.owned_nodup`: no two resources have one connection, and no
  resource is in two places.
* `Passage.own`: what a turn of the call with the resource adds to its life.
* `touches_in_order`: the life of every resource, in every run whatever.
-/

namespace BrokerPool.Lifecycle

variable {ι ω : Type}

/-! ## What happens to a worker and a connection -/

/-- What happens to the worker or the connection of a resource: calls to them, and ends of steps. -/
inductive Touch
  | begun
  | succeeded
  | failed
  /-- The caller went away while the step ran. -/
  | dropped
  | workerClose
  | connectionClose
deriving DecidableEq, Repr

/-- The end of a step on the worker. -/
def ended (r : Resource) : Option (Stage ι ω) → Action ι ω → List Touch
  | some (.processing r' _), .resume _ (.processed (.ok _)) =>
    if r'.worker = r.worker then [.succeeded] else []
  | some (.processing r' _), .resume _ (.processed (.error _)) =>
    if r'.worker = r.worker then [.failed] else []
  | some (.processing r' _), .cancel _ | some (.processing r' _), .abandon _ =>
    if r'.worker = r.worker then [.dropped] else []
  | _, _ => []

/-- The call that a request makes to the worker or the connection. -/
def asked (r : Resource) : Request ι → List Touch
  | .process r' _ => if r'.worker = r.worker then [.begun] else []
  | .closeWorker r' => if r'.worker = r.worker then [.workerClose] else []
  | .closeConnection c => if c = r.connection then [.connectionClose] else []
  | _ => []

/-- What a turn does to a resource. -/
def touch (r : Resource) (old : Option (Stage ι ω)) (a : Action ι ω) (new : Option (Stage ι ω)) :
    List Touch :=
  ended r old a ++ (new.bind Stage.request?).elim [] (asked r)

/-- What happens to a resource over a number of turns. -/
def touches (r : Resource) (history : List (Turn ι ω)) : List Touch :=
  history.flatMap fun t => touch r t.old t.action t.new

/-! ## How far a life has got -/

/-- Steps that have succeeded. -/
def steps (n : ℕ) : List Touch := (List.replicate n [Touch.begun, .succeeded]).flatten

/-- The last step of a resource, if it has not succeeded. -/
def lastSteps : List (List Touch) := [[], [.begun, .failed], [.begun, .dropped]]

/-- The whole life of a resource, and every part of it from the beginning. -/
def Lives (word : List Touch) : Prop :=
  ∃ n, ∃ last ∈ lastSteps, word <+: steps n ++ last ++ [.workerClose, .connectionClose]

/-- Nothing but steps that have succeeded. -/
def Ready (word : List Touch) : Prop := ∃ n, word = steps n

/-- What has happened to a resource that a call has. -/
def Fits (word : List Touch) : Stage ι ω → Prop
  | .processing _ _ => ∃ n, word = steps n ++ [.begun]
  | .closingWorker _ _ => ∃ n, ∃ last ∈ lastSteps, word = steps n ++ last ++ [.workerClose]
  | .closingConnection _ _ _ =>
    ∃ n, ∃ last ∈ lastSteps, word = steps n ++ last ++ [.workerClose, .connectionClose]
  | _ => Ready word

theorem steps_succ (n : ℕ) : steps (n + 1) = steps n ++ [.begun, .succeeded] := by
  simp [steps, List.replicate_succ']

theorem Ready.lives {word : List Touch} (h : Ready word) : Lives word := by
  obtain ⟨n, rfl⟩ := h
  exact ⟨n, [], by simp [lastSteps], by simp⟩

theorem Fits.lives {word : List Touch} {st : Stage ι ω} (h : Fits word st) : Lives word := by
  cases st with
  | processing r input =>
    obtain ⟨n, rfl⟩ := h
    exact ⟨n, [.begun, .failed], by simp [lastSteps], by simp⟩
  | closingWorker r purpose =>
    obtain ⟨n, last, hl, rfl⟩ := h
    exact ⟨n, last, hl, by simp⟩
  | closingConnection r worker purpose =>
    obtain ⟨n, last, hl, rfl⟩ := h
    exact ⟨n, last, hl, List.prefix_rfl⟩
  | _ => exact Ready.lives h

/-! ## What one turn adds -/

section Turns

variable {role : Role} {w w' : World} {old new : Option (Stage ι ω)} {a : Action ι ω}
  {events : List Event} {r : Resource} {word : List Touch}

@[simp] theorem Stage.request?_settled (r : Resource) (failure : Option CloseError)
    (purpose : Purpose ω) : (settled r failure purpose : Stage ι ω × _).1.request? = none := by
  cases purpose <;> cases failure <;> rfl

/-- How far a life has got, as the pool and one call tell. -/
structure Told (r : Resource) (word : List Touch) (w : World) (st : Option (Stage ι ω)) : Prop where
  lives : Lives word
  idle : r ∈ w.pool.idle → Ready word
  call : ∀ st', st = some st' → st'.resource? = some r → Fits word st'

theorem Fits.told {st : Stage ι ω} (h : Fits word st) (hi : r ∉ w.pool.idle) :
    Told r word w (some st) :=
  ⟨h.lives, fun hr => absurd hr hi, fun _ hst _ => Option.some.inj hst ▸ h⟩

theorem Lives.told {st : Option (Stage ι ω)} (h : Lives word) (hi : r ∉ w.pool.idle)
    (hs : st.bind Stage.resource? = none) : Told r word w st :=
  ⟨h, fun hr => absurd hr hi, fun st' hst hr => by simp [hst, hr] at hs⟩

theorem Ready.told {st : Option (Stage ι ω)} (h : Ready word)
    (hs : st.bind Stage.resource? = none) : Told r word w st :=
  ⟨h.lives, fun _ => h, fun st' hst hr => by simp [hst, hr] at hs⟩

/-- A call that gets a resource begins a step on it, or leaves it alone. -/
theorem fits_obtained (goal : Goal ι) (r : Resource) (h : Ready word) :
    Fits (word ++ (Stage.obtained goal r : Stage ι ω).request?.elim [] (asked r))
      (Stage.obtained goal r : Stage ι ω) := by
  obtain ⟨n, rfl⟩ := h
  cases goal with
  | trigger input => exact ⟨n, by simp [Stage.obtained, Stage.request?, asked]⟩
  | acquire => exact ⟨n, by simp [Stage.obtained, Stage.request?]⟩

/-- A step that runs and does not succeed is the last one. -/
theorem Fits.lives_dropped {input : ι} (h : Fits word (.processing r input : Stage ι ω)) :
    Lives (word ++ [.dropped]) := by
  obtain ⟨n, rfl⟩ := h
  exact ⟨n, [.begun, .dropped], by simp [lastSteps], by simp⟩

/-- What a turn of the call with the resource adds to the life of the resource. -/
theorem Passage.own {st : Stage ι ω} (p : Passage role w (some st) a w' new events)
    (hr : st.resource? = some r) (hf : Fits word st) (hi : r ∉ w.pool.idle) :
    Told r (word ++ touch r (some st) a new) w' new := by
  cases p with
  | succeed =>
    obtain rfl := Option.some.inj hr
    obtain ⟨n, rfl⟩ := hf
    refine Fits.told ⟨n + 1, ?_⟩ hi
    simp [touch, ended, Stage.request?, steps_succ]
  | fail =>
    obtain rfl := Option.some.inj hr
    obtain ⟨n, rfl⟩ := hf
    refine Fits.told ⟨n, [.begun, .failed], by simp [lastSteps], ?_⟩ hi
    simp [touch, ended, Stage.request?, asked]
  | rescue =>
    obtain rfl := Option.some.inj hr
    obtain ⟨n, rfl⟩ := hf
    refine Fits.told ⟨n, [.begun, .dropped], by simp [lastSteps], ?_⟩ hi
    simp [touch, ended, Stage.request?, asked]
  | giveBack =>
    refine Ready.told ?_ rfl
    simpa [touch, ended, Stage.request?, Fits] using hf
  | turnAway | discard =>
    obtain rfl := Option.some.inj hr
    obtain ⟨n, rfl⟩ := hf
    refine Fits.told ⟨n, [], by simp [lastSteps], ?_⟩ hi
    simp [touch, ended, Stage.request?, asked]
  | use =>
    obtain rfl := Option.some.inj hr
    obtain ⟨n, rfl⟩ := hf
    refine Fits.told ⟨n, ?_⟩ hi
    simp [touch, ended, Stage.request?, asked]
  | workerClosed =>
    obtain rfl := Option.some.inj hr
    obtain ⟨n, last, hl, rfl⟩ := hf
    refine Fits.told ⟨n, last, hl, ?_⟩ hi
    simp [touch, ended, Stage.request?, asked]
  | connectionClosed =>
    refine Lives.told ?_ hi (by simp)
    rw [touch, Option.bind_some, Stage.request?_settled]
    simpa [ended] using hf.lives
  | letGo =>
    refine Lives.told ?_ hi rfl
    simpa [touch, ended] using hf.lives
  | cancel n stage awaited step =>
    refine Lives.told ?_ hi rfl
    have he : ended r (some st) (.cancel n) = [] := by
      cases st with
      | processing r' input => exact absurd rfl (step r' input)
      | _ => rfl
    simpa [touch, he] using hf.lives
  | abandon n stage awaited =>
    refine Lives.told ?_ hi rfl
    cases st with
    | processing r' input =>
      obtain rfl := Option.some.inj hr
      simpa [touch, ended] using hf.lives_dropped
    | _ => simpa [touch, ended] using hf.lives
  | _ => simp [Stage.resource?] at hr

/-- A call gets a resource that it did not have out of the pool, or makes it. -/
theorem Passage.gains (p : Passage role w old a w' new events) {st : Stage ι ω}
    (hnew : new = some st) (hr : st.resource? = some r)
    (hold : old.bind Stage.resource? ≠ some r) :
    (r ∈ w.pool.idle ∨ created? old new = some r) ∧
      ∀ word, Ready word → Fits (word ++ touch r old a new) st := by
  cases p with
  | reuse n goal r' rest idle =>
    obtain rfl := Option.some.inj hnew
    obtain rfl : r' = r := by simpa using hr
    refine ⟨.inl (by simp [idle]), fun _ hw => ?_⟩
    simpa [touch, ended] using fits_obtained goal r' hw
  | equip n goal c r' made =>
    obtain rfl := Option.some.inj hnew
    obtain rfl : r' = r := by simpa using hr
    refine ⟨.inr hr, fun _ hw => ?_⟩
    simpa [touch, ended] using fits_obtained goal r' hw
  | drain n summary r' rest idle =>
    obtain rfl := Option.some.inj hnew
    obtain rfl := Option.some.inj hr
    refine ⟨.inl (by simp [idle]), fun _ ⟨n, hw⟩ => ⟨n, [], by simp [lastSteps], ?_⟩⟩
    simp [hw, touch, ended, Stage.request?, asked]
  | connectionClosed n r' worker purpose result =>
    obtain rfl := Option.some.inj hnew
    simp at hr
  | letGo | cancel | abandon => simp at hnew
  | _ =>
    obtain rfl := Option.some.inj hnew
    first | exact absurd hr hold | simp [Stage.resource?] at hr

/-- When the close of the worker is answered, the connection is closed, whatever the answer is. -/
theorem Passage.worker_closed {purpose : Purpose ω} {n : ℕ} {result : Except Fault Unit}
    (p : Passage role w (some (.closingWorker r purpose)) (.resume n (.closed result)) w' new
      events) : new.bind Stage.request? = some (.closeConnection r.connection) := by
  cases p with
  | workerClosed n r purpose result => rfl

/-- A resource that gets into the pool was with the call that moves. -/
theorem Passage.idle_gains (p : Passage role w old a w' new events) (hr : r ∈ w'.pool.idle) :
    r ∈ w.pool.idle ∨ old.bind Stage.resource? = some r := by
  cases p with
  | reuse n goal r' rest idle => exact .inl (idle ▸ List.mem_cons_of_mem _ hr)
  | drain n summary r' rest idle => exact .inl (idle ▸ List.mem_cons_of_mem _ hr)
  | giveBack n r' output opened =>
    rcases List.mem_cons.mp hr with rfl | hr
    · exact .inr rfl
    · exact .inl hr
  | _ => exact .inl hr

/-- The connection that a call has without a resource around it. -/
def Stage.bare? : Stage ι ω → Option ℕ
  | .equipping _ c | .unwinding c _ => some c
  | _ => none

@[simp] theorem Stage.bare?_obtained (goal : Goal ι) (r : Resource) :
    (obtained goal r : Stage ι ω).bare? = none := by cases goal <;> rfl

@[simp] theorem Stage.bare?_settled (r : Resource) (failure : Option CloseError)
    (purpose : Purpose ω) : (settled r failure purpose : Stage ι ω × _).1.bare? = none := by
  cases purpose <;> cases failure <;> rfl

/-- A turn of a call with another resource, or with none, does nothing to a resource. -/
theorem touch_stranger
    (hold : ∀ r', old.bind Stage.resource? = some r' → r'.worker ≠ r.worker)
    (hnew : ∀ r', new.bind Stage.resource? = some r' →
      r'.worker ≠ r.worker ∧ r'.connection ≠ r.connection)
    (hbare : ∀ c, new.bind Stage.bare? = some c → c ≠ r.connection) : touch r old a new = [] := by
  have he : ended r old a = [] := by
    unfold ended
    split <;> first | rfl | exact if_neg (hold _ rfl)
  have ha : (new.bind Stage.request?).elim [] (asked r) = [] := by
    cases new with
    | none => rfl
    | some st =>
      cases st with
      | unwinding c cause => exact if_neg (hbare c rfl)
      | processing r' input => exact if_neg (hnew r' rfl).1
      | closingWorker r' purpose => exact if_neg (hnew r' rfl).1
      | closingConnection r' worker purpose => exact if_neg (hnew r' rfl).2
      | _ => rfl
  rw [touch, he, ha, List.append_nil]

/-! ## Connections become part of one resource -/

/-- The bare connection that is not made part of a resource any more. -/
def wasted? (old new : Option (Stage ι ω)) : Option ℕ :=
  if (new.bind Stage.bare?).isSome || (created? old new).isSome then none
  else old.bind Stage.bare?

theorem Passage.bare (p : Passage role w old a w' new events) :
    ((new.bind Stage.bare?).toList : Multiset ℕ) +
        (((created? old new).map (·.connection)).toList + (wasted? old new).toList) =
      (old.bind Stage.bare?).toList + (opened? old a).toList := by
  cases p with
  | reuse n goal r rest idle =>
    rw [wasted?, Option.bind_some, Stage.bare?_obtained]
    simp [created?, opened?, Stage.bare?]
  | equip n goal c r made =>
    have hc : created? (some (.equipping goal c : Stage ι ω)) (some (.obtained goal r)) = some r :=
      Stage.resource?_obtained goal r
    rw [wasted?, Option.bind_some, Stage.bare?_obtained, hc]
    simp [made, opened?, Stage.bare?]
  | connectionClosed n r worker purpose result =>
    rw [wasted?, Option.bind_some, Stage.bare?_settled]
    simp [created?, opened?, Stage.bare?]
  | _ => simp [wasted?, created?, opened?, Stage.bare?, Stage.resource?]

end Turns

section Runs

variable {role : Role} {permits : Option (Stage ι ω) → Action ι ω → Prop} {s : System ι ω}
  {history : List (Turn ι ω)}

/-- Every connection is bare with one call, or part of one resource, or wasted. -/
theorem bare_balanced (run : Run role permits {} history s) :
    (s.calls.filterMap (·.2.bare?) : Multiset ℕ) +
      (((created history).map (·.connection) : List ℕ) +
        (history.filterMap fun t => wasted? t.old t.new : List ℕ)) = (opened history : List ℕ) := by
  have h := run.tally (fun _ st => (st.bare?.toList : Multiset ℕ)) (fun _ => 0)
    (fun _ old a _ => (opened? old a).toList)
    (fun _ old _ new => (((created? old new).map (·.connection)).toList : Multiset ℕ) +
      (wasted? old new).toList) numbered_empty fun n w old a w' new events p _ => by
        rw [elim_toList, elim_toList, zero_add, zero_add]
        exact p.bare
  simp only [List.sum_map_add, System.total, sum_map_toList] at h
  simpa [created, opened, List.map_filterMap] using h

theorem bare_created_nodup (run : Run role permits {} history s) :
    (s.calls.filterMap (·.2.bare?) ++ (created history).map (·.connection)).Nodup := by
  refine Multiset.coe_nodup.mp (Multiset.nodup_of_le ?_ (Multiset.coe_nodup.mpr (opened_nodup run)))
  rw [← bare_balanced run, ← Multiset.coe_add]
  exact add_le_add_right (Multiset.le_add_right _ _) _

/-- No resource is idle and with a call, or with two calls. -/
theorem owned_nodup (run : Run role permits {} history s) :
    (s.world.pool.idle ++ s.calls.filterMap (·.2.resource?)).Nodup := by
  have hn := Multiset.coe_nodup.mpr (created_ids_nodup run).of_map
  rw [← resources_balanced run] at hn
  exact Multiset.coe_nodup.mp (Multiset.nodup_of_le (Multiset.le_add_right _ _) hn)

theorem created_of_owned (run : Run role permits {} history s) {r : Resource}
    (h : r ∈ s.world.pool.idle ++ s.calls.filterMap (·.2.resource?)) : r ∈ created history := by
  rw [← Multiset.mem_coe, ← resources_balanced run]
  exact Multiset.mem_add.mpr (.inl h)

theorem created_snoc (history : List (Turn ι ω)) (t : Turn ι ω) :
    created (history ++ [t]) = created history ++ (created? t.old t.new).toList := by
  rw [created, List.filterMap_append, ← created]
  cases h : created? t.old t.new <;> simp [h]

theorem one_owner (run : Run role permits {} history s) {c c' : ℕ × Stage ι ω} (hc : c ∈ s.calls)
    (hc' : c' ∈ s.calls) {r : Resource} (h : c.2.resource? = some r)
    (h' : c'.2.resource? = some r) : c = c' :=
  eq_of_nodup_filterMap (List.nodup_append.mp (owned_nodup run)).2.1 hc hc' h h'

theorem not_idle_of_owner (run : Run role permits {} history s) {c : ℕ × Stage ι ω}
    (hc : c ∈ s.calls) {r : Resource} (h : c.2.resource? = some r) : r ∉ s.world.pool.idle :=
  fun hi => (List.nodup_append.mp (owned_nodup run)).2.2 r hi r
    (List.mem_filterMap.mpr ⟨c, hc, h⟩) rfl

/-! ## The life of a resource over a run -/

/-- How far the life of a resource has got: where the resource is tells what has happened to it. -/
structure Living (r : Resource) (word : List Touch) (s : System ι ω) : Prop where
  lives : Lives word
  idle : r ∈ s.world.pool.idle → Ready word
  call : ∀ c ∈ s.calls, c.2.resource? = some r → Fits word c.2

variable {t : Turn ι ω} {left right : List (ℕ × Stage ι ω)} {r : Resource} {word : List Touch}

theorem Told.living (h : Told r word t.after.world t.new) (ha : t.Around role left right)
    (others : ∀ c ∈ left ++ right, c.2.resource? = some r → Fits word c.2) :
    Living r word t.after := by
  refine ⟨h.lives, h.idle, fun c hc hr => ?_⟩
  rcases ha.mem_after.mp hc with hc | ⟨st, hst, rfl⟩
  · exact others c hc hr
  · exact h.call st hst hr

/-- A turn of a call without the resource, before and after it, does nothing to the resource. -/
theorem touch_of_others (before : Run role permits {} history t.before)
    (after : Run role permits {} (history ++ [t]) t.after) (ha : t.Around role left right)
    (made : r ∈ created history) (hold : t.old.bind Stage.resource? ≠ some r)
    (hnew : t.new.bind Stage.resource? ≠ some r) : touch r t.old t.action t.new = [] := by
  have hmade : r ∈ created (history ++ [t]) := by
    rw [created_snoc]
    exact List.mem_append_left _ made
  have hcreated := (List.nodup_append.mp (bare_created_nodup after)).2.1
  refine touch_stranger (fun r' hr' hw => ?_) (fun r' hr' => ?_) (fun c hc he => ?_)
  · obtain ⟨st, hst, hr'⟩ := Option.bind_eq_some_iff.mp hr'
    have hm : r' ∈ created history := created_of_owned before (List.mem_append_right _
      (List.mem_filterMap.mpr ⟨(t.call, st), ha.mem_before.mpr (.inr ⟨st, hst, rfl⟩), hr'⟩))
    obtain rfl := List.inj_on_of_nodup_map (created_workers_nodup before) hm made hw
    exact hold (by rw [hst, Option.bind_some, hr'])
  · obtain ⟨st, hst, hr''⟩ := Option.bind_eq_some_iff.mp hr'
    have hm : r' ∈ created (history ++ [t]) := created_of_owned after (List.mem_append_right _
      (List.mem_filterMap.mpr ⟨(t.call, st), ha.mem_after.mpr (.inr ⟨st, hst, rfl⟩), hr''⟩))
    constructor
    · intro hw
      obtain rfl := List.inj_on_of_nodup_map (created_workers_nodup after) hm hmade hw
      exact hnew hr'
    · intro hw
      obtain rfl := List.inj_on_of_nodup_map hcreated hm hmade hw
      exact hnew hr'
  · obtain ⟨st, hst, hb⟩ := Option.bind_eq_some_iff.mp hc
    refine (List.nodup_append.mp (bare_created_nodup after)).2.2 c
      (List.mem_filterMap.mpr ⟨(t.call, st), ha.mem_after.mpr (.inr ⟨st, hst, rfl⟩), hb⟩) c ?_ rfl
    exact List.mem_map.mpr ⟨r, hmade, he.symm⟩

/-- Every turn keeps the order in the life of a resource that is made. -/
theorem Living.turn (before : Run role permits {} history t.before)
    (after : Run role permits {} (history ++ [t]) t.after) (ha : t.Around role left right)
    (made : r ∈ created history) (h : Living r word t.before) :
    Living r (word ++ touch r t.old t.action t.new) t.after := by
  by_cases hold : t.old.bind Stage.resource? = some r
  · -- The call that moves has the resource, and no other call can have it.
    obtain ⟨st, hst, hr⟩ := Option.bind_eq_some_iff.mp hold
    have hc : (t.call, st) ∈ t.before.calls := ha.mem_before.mpr (.inr ⟨st, hst, rfl⟩)
    have passage := ha.passage
    rw [hst] at passage ⊢
    refine (passage.own hr (h.call _ hc hr) (not_idle_of_owner before hc hr)).living ha ?_
    intro c hm hr'
    obtain rfl := one_owner before (ha.mem_before.mpr (.inl hm)) hc hr' hr
    exact absurd rfl (ha.others _ hm)
  by_cases hnew : t.new.bind Stage.resource? = some r
  · -- The call that moves has got the resource out of the pool.
    obtain ⟨st, hst, hr⟩ := Option.bind_eq_some_iff.mp hnew
    have hc : (t.call, st) ∈ t.after.calls := ha.mem_after.mpr (.inr ⟨st, hst, rfl⟩)
    obtain ⟨hi, hf⟩ := ha.passage.gains hst hr hold
    have hidle : r ∈ t.before.world.pool.idle := by
      refine hi.resolve_right fun hcr => ?_
      have hn := (created_ids_nodup after).of_map
      rw [created_snoc, hcr] at hn
      exact (List.nodup_append.mp hn).2.2 r made r (by simp) rfl
    rw [hst]
    refine Told.living ?_ ha ?_
    · rw [hst]
      exact Fits.told (hst ▸ hf word (h.idle hidle)) (not_idle_of_owner after hc hr)
    · intro c hm hr'
      obtain rfl := one_owner after (ha.mem_after.mpr (.inl hm)) hc hr' hr
      exact absurd rfl (ha.others _ hm)
  · rw [touch_of_others before after ha made hold hnew, List.append_nil]
    refine ⟨h.lives, fun hi => h.idle ((ha.passage.idle_gains hi).resolve_right hold), ?_⟩
    intro c hm hr
    rcases ha.mem_after.mp hm with hm | ⟨st, hst, rfl⟩
    · exact h.call c (ha.mem_before.mpr (.inl hm)) hr
    · exact absurd (by rw [hst, Option.bind_some, hr]) hnew

theorem created?_eq_some {old new : Option (Stage ι ω)} (h : created? old new = some r) :
    (∃ goal c, old = some (.equipping goal c)) ∧ ∃ st, new = some st ∧ st.resource? = some r := by
  unfold created? at h
  split at h
  · exact ⟨⟨_, _, rfl⟩, _, rfl, h⟩
  · simp at h

/-- A resource begins its life with the call that made it. -/
theorem Living.begin (after : Run role permits {} (history ++ [t]) t.after)
    (ha : t.Around role left right) (made : created? t.old t.new = some r) :
    Living r (touch r t.old t.action t.new) t.after := by
  obtain ⟨⟨goal, c, hold⟩, st, hst, hr⟩ := created?_eq_some made
  have hc : (t.call, st) ∈ t.after.calls := ha.mem_after.mpr (.inr ⟨st, hst, rfl⟩)
  obtain ⟨-, hf⟩ := ha.passage.gains hst hr (by simp [hold, Stage.resource?])
  have hfits : Fits (touch r t.old t.action t.new) st := hf [] ⟨0, rfl⟩
  refine Told.living ?_ ha ?_
  · rw [hst] at hfits ⊢
    exact hfits.told (not_idle_of_owner after hc hr)
  · intro c hm hr'
    obtain rfl := one_owner after (ha.mem_after.mpr (.inl hm)) hc hr' hr
    exact absurd rfl (ha.others _ hm)

/-- The life of every resource that is made in a run, from the turn that makes it. -/
theorem living {earlier later : List (Turn ι ω)}
    (run : Run role permits {} (earlier ++ t :: later) s) (made : created? t.old t.new = some r) :
    Living r (touches r (t :: later)) s := by
  obtain ⟨before, through, -, ⟨left, right, ha⟩, after⟩ := run.split numbered_empty
  have hmade : r ∈ created (earlier ++ [t]) := by
    rw [created_snoc, made]
    simp
  refine after.induction (P := fun later s => Living r (touches r (t :: later)) s)
    (through.numbered numbered_empty) ?_ ?_
  · simpa [touches] using Living.begin through ha made
  · intro later t' left right first second _ ha ih
    have h := ih.turn (through.append first) (by simpa using through.append second) ha
      (by rw [created, List.filterMap_append]; exact List.mem_append_left _ hmade)
    simpa [touches] using h

end Runs

/-! ## What a life is like -/

section Words

variable {word : List Touch}

theorem mem_steps {n : ℕ} {x : Touch} (h : x ∈ steps n) : x = .begun ∨ x = .succeeded := by
  obtain ⟨l, hl, hx⟩ := List.mem_flatten.mp h
  rw [(List.mem_replicate.mp hl).2] at hx
  simpa using hx

/-- What is behind the steps: at most one step without success, and the closes. -/
theorem mem_lastSteps {last : List Touch} (h : last ∈ lastSteps) {x : Touch} (hx : x ∈ last) :
    x = .begun ∨ x = .failed ∨ x = .dropped := by
  simp only [lastSteps, List.mem_cons, List.not_mem_nil, or_false] at h
  rcases h with rfl | rfl | rfl <;> simp at hx <;> tauto

theorem Lives.closed_once (h : Lives word) :
    word.count .workerClose ≤ 1 ∧ word.count .connectionClose ≤ 1 := by
  obtain ⟨n, last, hl, hp⟩ := h
  have hno : ∀ x, x = Touch.workerClose ∨ x = .connectionClose → (steps n ++ last).count x = 0 := by
    intro x hx
    rw [List.count_eq_zero, List.mem_append]
    rintro (hm | hm)
    · rcases mem_steps hm with rfl | rfl <;> simp at hx
    · rcases mem_lastSteps hl hm with rfl | rfl | rfl <;> simp at hx
  constructor
  · refine (hp.sublist.count_le _).trans ?_
    rw [List.count_append, hno _ (.inl rfl)]
    decide
  · refine (hp.sublist.count_le _).trans ?_
    rw [List.count_append, hno _ (.inr rfl)]
    decide

/-- Nothing is begun behind a step without success. -/
theorem Lives.never_again (h : Lives word) :
    word.Pairwise fun x y => x = .failed ∨ x = .dropped → y ≠ .begun := by
  obtain ⟨n, last, hl, hp⟩ := h
  refine List.Pairwise.sublist hp.sublist ?_
  rw [List.append_assoc, List.pairwise_append]
  refine ⟨List.pairwise_of_forall_mem_list fun x hx y _ h => ?_, ?_, fun x hx y _ h => ?_⟩
  · rcases mem_steps hx with rfl | rfl <;> simp at h
  · simp only [lastSteps, List.mem_cons, List.not_mem_nil, or_false] at hl
    rcases hl with rfl | rfl | rfl <;> decide
  · rcases mem_steps hx with rfl | rfl <;> simp at h

/-- The connection is closed last, behind the worker. -/
theorem Lives.worker_first (h : Lives word) {front rest : List Touch}
    (he : word = front ++ .connectionClose :: rest) : .workerClose ∈ front ∧ rest = [] := by
  obtain ⟨n, last, hl, tail, hp⟩ := h
  have hno : Touch.connectionClose ∉ steps n ++ last ++ [.workerClose] := by
    simp only [List.mem_append, List.mem_singleton, reduceCtorEq, or_false]
    rintro (hm | hm)
    · rcases mem_steps hm with h | h <;> simp at h
    · rcases mem_lastSteps hl hm with h | h | h <;> simp at h
  rw [he, show steps n ++ last ++ [Touch.workerClose, .connectionClose] =
    (steps n ++ last ++ [.workerClose]) ++ [.connectionClose] by simp, List.append_assoc,
    List.cons_append] at hp
  rcases List.eq_nil_or_concat (rest ++ tail) with hn | ⟨ys, y, hy⟩
  · rw [hn] at hp
    rw [(List.append_inj' hp rfl).1]
    exact ⟨by simp, (List.append_eq_nil_iff.mp hn).1⟩
  · rw [hy, List.concat_eq_append, ← List.cons_append, ← List.append_assoc] at hp
    rw [← (List.append_inj' hp rfl).1] at hno
    simp at hno

end Words

/-- What holds of the life of a resource from the turn that makes it. -/
structure Lifetime (r : Resource) (turns : List (Turn ι ω)) (s : System ι ω) : Prop where
  /-- Steps that succeed, at most one that does not, the close of the worker, and the close of the
      connection, as far as the life has got. -/
  order : ∃ n, ∃ last ∈ [[], [Touch.begun, .failed], [.begun, .dropped]], touches r turns <+:
    (List.replicate n [Touch.begun, .succeeded]).flatten ++ last ++ [.workerClose, .connectionClose]
  worker_first : ∀ front rest, touches r turns = front ++ .connectionClose :: rest →
    .workerClose ∈ front ∧ rest = []
  /-- The connection is closed next, however the close of the worker has turned out. -/
  both_closed : ∀ u ∈ turns, ∀ purpose n result, u.old = some (.closingWorker r purpose) →
    u.action = .resume n (.closed result) → u.asked = some (.closeConnection r.connection)
  /-- A resource whose step has not succeeded gets no other step, -/
  never_again : (touches r turns).Pairwise fun x y => x = .failed ∨ x = .dropped → y ≠ .begun
  /-- and is not in the pool again. -/
  not_pooled : .failed ∈ touches r turns ∨ .dropped ∈ touches r turns → r ∉ s.world.pool.idle
  closed_once : (touches r turns).count .workerClose ≤ 1 ∧
    (touches r turns).count .connectionClose ≤ 1

theorem Ready.succeeds {word : List Touch} (h : Ready word) :
    .failed ∉ word ∧ .dropped ∉ word := by
  obtain ⟨n, rfl⟩ := h
  constructor <;> intro hm <;> rcases mem_steps hm with h | h <;> simp at h

/-- The life of every resource, in every run whatever. -/
theorem touches_in_order {role : Role} {permits : Option (Stage ι ω) → Action ι ω → Prop}
    {s : System ι ω} {t : Turn ι ω} {earlier later : List (Turn ι ω)} {r : Resource}
    (run : Run role permits {} (earlier ++ t :: later) s) (made : created? t.old t.new = some r) :
    Lifetime r (t :: later) s := by
  have h := living run made
  constructor
  case order => exact h.lives
  case worker_first => exact fun front rest => h.lives.worker_first
  case both_closed =>
    intro u hu purpose n result hold ha
    obtain ⟨before, after, he⟩ := List.append_of_mem hu
    rw [he, ← List.append_assoc] at run
    obtain ⟨-, -, -, ⟨left, right, around⟩, -⟩ := run.split numbered_empty
    have hp := around.passage
    rw [hold, ha] at hp
    exact hp.worker_closed
  case never_again => exact h.lives.never_again
  case not_pooled =>
    intro hm hi
    obtain ⟨hf, hd⟩ := (h.idle hi).succeeds
    exact hm.elim hf hd
  case closed_once => exact h.lives.closed_once

/-- The resource that one caller makes and gives back is taken by another one, which goes away while
    its step runs. The worker fails to close. -/
theorem touches_in_order_dropped : ∃ earlier t later s,
    Run ⟨"broker", "step"⟩ Orderly ({} : System Unit Unit) (earlier ++ t :: later) s ∧
      created? t.old t.new = some ⟨⟨1⟩, 1, 1⟩ ∧
      touches ⟨⟨1⟩, 1, 1⟩ (t :: later) =
        [.begun, .succeeded, .begun, .dropped, .workerClose, .connectionClose] ∧
      Lifetime ⟨⟨1⟩, 1, 1⟩ (t :: later) s := by
  have hb : System.turns ⟨"broker", "step"⟩ ({} : System Unit Unit)
      [.start (.acquire (.trigger ())), .proceed 1, .proceed 1, .resume 1 (.connected (.ok ())),
        .resume 1 (.equipped (.ok ())), .resume 1 (.processed (.ok ())), .proceed 1,
        .start (.acquire (.trigger ())), .proceed 2, .proceed 2, .cancel 2,
        .resume 2 (.closed (.error ⟨"gone", []⟩)), .resume 2 (.closed (.ok ()))] =
      some ([_, _, _, _] ++ _ :: _, _) := rfl
  have run : Run _ Orderly _ _ _ := Run.of_turns hb (by decide)
  exact ⟨_, _, _, _, run, rfl, rfl, touches_in_order run rfl⟩

end BrokerPool.Lifecycle
