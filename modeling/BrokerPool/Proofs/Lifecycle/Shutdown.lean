import BrokerPool.Proofs.Lifecycle.Drain
import Mathlib.Algebra.Order.BigOperators.Group.List
import Mathlib.Algebra.Order.Group.Nat

/-!
# The laws of shutting down

Any number of shutdowns may drain one pool, while triggers that found it open go on. From the turn
that closes the pool, they share what was idle then: each resource is closed by one drain, or taken
by one trigger, which finds the pool closed when it gives the resource back.

Results:
* `drainFailures_nodup`: no resource fails to close in two drains.
* `swept`: with no trigger on its way and nothing idle, every connection is closed or being closed.
* `shutdown_accounted`: the laws of all shutdowns together, from the first close of the pool on.
-/

namespace BrokerPool.Lifecycle

variable {ι ω : Type}

/-! ## The laws of shutting down -/

/-- What holds of all shutdowns together, where `t` closes the pool after the turns `earlier`, and
    `s` is reached after the turns `later`. -/
structure ShutdownLaws (role : Role) (earlier : List (Turn ι ω)) (t : Turn ι ω)
    (later : List (Turn ι ω)) (s : System ι ω) : Prop where
  /-- Nothing makes the idle list grow: it stays, or loses its first resource. -/
  shrinks : ∀ u ∈ later, u.after.world.pool.idle = u.before.world.pool.idle ∨
    ∃ r, u.before.world.pool.idle = r :: u.after.world.pool.idle
  /-- An iteration of a drain removes a resource; without one the drain ends. -/
  iteration : ∀ u ∈ later, ∀ summary, u.old = some (.draining summary) →
    (∃ r, u.before.world.pool.idle = r :: u.after.world.pool.idle ∧
      u.new = some (.closingWorker r (.drain summary))) ∨
    (u.before.world.pool.idle = [] ∧ u.new = some (.ended (.drained summary)))
  /-- However the two closes of a drain turn out, it goes on behind them. -/
  drains_on : ∀ u ∈ later, ∀ r summary,
    (u.old = some (.closingWorker r (.drain summary)) →
      ∃ fault, u.new = some (.closingConnection r fault (.drain summary))) ∧
    ∀ fault, u.old = some (.closingConnection r fault (.drain summary)) →
      ∃ summary', u.new = some (.draining summary') ∧ summary'.handled = summary.handled + 1
  /-- No shutdown makes more iterations than resources were idle when the pool was closed, -/
  iterations : ∀ n, (later.countP fun u => u.call == n && iterates u.old u.new) ≤
    t.before.world.pool.idle.length
  /-- three turns for each, -/
  turns : ∀ n, (later.countP fun u => u.call == n && ofShutdown u.new) ≤
    3 * (later.countP fun u => u.call == n && iterates u.old u.new) + 3
  /-- and none gets stuck, if what it waits for is answered. -/
  goes_on : ∀ c ∈ s.calls, c.2.shutting = true → (s.step role (.proceed c.1)).isSome ∨
    ∀ result, (s.step role (.resume c.1 (.closed result))).isSome
  /-- Once a shutdown has returned, nothing is idle. -/
  emptied : ∀ c ∈ s.calls, ∀ summary, c.2 = .ended (.drained summary) → s.world.pool.idle = []
  /-- The summaries, and what late triggers took, come to what was idle when the pool was closed. -/
  sum : (∀ c ∈ s.calls, c.2.shutting = false) →
    (s.calls.map fun c => (c.2.summary?.map Summary.handled).getD 0).sum +
      (later.countP fun u => reuses u.old u.new) = t.before.world.pool.idle.length
  /-- Late triggers had found the pool open. -/
  latecomers : ∀ u ∈ later, ∀ goal, u.old = some (.picking goal) →
    t.before.stage? u.call = some (.picking goal)
  /-- The summaries have all failures of drained resources, -/
  failures : (s.calls.flatMap (·.2.failures)).Perm
    (later.filterMap fun u => (drainFailure? u.old u.action).map Prod.snd)
  /-- each under the number of its resource, -/
  failed_own : ∀ u ∈ later, ∀ r e, drainFailure? u.old u.action = some (r, e) → e.resource = r.id
  /-- and no resource twice. -/
  failed_once : ((s.calls.flatMap (·.2.failures)).map (·.resource)).Nodup
  /-- With a shutdown behind and no trigger on its way, every connection is closed, or is being
      closed by another shutdown or in the background. -/
  swept : ∀ c ∈ s.calls, ∀ summary, c.2 = .ended (.drained summary) →
    (∀ c ∈ s.calls, c.2.triggers = false) → ∀ connection ∈ opened (earlier ++ t :: later),
      ∃ place, (connection, place) ∈ places (earlier ++ t :: later) s ∧
        ((∃ r, place = .closed r) ∨ ∃ n r, place = .closing n r)

theorem Stage.taken_of_returned {st : Stage ι ω} (h : st.shutting = false) :
    st.taken = (st.summary?.map Summary.handled).getD 0 := by
  cases st with
  | closingWorker r purpose => cases purpose <;> simp_all [shutting, summary?, taken]
  | closingConnection r worker purpose => cases purpose <;> simp_all [shutting, summary?, taken]
  | ended outcome => cases outcome <;> simp [summary?, taken]
  | _ => simp_all [shutting, summary?, taken]

/-- A shutdown makes its next move, or waits for a close. -/
theorem Stage.shutting_moves {st : Stage ι ω} (h : st.shutting = true) (role : Role) (w : World) :
    (st.proceed role w).isSome ∨ ∀ result, (st.resume role w (.closed result)).isSome := by
  cases st with
  | closingWorker r purpose => exact .inr fun _ => rfl
  | closingConnection r worker purpose => exact .inr fun _ => rfl
  | sealing => exact .inl rfl
  | draining summary =>
    left
    cases hc : w.pool.checkout <;> simp [proceed, hc]
  | _ => simp [shutting] at h

theorem Stage.returned_of_shutdown {st : Stage ι ω} (h : st.shutting = false)
    (hs : st.summary?.isSome) : ∃ summary, st = .ended (.drained summary) := by
  cases st with
  | closingWorker r purpose => cases purpose <;> simp_all [shutting, summary?]
  | closingConnection r worker purpose => cases purpose <;> simp_all [shutting, summary?]
  | ended outcome => cases outcome <;> simp_all [summary?]
  | _ => simp_all [shutting, summary?]

/-- A call that is no trigger has a connection only to close it. -/
theorem Stage.closing_of_no_trigger {call : ℕ} {st : Stage ι ω} {p : ℕ × Place}
    (h : st.triggers = false) (hp : st.place? call = some p) : ∃ r, p.2 = .closing call r := by
  cases st with
  | closingWorker r purpose =>
    simp only [place?, Option.some.injEq] at hp
    exact ⟨r, by rw [← hp]⟩
  | closingConnection r worker purpose =>
    simp only [place?, Option.some.injEq] at hp
    exact ⟨r, by rw [← hp]⟩
  | _ => simp_all [triggers, place?]

/-! ## One field after the other -/

section Laws

variable {role : Role} {s : System ι ω} {t : Turn ι ω} {earlier later history : List (Turn ι ω)}

theorem Passage.iteration {w w' : World} {new : Option (Stage ι ω)} {a : Action ι ω}
    {events : List Event} {summary : Summary}
    (p : Passage role w (some (.draining summary)) a w' new events)
    (ho : Orderly (some (.draining summary : Stage ι ω)) a) :
    (∃ r, w.pool.idle = r :: w'.pool.idle ∧ new = some (.closingWorker r (.drain summary))) ∨
      (w.pool.idle = [] ∧ new = some (.ended (.drained summary))) := by
  have hl := p.orderly ho
  cases p with
  | drain n summary r rest idle => exact .inl ⟨r, idle, rfl⟩
  | drained n summary idle => exact .inr ⟨idle, rfl⟩
  | cancel n stage awaited step => simp [lost?] at hl
  | abandon n stage awaited => simp [lost?] at hl

/-- However the two closes of a drain turn out, it goes on behind them. -/
theorem Advance.worker_of_drain {a : Action ι ω} {new : Option (Stage ι ω)} {r : Resource}
    {summary : Summary} (h : Advance (some (.closingWorker r (.drain summary))) a new) :
    ∃ fault, new = some (.closingConnection r fault (.drain summary)) := by
  cases h with
  | other before after => simp [Stage.shutsDown, Stage.shutting] at before
  | closeWorker n r summary result => exact ⟨_, rfl⟩

theorem Advance.connection_of_drain {a : Action ι ω} {new : Option (Stage ι ω)} {r : Resource}
    {fault : Option Fault} {summary : Summary}
    (h : Advance (some (.closingConnection r fault (.drain summary))) a new) :
    ∃ summary', new = some (.draining summary') ∧ summary'.handled = summary.handled + 1 := by
  cases h with
  | other before after => simp [Stage.shutsDown, Stage.shutting] at before
  | closeConnection n r worker summary result => exact ⟨_, rfl, Summary.handled_add summary _⟩

theorem Stage.firstFailure_resource {r : Resource} {worker connection : Option Fault}
    {e : CloseError} (h : firstFailure r worker connection = some e) : e.resource = r.id := by
  cases worker <;> cases connection <;>
    simp only [firstFailure, Option.some.injEq, reduceCtorEq] at h <;> rw [← h]

theorem drainFailure?_own {old : Option (Stage ι ω)} {a : Action ι ω} {r : Resource}
    {e : CloseError} (h : drainFailure? old a = some (r, e)) : e.resource = r.id := by
  unfold drainFailure? at h
  split at h
  · obtain ⟨e', hf, he⟩ := Option.map_eq_some_iff.mp h
    obtain ⟨rfl, rfl⟩ := Prod.mk.inj he
    exact Stage.firstFailure_resource hf
  · simp at h

theorem closed?_of_drainFailure? {old : Option (Stage ι ω)} {a : Action ι ω} {r : Resource}
    {e : CloseError} (h : drainFailure? old a = some (r, e)) :
    (closed? old a).bind (·.2.resource?) = some r := by
  unfold drainFailure? at h
  split at h
  · obtain ⟨e', -, he⟩ := Option.map_eq_some_iff.mp h
    obtain ⟨rfl, -⟩ := Prod.mk.inj he
    rfl
  · simp at h

theorem closed?_place {old : Option (Stage ι ω)} {a : Action ι ω} {p : ℕ × Place}
    (h : closed? old a = some p) : ∃ r, p.2 = .closed r := by
  unfold closed? at h
  split at h <;> simp only [Option.some.injEq, reduceCtorEq] at h <;> exact ⟨_, by rw [← h]⟩

/-- No resource has failed to close in two drains, or twice in one. -/
theorem drainFailures_nodup (run : Run role Orderly {} (earlier ++ t :: later) s) :
    (later.filterMap fun u => (drainFailure? u.old u.action).map (·.2.resource)).Nodup := by
  have hc := (idle_closed_nodup run).2
  rw [closed, List.filterMap_filterMap, List.map_filterMap] at hc
  have hsub : (later.filterMap fun u => (drainFailure? u.old u.action).map (·.2.resource)).Sublist
      ((earlier ++ t :: later).filterMap fun u =>
        ((closed? u.old u.action).bind (·.2.resource?)).map (·.id)) := by
    refine (filterMap_sublist ?_ later).trans (List.Sublist.filterMap _ ?_)
    · intro u id hu
      obtain ⟨⟨r, e⟩, he, rfl⟩ := Option.map_eq_some_iff.mp hu
      simp [closed?_of_drainFailure? he, drainFailure?_own he]
    · exact (List.sublist_cons_self t later).trans (List.sublist_append_right _ _)
  exact hsub.nodup hc

theorem System.goes_on {s : System ι ω} (hs : s.Numbered) {c : ℕ × Stage ι ω} (hc : c ∈ s.calls)
    (h : c.2.shutting = true) (role : Role) : (s.step role (.proceed c.1)).isSome ∨
      ∀ result, (s.step role (.resume c.1 (.closed result))).isSome := by
  have hst : s.stage? c.1 = some c.2 := hs.mem_iff.mp hc
  rcases Stage.shutting_moves h role s.world with hm | hm
  · left
    obtain ⟨m, hm⟩ := Option.isSome_iff_exists.mp hm
    simp [System.step, hst, hm]
  · right
    intro result
    obtain ⟨m, hm⟩ := Option.isSome_iff_exists.mp (hm result)
    simp [System.step, hst, hm]

/-- With no trigger on its way and nothing idle, connections are closed or being closed. -/
theorem swept (run : Run role Orderly {} history s) (hi : s.world.pool.idle = [])
    (h : ∀ c ∈ s.calls, c.2.triggers = false) {connection : ℕ} (hc : connection ∈ opened history) :
    ∃ place, (connection, place) ∈ places history s ∧
      ((∃ r, place = .closed r) ∨ ∃ n r, place = .closing n r) := by
  have hperm := places_perm_opened run (lost_of_orderly run)
  obtain ⟨⟨connection, place⟩, hm, rfl⟩ := List.mem_map.mp (hperm.mem_iff.mpr hc)
  refine ⟨place, hm, ?_⟩
  simp only [places, hi, List.map_nil, List.append_nil, List.mem_append] at hm
  rcases hm with hm | hm
  · obtain ⟨c, hc, hp⟩ := List.mem_filterMap.mp hm
    obtain ⟨r, hr⟩ := Stage.closing_of_no_trigger (h c hc) hp
    exact .inr ⟨c.1, r, hr⟩
  · obtain ⟨u, -, hu⟩ := List.mem_filterMap.mp hm
    exact .inl (closed?_place hu)

end Laws

/-! ## From the first close on -/

section Shutdown

variable {role : Role} {s : System ι ω} {t : Turn ι ω} {earlier later : List (Turn ι ω)}

/-- A run where the turn `t` closes the pool, and what the turn leaves behind: its own call is the
    only shutdown that has got further. -/
structure Sealed (role : Role) (earlier : List (Turn ι ω)) (t : Turn ι ω) (later : List (Turn ι ω))
    (s : System ι ω) : Prop where
  numbered : t.after.Numbered
  closed : t.after.world.pool.closed = true
  found : t.after.world.pool.idle = t.before.world.pool.idle
  frame : ∀ n, n ≠ t.call → t.after.stage? n = t.before.stage? n
  own : t.new = some (.draining {})
  calls : ∀ c ∈ t.after.calls, c.2.summary? = none ∨ c = (t.call, .draining {})
  after : Run role Orderly t.after later s
  whole : Run role Orderly {} (earlier ++ t :: later) s

theorem sealed_of_run (run : Run role Orderly {} (earlier ++ t :: later) s)
    (opened : t.before.world.pool.closed = false) (closed : t.after.world.pool.closed = true) :
    Sealed role earlier t later s := by
  obtain ⟨before, through, -, ⟨left, right, around⟩, after⟩ := run.split numbered_empty
  obtain ⟨-, hnew, hidle⟩ := around.passage.closes opened closed
  refine ⟨through.numbered numbered_empty, closed, hidle, fun n => around.stage?_of_ne, hnew, ?_,
    after, run⟩
  intro c hc
  rcases around.mem_after.mp hc with hc | ⟨st, hst, rfl⟩
  · exact .inl (before.summary?_of_open opened c (around.mem_before.mpr (.inl hc)))
  · rw [hnew, Option.some.injEq] at hst
    exact .inr (by rw [hst])

namespace Sealed

theorem taken_eq_zero (h : Sealed role earlier t later s) : ∀ c ∈ t.after.calls, c.2.taken = 0 := by
  intro c hc
  rcases h.calls c hc with hn | rfl
  · exact Stage.taken_of_summary? hn
  · rfl

theorem total_taken (h : Sealed role earlier t later s) :
    t.after.total (fun _ => Stage.taken) = 0 := by
  refine List.sum_eq_zero fun x hx => ?_
  obtain ⟨c, hc, rfl⟩ := List.mem_map.mp hx
  exact h.taken_eq_zero c hc

theorem no_failures (h : Sealed role earlier t later s) :
    ∀ c ∈ t.after.calls, c.2.failures = [] := by
  intro c hc
  rcases h.calls c hc with hn | rfl
  · simp [Stage.failures, hn]
  · rfl

/-- A turn after the close is a passage in a closed pool. -/
theorem passage (h : Sealed role earlier t later s) {u : Turn ι ω} (hu : u ∈ later) :
    u.before.world.pool.closed = true ∧ Orderly u.old u.action ∧
      Passage role u.before.world u.old u.action u.after.world u.new u.events := by
  obtain ⟨hc, hp, left, right, around⟩ := h.after.turn_closed h.numbered h.closed hu
  exact ⟨hc, hp, around.passage⟩

/-- What is idle, what shutdowns have taken and what late triggers took was idle at the close. -/
theorem balanced (h : Sealed role earlier t later s) :
    s.world.pool.idle.length + s.total (fun _ => Stage.taken) +
      (later.countP fun u => reuses u.old u.new) = t.before.world.pool.idle.length := by
  have hb := drain_balanced h.numbered h.after h.closed
  rw [h.total_taken, h.found] at hb
  exact hb

/-- A shutdown has made an iteration for each resource that it has taken. -/
theorem iterations_eq (h : Sealed role earlier t later s) (n : ℕ) :
    (s.stage? n).elim 0 Stage.taken =
      later.countP fun u => u.call == n && iterates u.old u.new := by
  rw [h.after.count n Stage.taken (fun old _ new => iterates old new) h.numbered
    fun w old a w' new events p permitted => (p.advance permitted).taken]
  cases hst : t.after.stage? n with
  | none => simp
  | some st => simp [h.taken_eq_zero _ (h.numbered.mem_iff.mpr hst)]

theorem iterations_le (h : Sealed role earlier t later s) (n : ℕ) :
    (later.countP fun u => u.call == n && iterates u.old u.new) ≤
      t.before.world.pool.idle.length := by
  rw [← h.iterations_eq]
  have hb := h.balanced
  cases hst : s.stage? n with
  | none => simp
  | some st =>
    have hc := (h.after.numbered h.numbered).mem_iff.mpr hst
    have : st.taken ≤ s.total fun _ => Stage.taken :=
      List.le_sum_of_mem (List.mem_map.mpr ⟨(n, st), hc, rfl⟩)
    rw [Option.elim_some]
    omega

theorem turns_le (h : Sealed role earlier t later s) (n : ℕ) :
    (later.countP fun u => u.call == n && ofShutdown u.new) ≤
      3 * (later.countP fun u => u.call == n && iterates u.old u.new) + 3 := by
  have hc := h.after.count n Stage.turnsMade (fun _ _ new => ofShutdown new) h.numbered
    fun w old a w' new events p permitted => (p.advance permitted).turnsMade
  rw [← h.iterations_eq]
  cases hst : s.stage? n with
  | none =>
    rw [hst, Option.elim_none] at hc
    omega
  | some st =>
    rw [hst, Option.elim_some] at hc
    have := st.turnsMade_le
    rw [Option.elim_some]
    omega

theorem emptied (h : Sealed role earlier t later s) {n : ℕ} {summary : Summary}
    (hc : (n, .ended (.drained summary)) ∈ s.calls) : s.world.pool.idle = [] := by
  refine h.after.idle_of_drained h.numbered h.closed (fun c hc summary he => ?_) hc
  rcases h.calls c hc with hn | rfl
  · simp [he, Stage.summary?] at hn
  · simp at he

/-- When all shutdowns have returned, the one that closed the pool has, and nothing is idle. -/
theorem emptied_of_returned (h : Sealed role earlier t later s)
    (hr : ∀ c ∈ s.calls, c.2.shutting = false) : s.world.pool.idle = [] := by
  obtain ⟨st, hst, hsome⟩ := h.after.summary?_isSome h.numbered ⟨_, h.own, rfl⟩
  have hc := (h.after.numbered h.numbered).mem_iff.mpr hst
  obtain ⟨summary, rfl⟩ := Stage.returned_of_shutdown (hr _ hc) hsome
  exact h.emptied hc

theorem sum (h : Sealed role earlier t later s) (hr : ∀ c ∈ s.calls, c.2.shutting = false) :
    (s.calls.map fun c => (c.2.summary?.map Summary.handled).getD 0).sum +
      (later.countP fun u => reuses u.old u.new) = t.before.world.pool.idle.length := by
  have hs : s.total (fun _ => Stage.taken) =
      (s.calls.map fun c => (c.2.summary?.map Summary.handled).getD 0).sum := by
    rw [System.total, List.map_congr_left fun c hc => Stage.taken_of_returned (hr c hc)]
  rw [← hs, ← h.balanced, h.emptied_of_returned hr, List.length_nil, Nat.zero_add]

theorem latecomers (h : Sealed role earlier t later s) {u : Turn ι ω} (hu : u ∈ later)
    {goal : Goal ι} (he : u.old = some (.picking goal)) :
    t.before.stage? u.call = some (.picking goal) := by
  obtain ⟨pre, post, rfl⟩ := List.append_of_mem hu
  obtain ⟨hpre, -, -, -, -⟩ := h.after.split h.numbered
  have hs := hpre.picking_of_closed h.numbered h.closed he
  rw [← h.frame, hs]
  intro hcall
  rw [hcall, ← Turn.new, h.own] at hs
  simp at hs

theorem failed_once (h : Sealed role earlier t later s) :
    ((s.calls.flatMap (·.2.failures)).map (·.resource)).Nodup := by
  refine ((failures_balanced h.numbered h.after h.no_failures).map _).nodup_iff.mpr ?_
  rw [List.map_filterMap]
  simpa [Function.comp_def] using drainFailures_nodup h.whole

end Sealed

/-- The laws of all shutdowns together, in every orderly run, from the first close of the pool. -/
theorem shutdown_accounted (run : Run role Orderly {} (earlier ++ t :: later) s)
    (opened : t.before.world.pool.closed = false) (closed : t.after.world.pool.closed = true) :
    ShutdownLaws role earlier t later s := by
  have h := sealed_of_run run opened closed
  constructor
  case shrinks =>
    intro u hu
    obtain ⟨hc, -, p⟩ := h.passage hu
    exact p.shrinks hc
  case iteration =>
    intro u hu summary he
    obtain ⟨-, hp, p⟩ := h.passage hu
    rw [he] at p hp
    exact p.iteration hp
  case drains_on =>
    intro u hu r summary
    obtain ⟨-, hp, p⟩ := h.passage hu
    constructor
    · intro he
      rw [he] at p hp
      exact (p.advance hp).worker_of_drain
    · intro fault he
      rw [he] at p hp
      exact (p.advance hp).connection_of_drain
  case iterations => exact h.iterations_le
  case turns => exact h.turns_le
  case goes_on => exact fun c hc hs => System.goes_on (h.after.numbered h.numbered) hc hs role
  case emptied =>
    rintro ⟨n, st⟩ hc summary rfl
    exact h.emptied hc
  case sum => exact h.sum
  case latecomers => exact fun u hu goal => h.latecomers hu
  case failures => exact failures_balanced h.numbered h.after h.no_failures
  case failed_own => exact fun u _ r e he => drainFailure?_own he
  case failed_once => exact h.failed_once
  case swept =>
    rintro ⟨n, st⟩ hc summary rfl ht connection hm
    exact swept run (h.emptied hc) ht hm

/-- Two callers give back what they used. A third one asks whether the pool is closed before a
    shutdown closes it, and still takes one resource. The shutdown gets the other one, whose worker
    fails to close. -/
theorem shutdown_accounted_late : ∃ earlier t later s,
    Run ⟨"broker", "step"⟩ Orderly ({} : System Unit Unit) (earlier ++ t :: later) s ∧
      t.before.world.pool.closed = false ∧ t.after.world.pool.closed = true ∧
      s.calls.flatMap (·.2.failures) = [⟨.worker, ⟨1⟩, ⟨"gone", []⟩⟩] ∧
      ShutdownLaws ⟨"broker", "step"⟩ earlier t later s := by
  have h : System.turns ⟨"broker", "step"⟩ ({} : System Unit Unit)
      [.start (.acquire (.trigger ())), .proceed 1, .proceed 1, .resume 1 (.connected (.ok ())),
        .resume 1 (.equipped (.ok ())), .start (.acquire (.trigger ())), .proceed 2, .proceed 2,
        .resume 2 (.connected (.ok ())), .resume 2 (.equipped (.ok ())),
        .resume 1 (.processed (.ok ())), .proceed 1, .resume 2 (.processed (.ok ())), .proceed 2,
        .start (.acquire (.trigger ())), .proceed 3, .start .shutdown, .proceed 4, .proceed 3,
        .proceed 4, .resume 4 (.closed (.error ⟨"gone", []⟩)), .resume 4 (.closed (.ok ())),
        .proceed 4, .resume 3 (.processed (.ok ())), .proceed 3, .resume 3 (.closed (.ok ())),
        .resume 3 (.closed (.ok ()))] =
      some ([_, _, _, _, _, _, _, _, _, _, _, _, _, _, _, _, _] ++ _ :: _, _) := rfl
  have run : Run _ Orderly _ _ _ := Run.of_turns h (by decide)
  exact ⟨_, _, _, _, run, rfl, rfl, rfl, shutdown_accounted run rfl rfl⟩

end Shutdown

end BrokerPool.Lifecycle
