import BrokerPool.Proofs.Lifecycle.Drain

/-!
# Failed closes and their warnings

A resource has two halves to close, and a connection that never got a worker has one. Whatever fails
to close is written to the log as a warning, by whoever closes it: the failure of a worker, and that
of a connection whose worker was closed, together with the rest of the closing; the failure of a
connection after that of its worker on its own. The failure of a worker is kept until its connection
has been closed, so it is lost if the caller goes away in between: this is the only way to lose one.

Results:
* `reports_balanced`: over every run whatever, failed closes are reported, still kept by a call,
  told to a holder who closes the resource, or forgotten with a caller that goes away.
* `closed_halves_nodup`: no half of a resource is closed twice.
* `close_failures_reported`: over every run whatever, each failed close has exactly one warning, but
  those told to a holder and those forgotten have none.
* `worker_failure_forgotten`: a failure can be forgotten.
-/

namespace BrokerPool.Lifecycle

variable {ι ω : Type}

/-! ## Failed closes -/

/-- A close that failed: of one half of a resource, or of a connection that never had a worker. -/
inductive FailedClose
  | half (e : CloseError)
  | bare (cause : Fault)
deriving DecidableEq

/-- The half and the resource that it is about. -/
def FailedClose.half? : FailedClose → Option (Half × ResourceId)
  | .half e => some (e.half, e.resource)
  | .bare _ => none

/-- The fields of the warning about a failed close. -/
def FailedClose.fields : FailedClose → List Log.Field
  | .half e => [Event.resourceField e.resource, Event.errorField e.message]
  | .bare cause => [Event.errorField cause.text]

/-- The close that fails with a turn. -/
def failedClose? : Option (Stage ι ω) → Action ι ω → Option FailedClose
  | some (.closingWorker r _), .resume _ (.closed result) =>
    (Stage.fault? result).map fun cause => .half ⟨.worker, r.id, cause⟩
  | some (.closingConnection r _ _), .resume _ (.closed result) =>
    (Stage.fault? result).map fun cause => .half ⟨.connection, r.id, cause⟩
  | some (.unwinding _ _), .resume _ (.closed result) => (Stage.fault? result).map .bare
  | _, _ => none

/-- The closes that have failed in the course of a run. -/
def failedCloses (history : List (Turn ι ω)) : List FailedClose :=
  history.filterMap fun t => failedClose? t.old t.action

/-! ## Warnings -/

/-- The messages of warnings about failed closes. -/
def closeMessages : List String :=
  ["Failed to close discarded resource", "Failed to close AMQP resource",
    "Connection close also failed", "Failed to close connection after worker creation failed"]

/-- A log entry that warns about a failed close. -/
def closeWarning (e : Log.Entry) : Bool := e.level = .warn && closeMessages.contains e.message

/-- The warnings about failed closes that are written in the course of a run. -/
def closeWarnings (history : List (Turn ι ω)) : List Log.Entry :=
  ((history.flatMap (·.events)).map Event.entry).filter closeWarning

/-- The failed close that a report is about. -/
def Event.failedClose? : Event → Option FailedClose
  | .discardFailed _ e | .closeFailed _ e | .alsoFailed _ e => some (.half e)
  | .unwindFailed cause => some (.bare cause)
  | _ => none

/-- A report warns about a failed close if it is about one. -/
theorem Event.closeWarning_entry (e : Event) : closeWarning e.entry = e.failedClose?.isSome := by
  cases e <;> simp [closeWarning, closeMessages, entry, Log.entry, failedClose?]

/-- The report is about the resource whose half failed to close. -/
def Event.Consistent : Event → Prop
  | .discardFailed r e | .closeFailed r e | .alsoFailed r e => e.resource = r
  | _ => True

theorem Event.fields_entry {e : Event} (h : e.Consistent) {c : FailedClose}
    (hc : e.failedClose? = some c) : e.entry.fields = c.fields := by
  cases e <;> simp only [failedClose?, Option.some.injEq, reduceCtorEq] at hc <;> subst hc
  case unwindFailed => rfl
  all_goals
    simp only [Consistent] at h
    subst h
    rfl

/-- The warnings among consistent reports have the fields of the failed closes they are about. -/
theorem fields_of_consistent {events : List Event} (h : ∀ e ∈ events, e.Consistent) :
    ((events.map Event.entry).filter closeWarning).map (·.fields) =
      (events.filterMap Event.failedClose?).map FailedClose.fields := by
  induction events with
  | nil => rfl
  | cons e events ih =>
    rw [List.forall_mem_cons] at h
    rw [List.map_cons, List.filter_cons, Event.closeWarning_entry, List.filterMap_cons]
    cases hc : e.failedClose? with
    | none => simpa using ih h.2
    | some c => simp [ih h.2, Event.fields_entry h.1 hc]

/-! ## What is reported, and what is not -/

namespace Stage

/-- The failure of a worker that a call keeps until the connection has been closed. -/
def pending? : Stage ι ω → Option FailedClose
  | .closingConnection r (some cause) _ => some (.half ⟨.worker, r.id, cause⟩)
  | _ => none

@[simp] theorem pending?_obtained (goal : Goal ι) (r : Resource) :
    (obtained goal r : Stage ι ω).pending? = none := by cases goal <;> rfl

@[simp] theorem pending?_settled (r : Resource) (failure : Option CloseError)
    (purpose : Purpose ω) : (settled r failure purpose : Stage ι ω × _).1.pending? = none := by
  cases purpose <;> cases failure <;> rfl

theorem pending?_of_closes {st : Stage ι ω} (h : st.closes = false) : st.pending? = none := by
  cases st <;> simp_all [closes, pending?]

end Stage

/-- The failed closes that a turn reports. -/
def reported : Option (Stage ι ω) → Action ι ω → List FailedClose
  | some (.closingConnection r worker purpose), .resume _ (.closed result) =>
    (Stage.secondFailure r worker (Stage.fault? result) ++
      (Stage.settled r (Stage.firstFailure r worker (Stage.fault? result)) purpose :
        Stage ι ω × List Event).2).filterMap Event.failedClose?
  | some (.unwinding _ _), .resume _ (.closed result) =>
    ((Stage.fault? result).map FailedClose.bare).toList
  | _, _ => []

/-- The failure that is told to the holder who closes the resource. -/
def told? : Option (Stage ι ω) → Action ι ω → Option FailedClose
  | some (.closingConnection r worker .direct), .resume _ (.closed result) =>
    (Stage.firstFailure r worker (Stage.fault? result)).map .half
  | _, _ => none

/-- The failure that nobody hears of because the caller goes away. -/
def forgotten? : Option (Stage ι ω) → Action ι ω → Option FailedClose
  | some st, .cancel _ | some st, .abandon _ => st.pending?
  | _, _ => none

def told (history : List (Turn ι ω)) : List FailedClose :=
  history.filterMap fun t => told? t.old t.action

def forgotten (history : List (Turn ι ω)) : List FailedClose :=
  history.filterMap fun t => forgotten? t.old t.action

section Reports

variable {role : Role} {permits : Option (Stage ι ω) → Action ι ω → Prop} {s : System ι ω}
  {history : List (Turn ι ω)} {w w' : World} {old new : Option (Stage ι ω)} {a : Action ι ω}
  {events : List Event}

/-- What the closing of a resource reports is about the resource. -/
theorem settled_consistent (r : Resource) (worker connection : Option Fault) (purpose : Purpose ω) :
    ∀ e ∈ Stage.secondFailure r worker connection ++
      (Stage.settled r (Stage.firstFailure r worker connection) purpose :
        Stage ι ω × List Event).2, e.Consistent := by
  cases worker <;> cases connection <;> cases purpose <;>
    simp [Stage.secondFailure, Stage.firstFailure, Stage.settled, Stage.unheard, Event.Consistent]

theorem Stage.abandon_reports (st : Stage ι ω) : ∀ e ∈ st.abandon, e.failedClose? = none := by
  cases st <;> simp [abandon, Event.failedClose?]

/-- The warnings of a turn are about the failed closes that it reports. -/
theorem Passage.warned (p : Passage role w old a w' new events) :
    ((events.map Event.entry).filter closeWarning).map (·.fields) =
      (reported old a).map FailedClose.fields := by
  cases p with
  | connectionClosed n r worker purpose result =>
    exact fields_of_consistent (settled_consistent r worker _ purpose)
  | unwound n c cause result =>
    cases result with
    | ok => rfl
    | error e =>
      have he : ∀ e' ∈ [Event.unwindFailed e], e'.Consistent := by simp [Event.Consistent]
      exact fields_of_consistent he
  | abandon n stage awaited =>
    have hr : reported (some stage) (.abandon n) = ([] : List FailedClose) := by
      cases stage <;> rfl
    have hf : (stage.abandon.map Event.entry).filter closeWarning = [] := by
      rw [List.filter_eq_nil_iff, List.forall_mem_map]
      intro e he
      simp [Event.closeWarning_entry, stage.abandon_reports e he]
    rw [hr, hf]
    rfl
  | cancel n stage awaited step => cases stage <;> rfl
  | _ => exact fields_of_consistent (by simp [Event.Consistent])

/-- What fails to close is reported with the turn or later, told, or forgotten. -/
theorem Passage.reports (p : Passage role w old a w' new events) :
    ((new.bind Stage.pending?).toList : Multiset FailedClose) +
        ((reported old a : Multiset FailedClose) + (told? old a).toList +
          (forgotten? old a).toList) =
      ((old.bind Stage.pending?).toList : Multiset FailedClose) + (failedClose? old a).toList := by
  cases p with
  | reuse n goal r rest idle => rw [Option.bind_some, Stage.pending?_obtained]; rfl
  | equip n goal c r made => rw [Option.bind_some, Stage.pending?_obtained]; rfl
  | workerClosed n r purpose result => cases result <;> rfl
  | connectionClosed n r worker purpose result =>
    rw [Option.bind_some, Stage.pending?_settled]
    -- The failure of the connection is reported before that of the worker, which is the older one.
    have swap (x y : FailedClose) : ([x, y] : Multiset FailedClose) = [y, x] :=
      Multiset.coe_eq_coe.mpr (List.Perm.swap y x [])
    cases purpose <;> cases worker <;> cases result <;> first | rfl | exact swap _ _
  | unwound n c cause result => cases result <;> rfl
  | cancel n stage awaited step | abandon n stage awaited =>
    cases stage <;> simp [reported, told?, forgotten?, failedClose?]
  | _ => rfl

/-- Failed closes are reported, still kept by a call, told to a holder or forgotten. -/
theorem reports_balanced (run : Run role permits {} history s) :
    (s.calls.filterMap (·.2.pending?) : Multiset FailedClose) +
        (((history.flatMap fun t => reported t.old t.action : List FailedClose) :
            Multiset FailedClose) + told history + forgotten history) =
      (failedCloses history : Multiset FailedClose) := by
  have h := run.tally (fun _ st => (st.pending?.toList : Multiset FailedClose)) (fun _ => 0)
    (fun _ old a _ => (failedClose? old a).toList)
    (fun _ old a _ => (reported old a : Multiset FailedClose) + (told? old a).toList +
      (forgotten? old a).toList) numbered_empty ?_
  · simp only [List.sum_map_add, System.total, sum_map_toList, sum_map_coe] at h
    simpa [told, forgotten, failedCloses] using h
  · intro n w old a w' new events p _
    simpa only [elim_toList, zero_add] using p.reports

/-- All warnings of a run are about the failed closes that its turns report. -/
theorem closeWarnings_fields (run : Run role permits {} history s) :
    (closeWarnings history).map (·.fields) =
      (history.flatMap fun t => reported t.old t.action).map FailedClose.fields := by
  refine run.induction (P := fun history _ => (closeWarnings history).map (·.fields) =
    (history.flatMap fun t => reported t.old t.action).map FailedClose.fields) numbered_empty rfl ?_
  intro history t left right _ _ _ h ih
  rw [closeWarnings] at ih ⊢
  simp only [List.flatMap_append, List.flatMap_cons, List.flatMap_nil, List.append_nil,
    List.map_append, List.filter_append]
  rw [ih, h.passage.warned]

/-! ## Every half is closed once -/

/-- The halves of a resource. -/
def Resource.halves (r : Resource) : List (Half × ResourceId) :=
  [(.worker, r.id), (.connection, r.id)]

/-- The halves that a call still has to close. -/
def Stage.openHalves : Stage ι ω → List (Half × ResourceId)
  | .holding r | .processing r _ | .returning r _ | .closingWorker r _ => r.halves
  | .closingConnection r _ _ => [(.connection, r.id)]
  | _ => []

/-- The half that is closed with a turn, whether or not that fails. -/
def closedHalf? : Option (Stage ι ω) → Action ι ω → Option (Half × ResourceId)
  | some (.closingWorker r _), .resume _ (.closed _) => some (.worker, r.id)
  | some (.closingConnection r _ _), .resume _ (.closed _) => some (.connection, r.id)
  | _, _ => none

@[simp] theorem Stage.openHalves_obtained (goal : Goal ι) (r : Resource) :
    (obtained goal r : Stage ι ω).openHalves = r.halves := by cases goal <;> rfl

@[simp] theorem Stage.openHalves_settled (r : Resource) (failure : Option CloseError)
    (purpose : Purpose ω) : (settled r failure purpose : Stage ι ω × _).1.openHalves = [] := by
  cases purpose <;> cases failure <;> rfl

/-- A half is open from the time its resource is made until it is closed, unless the last call that
    could close it goes away. -/
theorem Passage.halves (p : Passage role w old a w' new events) :
    ((w'.pool.idle.flatMap Resource.halves : List _) : Multiset (Half × ResourceId)) +
        new.elim 0 (fun st => (st.openHalves : Multiset _)) +
        (((closedHalf? old a).toList : Multiset _) +
          (lost? old new).elim 0 (fun st => (st.openHalves : Multiset _))) =
      ((w.pool.idle.flatMap Resource.halves : List _) : Multiset (Half × ResourceId)) +
        old.elim 0 (fun st => (st.openHalves : Multiset _)) +
        (created? old new).elim 0 (fun r => (r.halves : Multiset _)) := by
  cases p with
  | reuse n goal r rest idle =>
    rw [Option.elim_some, Stage.openHalves_obtained]
    simp [idle, created?, closedHalf?, lost?, Stage.openHalves, ← Multiset.coe_add, add_comm]
  | equip n goal c r made =>
    simp only [created?, Stage.resource?_obtained]
    rw [Option.elim_some, Stage.openHalves_obtained]
    simp [closedHalf?, lost?, Stage.openHalves]
  | giveBack n r output opened =>
    simp [created?, closedHalf?, lost?, Stage.openHalves, ← Multiset.coe_add, add_comm]
  | equipFail n goal c cause =>
    simp [created?, closedHalf?, lost?, Stage.openHalves, Stage.resource?]
  | workerClosed n r purpose result =>
    have pair : (r.halves : Multiset (Half × ResourceId)) =
        ([(.connection, r.id)] : List (Half × ResourceId)) +
          ([(.worker, r.id)] : List (Half × ResourceId)) :=
      Multiset.coe_eq_coe.mpr (List.Perm.swap _ _ [])
    simp only [Option.elim_some, Stage.openHalves, pair, closedHalf?, created?, lost?, add_assoc]
    rfl
  | connectionClosed n r worker purpose result =>
    rw [Option.elim_some, Stage.openHalves_settled]
    simp [created?, closedHalf?, lost?, Stage.openHalves]
  | close n => simp [Pool.close, created?, closedHalf?, lost?, Stage.openHalves]
  | drain n summary r rest idle =>
    simp [idle, created?, closedHalf?, lost?, Stage.openHalves, ← Multiset.coe_add, add_comm]
  | cancel n stage awaited step => simp [created?, closedHalf?, lost?]
  | abandon n stage awaited => simp [created?, closedHalf?, lost?]
  | _ => simp [created?, closedHalf?, lost?, Stage.openHalves]

/-- What a sum of lists that belong to optional elements has. -/
theorem sum_map_elim {α β γ : Type} (f : α → Option β) (g : β → List γ) (l : List α) :
    (l.map fun a => (f a).elim 0 fun b => (g b : Multiset γ)).sum =
      ((l.filterMap f).flatMap g : List γ) := by
  induction l with
  | nil => rfl
  | cons a l ih =>
    rw [List.map_cons, List.sum_cons, ih, List.filterMap_cons]
    cases f a <;> simp

theorem halves_nodup {created : List Resource} (h : (created.map (·.id)).Nodup) :
    (created.flatMap Resource.halves).Nodup := by
  rw [List.nodup_flatMap]
  refine ⟨fun r _ => by simp [Resource.halves], ?_⟩
  rw [List.Nodup, List.pairwise_map] at h
  refine h.imp fun {r r'} hne => ?_
  simp [Function.onFun, Resource.halves, Ne.symm hne]

/-- No half of a resource is closed twice. -/
theorem closed_halves_nodup (run : Run role permits {} history s) :
    (history.filterMap fun t => closedHalf? t.old t.action).Nodup := by
  have h := run.tally (fun _ st => (st.openHalves : Multiset (Half × ResourceId)))
    (fun w => (w.pool.idle.flatMap Resource.halves : List _))
    (fun _ old _ new => (created? old new).elim 0 fun r => (r.halves : Multiset _))
    (fun _ old a new => ((closedHalf? old a).toList : Multiset _) +
      (lost? old new).elim 0 fun st => (st.openHalves : Multiset _)) numbered_empty ?_
  · have hn := Multiset.coe_nodup.mpr (halves_nodup (created_ids_nodup run))
    simp only [List.sum_map_add, sum_map_toList, sum_map_elim, System.total_empty] at h
    have h0 : ((({} : System ι ω).world.pool.idle.flatMap Resource.halves :
        List (Half × ResourceId)) : Multiset (Half × ResourceId)) = 0 := rfl
    rw [h0, zero_add, zero_add] at h
    rw [created, ← h] at hn
    exact Multiset.coe_nodup.mp (Multiset.nodup_of_le
      ((Multiset.le_add_right _ _).trans (Multiset.le_add_left _ _)) hn)
  · intro n w old a w' new events p _
    exact p.halves

/-- No half of a resource fails to close twice. -/
theorem failed_halves_nodup (run : Run role permits {} history s) :
    ((failedCloses history).filterMap FailedClose.half?).Nodup := by
  rw [failedCloses, List.filterMap_filterMap]
  refine (closed_halves_nodup run).sublist (filterMap_sublist (fun t k h => ?_) history)
  unfold failedClose? at h
  split at h
  case h_1 r purpose _ result old action | h_2 r worker purpose _ result old action =>
    cases result <;> simp_all [Stage.fault?, FailedClose.half?, closedHalf?]
  case h_3 c cause _ result old action =>
    cases result <;> simp_all [Stage.fault?, FailedClose.half?]
  case h_4 => simp at h

/-! ## Warnings name what failed -/

theorem ResourceId.text_injective : Function.Injective ResourceId.text := by
  intro r r' h
  have hd : Number.digitText r.number = Number.digitText r'.number := by
    simpa [ResourceId.text, ← String.toList_inj] using h
  cases r
  cases r'
  exact congrArg _ (Number.digitText_injective hd)

/-- The message about one half is not as long as that about the other. -/
theorem CloseError.half_of_message {e e' : CloseError} (hr : e'.resource = e.resource)
    (h : e'.message = e.message) : e'.half = e.half := by
  have hl : ("failed to close worker of resource ").length ≠
      ("failed to close connection of resource ").length := by decide
  have hm := congrArg String.length h
  rcases e with ⟨_ | _, r, cause⟩ <;> rcases e' with ⟨_ | _, r', cause'⟩ <;>
    simp only [message, String.length_append] at hm hr ⊢ <;> subst hr <;> omega

/-- The warning about a half tells which half of which resource it is. -/
theorem FailedClose.fields_half {e : CloseError} {c : FailedClose}
    (h : c.fields = (FailedClose.half e).fields) : c.half? = some (e.half, e.resource) := by
  cases c with
  | bare cause => simp [fields] at h
  | half e' =>
    simp only [fields, List.cons.injEq, Event.resourceField, Event.errorField, Log.Field.mk.injEq,
      true_and, and_true] at h
    obtain ⟨hr, hm⟩ := h
    have hid : e'.resource = e.resource := ResourceId.text_injective hr
    rw [half?, hid, CloseError.half_of_message hid hm]

/-- One member of a list has what the list has once. -/
theorem countP_eq_one {α β : Type} {f : α → Option β} {p : α → Bool} {l : List α}
    (h : (l.filterMap f).Nodup) {a : α} (ha : a ∈ l) (hp : p a) {b : β}
    (hb : ∀ x, p x → f x = some b) : l.countP p = 1 := by
  induction l with
  | nil => simp at ha
  | cons x l ih =>
    by_cases hx : p x
    · rw [List.filterMap_cons_some (hb x hx), List.nodup_cons] at h
      have hz : l.countP p = 0 := List.countP_eq_zero.mpr fun y hy hpy =>
        h.1 (List.mem_filterMap.mpr ⟨y, hy, hb y hpy⟩)
      rw [List.countP_cons_of_pos hx, hz]
    · have hl : a ∈ l := (List.mem_cons.mp ha).resolve_left fun he => hx (he ▸ hp)
      rw [List.countP_cons_of_neg hx]
      exact ih (h.sublist ((List.sublist_cons_self x l).filterMap f)) hl

/-! ## One warning for each failed close -/

/-- What becomes of failed closes. -/
structure ClosesReported (history : List (Turn ι ω)) (s : System ι ω) : Prop where
  /-- The warnings, with the failures of workers whose connections are still being closed, those
      that holders were told and those that were forgotten, are all failures, each as often as it
      happened. -/
  balanced : ((closeWarnings history).map (·.fields) ++
    (s.calls.filterMap (·.2.pending?) ++ (told history ++ forgotten history)).map
      FailedClose.fields).Perm ((failedCloses history).map FailedClose.fields)
  /-- When nothing is being closed any more, and nobody has closed a resource that he held, warnings
      and failures correspond one to one exactly when no failure was forgotten. -/
  complete : (∀ c ∈ s.calls, c.2.closes = false) → told history = [] →
    (((closeWarnings history).map (·.fields)).Perm
      ((failedCloses history).map FailedClose.fields) ↔ forgotten history = [])
  /-- A half of a resource fails to close once at most, -/
  halves_nodup : ((failedCloses history).filterMap FailedClose.half?).Nodup
  /-- and exactly one warning names the half and the resource, or none if it was forgotten. -/
  one_warning : ∀ e, .half e ∈ failedCloses history →
    (∀ c ∈ s.calls, c.2.pending? ≠ some (.half e)) → .half e ∉ told history →
    ((closeWarnings history).countP fun w => w.fields = (FailedClose.half e).fields) =
      if .half e ∈ forgotten history then 0 else 1
  /-- Only the failure of a worker is forgotten, and only when the caller goes away while the
      connection is being closed. -/
  forgotten_with : ∀ f ∈ forgotten history, ∃ t ∈ history, ∃ r cause purpose,
    (t.action = .cancel t.call ∨ t.action = .abandon t.call) ∧
      t.old = some (.closingConnection r (some cause) purpose) ∧ f = .half ⟨.worker, r.id, cause⟩
  /-- A connection without a worker that fails to close is reported at once. -/
  unwinding : ∀ t ∈ history, ∀ cause, failedClose? t.old t.action = some (.bare cause) →
    closeWarnings [t] = [Event.entry (.unwindFailed cause)]
  /-- Where no close fails, nothing is reported. -/
  silent : failedCloses history = [] → closeWarnings history = []

/-- A connection without a worker that fails to close is reported with the same turn. -/
theorem Passage.unwound_reports (p : Passage role w old a w' new events) {cause : Fault}
    (h : failedClose? old a = some (.bare cause)) : events = [.unwindFailed cause] := by
  cases p with
  | unwound n c first result =>
    cases result <;> simp_all [failedClose?, Stage.fault?]
  | workerClosed n r purpose result | connectionClosed n r worker purpose result =>
    cases result <;> simp [failedClose?, Stage.fault?] at h
  | cancel n stage awaited step | abandon n stage awaited =>
    cases stage <;> simp [failedClose?] at h
  | _ => simp [failedClose?] at h

/-- What is forgotten was kept by a call whose caller goes away. -/
theorem forgotten_of_kept {t : Turn ι ω} {f : FailedClose}
    (h : forgotten? t.old t.action = some f) : ∃ r cause purpose,
      (t.action = .cancel t.call ∨ t.action = .abandon t.call) ∧
        t.old = some (.closingConnection r (some cause) purpose) ∧
          f = .half ⟨.worker, r.id, cause⟩ := by
  have kept : ∀ {st : Stage ι ω}, st.pending? = some f → ∃ r cause purpose,
      st = .closingConnection r (some cause) purpose ∧ f = .half ⟨.worker, r.id, cause⟩ := by
    intro st hst
    unfold Stage.pending? at hst
    split at hst
    · exact ⟨_, _, _, rfl, (Option.some.inj hst).symm⟩
    · simp at hst
  unfold forgotten? at h
  split at h
  case h_1 st n hold action =>
    obtain ⟨r, cause, purpose, rfl, hf⟩ := kept h
    exact ⟨r, cause, purpose, .inl (by rw [Turn.call, action, Action.call]), hold, hf⟩
  case h_2 st n hold action =>
    obtain ⟨r, cause, purpose, rfl, hf⟩ := kept h
    exact ⟨r, cause, purpose, .inr (by rw [Turn.call, action, Action.call]), hold, hf⟩
  case h_3 => simp at h

/-- Among failed closes the one that a warning is about can be told by its fields. -/
theorem countP_fields {failed l : List FailedClose}
    (once : (failed.filterMap FailedClose.half?).Nodup) (hl : l.Subperm failed) {e : CloseError}
    (he : .half e ∈ failed) :
    (l.countP fun c => c.fields = (FailedClose.half e).fields) = if .half e ∈ l then 1 else 0 := by
  have named : ∀ c : FailedClose, c.fields = (FailedClose.half e).fields →
      c.half? = some (e.half, e.resource) := fun c => FailedClose.fields_half
  split
  case isTrue hm =>
    obtain ⟨l', hperm, hsub⟩ := hl
    have hn : (l.filterMap FailedClose.half?).Nodup :=
      (hperm.filterMap _).nodup_iff.mp (once.sublist (hsub.filterMap _))
    exact countP_eq_one hn hm (by simp) fun c hp => named c (by simpa using hp)
  case isFalse hm =>
    rw [List.countP_eq_zero]
    intro c hc hp
    obtain rfl : c = .half e :=
      eq_of_nodup_filterMap once (hl.subset hc) he (named c (by simpa using hp)) rfl
    exact hm hc

/-- Failed closes have one warning each, but those told to a holder and those forgotten have
    none. -/
theorem close_failures_reported (run : Run role permits {} history s) :
    ClosesReported history s := by
  have failures : ((history.flatMap fun t => reported t.old t.action) ++
      (s.calls.filterMap (·.2.pending?) ++ (told history ++ forgotten history))).Perm
        (failedCloses history) := by
    have h := reports_balanced run
    rw [add_assoc, add_left_comm] at h
    simpa only [Multiset.coe_add, Multiset.coe_eq_coe] using h
  have balanced : ((closeWarnings history).map (·.fields) ++
      (s.calls.filterMap (·.2.pending?) ++ (told history ++ forgotten history)).map
        FailedClose.fields).Perm ((failedCloses history).map FailedClose.fields) := by
    rw [closeWarnings_fields run, ← List.map_append]
    exact failures.map _
  constructor
  case balanced => exact balanced
  case complete =>
    intro hc ht
    have hp : s.calls.filterMap (·.2.pending?) = [] := by
      rw [List.filterMap_eq_nil_iff]
      exact fun c hm => Stage.pending?_of_closes (hc c hm)
    rw [hp, ht, List.nil_append, List.nil_append] at balanced
    constructor
    · intro all
      have same := all.length_eq.trans balanced.length_eq.symm
      rw [List.length_append, left_eq_add, List.length_map] at same
      exact List.length_eq_zero_iff.mp same
    · intro hf
      simpa [hf] using balanced
  case halves_nodup => exact failed_halves_nodup run
  case one_warning =>
    intro e he hc ht
    have once := failed_halves_nodup run
    have all := countP_fields once (List.Subperm.refl _) he
    have rest := countP_fields once
      ((List.sublist_append_right _ _).subperm.trans failures.subperm) he
    have kept : .half e ∈ s.calls.filterMap (·.2.pending?) ++ (told history ++ forgotten history) ↔
        .half e ∈ forgotten history := by
      have hp : .half e ∉ s.calls.filterMap (·.2.pending?) := by
        intro hm
        obtain ⟨c, hcall, hpend⟩ := List.mem_filterMap.mp hm
        exact hc c hcall hpend
      simp only [List.mem_append, hp, ht, false_or]
    have count := balanced.countP_eq fun fields => fields = (FailedClose.half e).fields
    rw [List.countP_append, List.countP_map, List.countP_map, List.countP_map] at count
    simp only [Function.comp_def] at count
    rw [if_pos he] at all
    simp only [kept] at rest
    by_cases hf : .half e ∈ forgotten history
    · rw [if_pos hf] at rest ⊢
      omega
    · rw [if_neg hf] at rest ⊢
      omega
  case forgotten_with =>
    intro f hf
    obtain ⟨t, ht, h⟩ := List.mem_filterMap.mp hf
    obtain ⟨r, cause, purpose, action, hold, hf⟩ := forgotten_of_kept h
    exact ⟨t, ht, r, cause, purpose, action, hold, hf⟩
  case unwinding =>
    intro t ht cause h
    obtain ⟨before, after, rfl⟩ := List.append_of_mem ht
    obtain ⟨-, -, -, ⟨left, right, around⟩, -⟩ := run.split numbered_empty
    simp [closeWarnings, around.passage.unwound_reports h, Event.closeWarning_entry,
      Event.failedClose?]
  case silent =>
    intro hn
    rw [hn, List.map_nil, List.perm_nil, List.append_eq_nil_iff, List.map_eq_nil_iff] at balanced
    exact balanced.1

/-- A step fails, and so do both closes of its resource. Another connection gets no worker and fails
    to close. A third caller goes away while its step runs; its worker fails to close. A fourth one
    goes away while the connection of its failed resource is closed, and nobody hears of its
    worker. -/
theorem close_failures_reported_forgotten : ∃ history s,
    Run ⟨"broker", "step"⟩ Droppable ({} : System Unit Unit) history s ∧
      failedCloses history = [.half ⟨.worker, ⟨1⟩, ⟨"gone", []⟩⟩,
        .half ⟨.connection, ⟨1⟩, ⟨"reset", []⟩⟩, .bare ⟨"reset", []⟩,
        .half ⟨.worker, ⟨2⟩, ⟨"gone", []⟩⟩, .half ⟨.worker, ⟨3⟩, ⟨"lost", []⟩⟩] ∧
      forgotten history = [.half ⟨.worker, ⟨3⟩, ⟨"lost", []⟩⟩] ∧
      ClosesReported history s := by
  have h : System.turns ⟨"broker", "step"⟩ ({} : System Unit Unit)
      [.start (.acquire (.trigger ())), .proceed 1, .proceed 1, .resume 1 (.connected (.ok ())),
        .resume 1 (.equipped (.ok ())), .resume 1 (.processed (.error ⟨"rejected", []⟩)),
        .resume 1 (.closed (.error ⟨"gone", []⟩)), .resume 1 (.closed (.error ⟨"reset", []⟩)),
        .start (.acquire (.trigger ())), .proceed 2, .proceed 2, .resume 2 (.connected (.ok ())),
        .resume 2 (.equipped (.error ⟨"no channel", []⟩)),
        .resume 2 (.closed (.error ⟨"reset", []⟩)),
        .start (.acquire (.trigger ())), .proceed 3, .proceed 3, .resume 3 (.connected (.ok ())),
        .resume 3 (.equipped (.ok ())), .cancel 3, .resume 3 (.closed (.error ⟨"gone", []⟩)),
        .resume 3 (.closed (.ok ())),
        .start (.acquire (.trigger ())), .proceed 4, .proceed 4, .resume 4 (.connected (.ok ())),
        .resume 4 (.equipped (.ok ())), .resume 4 (.processed (.error ⟨"rejected", []⟩)),
        .resume 4 (.closed (.error ⟨"lost", []⟩)), .cancel 4] = some (_, _) := rfl
  have run : Run _ Droppable _ _ _ := Run.of_turns h (by decide)
  exact ⟨_, _, run, rfl, rfl, close_failures_reported run⟩

/-- A caller that goes away while its failed resource is closed leaves the failure of the worker
    unreported: nothing is being closed any more, and there is no warning. -/
theorem worker_failure_forgotten : ¬ ∀ history s,
    Run ⟨"broker", "step"⟩ Droppable ({} : System Unit Unit) history s →
      (∀ c ∈ s.calls, c.2.closes = false) →
      ((closeWarnings history).map (·.fields)).Perm
        ((failedCloses history).map FailedClose.fields) := by
  intro all
  have h : System.turns ⟨"broker", "step"⟩ ({} : System Unit Unit)
      [.start (.acquire (.trigger ())), .proceed 1, .proceed 1, .resume 1 (.connected (.ok ())),
        .resume 1 (.equipped (.ok ())), .resume 1 (.processed (.error ⟨"rejected", []⟩)),
        .resume 1 (.closed (.error ⟨"gone", []⟩)), .cancel 1] = some (_, _) := rfl
  have balanced := all _ _ (Run.of_turns h (by decide)) (by decide)
  exact absurd balanced.length_eq (by decide)

end Reports

end BrokerPool.Lifecycle
