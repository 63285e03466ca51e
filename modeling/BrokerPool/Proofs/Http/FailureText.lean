import BrokerPool.Http.Server

/-!
# What the body of a failed trigger says

The body of a failed trigger names in one line what failed and the causes behind it, the outermost
first. The message of a failed step has its causes in it already, and the line puts the same causes
behind the message once more.

Results:
* `flat_eq_line`: the line is the message of the error with each of its causes behind it.
* `failure_named`: the body of every failed trigger. Every failure is named once exactly when it was
  not a step that failed.
* `step_causes_repeated`: a failed step whose causes are named twice.
-/

namespace BrokerPool.Http

open Lifecycle (CloseError ProcessingError TriggerError)

/-! ## Lines -/

/-- A text, and others behind it, each after a colon. -/
def line (text : String) (causes : List String) : String :=
  text ++ String.join (causes.map (": " ++ ·))

theorem intercalate_eq_line (text : String) (causes : List String) :
    ": ".intercalate (text :: causes) = line text causes := by
  induction causes generalizing text with
  | nil => simp [line]
  | cons cause rest ih =>
    rw [String.intercalate_cons_of_ne_nil (List.cons_ne_nil cause rest), ih]
    simp [line, String.append_assoc]

theorem line_cons (text cause : String) (rest : List String) :
    line text (cause :: rest) = line (text ++ ": " ++ cause) rest := by
  simp only [line, List.map_cons, String.join_cons, String.append_assoc]

theorem append_line (text more : String) (causes : List String) :
    text ++ line more causes = line (text ++ more) causes := by
  rw [line, line, String.append_assoc]

theorem line_append (text : String) (first second : List String) :
    line (line text first) second = line text (first ++ second) := by
  simp [line, String.append_assoc]

/-- A line with something behind it is longer. -/
theorem line_append_ne {text : String} {first second : List String} (h : second ≠ []) :
    line text (first ++ second) ≠ line text first := by
  intro he
  obtain ⟨cause, rest, rfl⟩ := List.exists_cons_of_ne_nil h
  have hl := congrArg String.length he
  simp only [line, String.length_append, String.length_join, List.map_append, List.map_cons,
    List.sum_append, List.sum_cons, String.length_append] at hl
  have : (": " : String).length = 2 := rfl
  omega

/-! ## What is named -/

/-- What failed, without its causes. -/
def headline : TriggerError → String
  | .connection e => e.message
  | .processing e => "processing failed on resource " ++ e.resource.text
  | .shutdown => "lifecycle controller has been shut down"

/-- What failed and each of its causes, once. -/
def namedOnce (e : TriggerError) : String := line (headline e) e.chain

theorem flat_eq_line (e : TriggerError) : e.flat = line e.message e.chain :=
  intercalate_eq_line e.message e.chain

/-- The message of a failed step has its causes in it. -/
theorem processing_message (e : ProcessingError) :
    e.message = line ("processing failed on resource " ++ e.resource.text) e.cause.chain := by
  have hm : e.message =
    "processing failed on resource " ++ e.resource.text ++ ": " ++ e.cause.flat := rfl
  rw [hm, Fault.flat, Fault.chain, intercalate_eq_line, append_line, line_cons]

theorem processing_flat (e : ProcessingError) : (TriggerError.processing e).flat =
    line ("processing failed on resource " ++ e.resource.text)
      (e.cause.chain ++ e.cause.chain) := by
  calc (TriggerError.processing e).flat = line e.message e.cause.chain :=
        flat_eq_line (.processing e)
    _ = _ := by rw [processing_message, line_append]

theorem flat_eq_namedOnce_iff (e : TriggerError) :
    e.flat = namedOnce e ↔ ∀ p, e ≠ .processing p := by
  cases e with
  | connection e =>
    have h : (TriggerError.connection e).flat = namedOnce (.connection e) := flat_eq_line _
    simp [h]
  | shutdown =>
    have h : TriggerError.shutdown.flat = namedOnce .shutdown := flat_eq_line _
    simp [h]
  | processing e =>
    have hn : namedOnce (.processing e) =
      line ("processing failed on resource " ++ e.resource.text) e.cause.chain := rfl
    have hne : (TriggerError.processing e).flat ≠ namedOnce (.processing e) := by
      rw [processing_flat, hn]
      exact line_append_ne (List.cons_ne_nil e.cause.text e.cause.causes)
    simp [hne]

/-! ## Bodies -/

theorem failureBody_eq (e : TriggerError) : failureBody e = .object [("error", .string e.flat),
    ("suppressed", .ofText? (e.suppressed?.map CloseError.message))] := by
  rfl

theorem ofText?_eq_null_iff (text : Option String) :
    Json.Value.ofText? text = .null ↔ text = none := by
  cases text <;> simp [Json.Value.ofText?]

/-- What the body of a failed trigger says: `text` about the failure and its causes, and what went
    wrong while the resource was closed. -/
structure Named (e : TriggerError) (text : String) (suppressed : Json.Value) : Prop where
  body : (Server.failure e).body =
    .json (.object [("error", .string text), ("suppressed", suppressed)])
  /-- Without a connection or a worker, the message of the error and each of its causes. -/
  connection : ∀ c, e = .connection c → text = line c.message c.chain
  /-- After a failed step, the resource and each of the causes, and then each of the causes
      again. -/
  processing : ∀ p, e = .processing p → text =
    line ("processing failed on resource " ++ p.resource.text) (p.cause.chain ++ p.cause.chain)
  shutdown : e = .shutdown → text = "lifecycle controller has been shut down"
  /-- Every failure is named once exactly when it was not a step that failed. -/
  once : text = namedOnce e ↔ ∀ p, e ≠ .processing p
  suppressed_null : suppressed = .null ↔ e.suppressed? = none
  suppressed_text : ∀ c, e.suppressed? = some c → suppressed = .string c.message

/-- The body of every failed trigger. -/
theorem failure_named (e : TriggerError) : ∃ text suppressed, Named e text suppressed := by
  refine ⟨e.flat, .ofText? (e.suppressed?.map CloseError.message), ?_⟩
  constructor
  case body => rw [Server.failure, failureBody_eq]
  case connection =>
    rintro c rfl
    exact flat_eq_line (.connection c)
  case processing =>
    rintro p rfl
    exact processing_flat p
  case shutdown =>
    rintro rfl
    rw [flat_eq_line]
    simp [line, TriggerError.message, TriggerError.chain]
  case once => exact flat_eq_namedOnce_iff e
  case suppressed_null => rw [ofText?_eq_null_iff, Option.map_eq_none_iff]
  case suppressed_text =>
    intro c hc
    rw [hc]
    rfl

/-- A message that could not be published: both causes are named twice. -/
theorem step_causes_repeated : ¬ ∀ e : TriggerError, ∃ suppressed, (Server.failure e).body =
    .json (.object [("error", .string (namedOnce e)), ("suppressed", suppressed)]) := by
  intro all
  obtain ⟨suppressed, h⟩ := all (.processing ⟨⟨1⟩, ⟨"publish failed", ["timeout"]⟩, none⟩)
  simp only [Server.failure, failureBody_eq, Body.json.injEq, Json.Value.object.injEq,
    List.cons.injEq, Prod.mk.injEq, Json.Value.string.injEq] at h
  exact absurd h.1.2 (by decide +kernel)

end BrokerPool.Http
