import CoinRobotu.Lifecycle.Core

/-!
# The state that the safety namespace derives

The namespace service reads the same logs through another table. It starts from the stored
status of the intent, and its cascade decides by the type of an event before it looks at
the status: a finalization is read as filled whatever became of the order. So a lawful
lifecycle is derived as it was written exactly when this reading of it follows the table
from the stored status and ends in the stage that the last event means.
-/

namespace Lifecycle

open Runtime
open Automata

namespace Namespace

def canonicalIntentStates : List String :=
  ["CREATED", "SUBMITTED", "ACKED", "PARTIALLY_FILLED", "FILLED", "FAILED", "CANCELED",
    "RECONCILING", "RECONCILED"]

/-- `INTENT_TRANSITIONS`. -/
def intentTransitions (state : String) : List String :=
  if state = "CREATED" then ["SUBMITTED", "FAILED", "CANCELED"]
  else if state = "SUBMITTED" then ["ACKED", "FAILED", "CANCELED"]
  else if state = "ACKED" then ["PARTIALLY_FILLED", "FILLED", "FAILED", "CANCELED", "RECONCILING"]
  else if state = "PARTIALLY_FILLED" then
    ["PARTIALLY_FILLED", "FILLED", "FAILED", "CANCELED", "RECONCILING"]
  else if state = "FILLED" then ["RECONCILING"]
  else if state = "RECONCILING" then ["RECONCILED", "FAILED"]
  else []

/-- `_canonical_intent_state`. -/
def canonicalIntentState (value : String) : String :=
  let raw := normalizeCode value
  if raw ∈ ["", "PENDING"] then "CREATED"
  else if raw = "CANCELLED" then "CANCELED"
  else if raw ∈ canonicalIntentStates then raw
  else "CREATED"

/-- The cascade of `_intent_state_from_event`, over the normalized type and the canonical
status. -/
def targetOf (eventType eventStatus : String) : Option String :=
  if eventType ∈ ["EXECUTION_ORDER_SUBMISSION_REQUESTED", "EXECUTION_ORDER_SUBMITTED"] then
    some "SUBMITTED"
  else if eventType ∈ ["EXECUTION_ORDER_ACKED", "EXECUTION_ORDER_ACCEPTED"] then some "ACKED"
  else if eventType = "EXECUTION_ORDER_PARTIALLY_FILLED" ∨ eventStatus = "PARTIALLY_FILLED" then
    some "PARTIALLY_FILLED"
  else if eventType ∈ ["EXECUTION_ORDER_FILLED", "EXECUTION_ORDER_FINALIZED"] ∨
      eventStatus = "FILLED" then
    some "FILLED"
  else if eventType = "EXECUTION_RECONCILE_STARTED" ∨ eventStatus = "RECONCILING" then
    some "RECONCILING"
  else if eventType = "EXECUTION_RECONCILED" ∨ eventStatus = "RECONCILED" then some "RECONCILED"
  else if eventStatus = "FAILED" then some "FAILED"
  else if eventStatus = "CANCELED" then some "CANCELED"
  else none

def report (current target : String) : String := "invalid_transition:" ++ current ++ "->" ++ target

/-- `_intent_state_from_event`, as a reader of rows. -/
def reader : Reader String Entry String where
  allowed := intentTransitions
  target row := targetOf (normalizeCode row.1) (canonicalIntentState row.2)
  report := report

/-- What `get_execution_safety_intents` derives for one intent. -/
structure Derived where
  state : String
  statePath : List String
  violations : List String
deriving DecidableEq

/-- Its loop over the rows of an intent. -/
def foldEvents : List Entry → Derived → Derived
  | [], derived => derived
  | row :: rows, derived =>
      let next := reader.step derived.state row
      foldEvents rows
        { state := next.1
          statePath :=
            if next.1 = derived.state then derived.statePath else derived.statePath ++ [next.1]
          violations := derived.violations ++ next.2.toList }

/-- The part of `get_execution_safety_intents` that derives the state of an intent with a
stored status. -/
def derive (status : String) (log : List Entry) : Derived :=
  let state := canonicalIntentState status
  foldEvents log ⟨state, [state], []⟩

/-- The kind of an event, whether its words are joined by dots or by underscores. -/
def kind (eventType : String) : String :=
  String.ofList ((normalizeCode eventType).toList.map fun character =>
    if character = '.' then '_' else character)

def statusMeaning (eventStatus : String) : Option String :=
  let status := normalizeCode eventStatus
  if status ∈ ["NEW", "ACCEPTED"] then some "ACKED"
  else if status = "REJECTED" then some "FAILED"
  else if status = "CANCELLED" then some "CANCELED"
  else if status ∈ canonicalIntentStates then some status
  else none

/-- What an event means, by its type together with its status: an acknowledgement and a
finalization say what became of the order by their status. -/
def meaning (row : Entry) : Option String :=
  let kind := kind row.1
  if kind ∈ ["EXECUTION_ORDER_SUBMISSION_REQUESTED", "EXECUTION_ORDER_SUBMITTED"] then
    some "SUBMITTED"
  else if kind ∈ ["EXECUTION_ORDER_ACKED", "EXECUTION_ORDER_ACCEPTED"] then
    if normalizeCode row.2 ∈ ["PARTIALLY_FILLED", "FILLED"] then some (normalizeCode row.2)
    else some "ACKED"
  else if kind = "EXECUTION_ORDER_PARTIALLY_FILLED" then some "PARTIALLY_FILLED"
  else if kind = "EXECUTION_ORDER_FILLED" then some "FILLED"
  else if kind = "EXECUTION_RECONCILE_STARTED" then some "RECONCILING"
  else if kind = "EXECUTION_RECONCILED" then some "RECONCILED"
  else statusMeaning row.2

def meant : Reader String Entry String where
  allowed := intentTransitions
  target := meaning
  report := report

/-- Every event means a stage, and the stages follow the table from the creation. -/
structure Lawful (log : List Entry) : Prop where
  meaningful : ∀ row ∈ log, (meaning row).isSome
  follows : meant.Follows "CREATED" log

/-- A finalization of an order that failed, was canceled or was rejected. -/
def FinalizedUnfilled (row : Entry) : Prop :=
  kind row.1 = "EXECUTION_ORDER_FINALIZED" ∧
    normalizeCode row.2 ∈ ["FAILED", "CANCELED", "CANCELLED", "REJECTED"]

/-- The state is the last stage of the log and nothing is reported; a log that finalizes an
order without a fill is not derived as filled. -/
structure DerivesLast (status : String) (log : List Entry) : Prop where
  state : (derive status log).state = meant.lastRead "CREATED" log
  violations : (derive status log).violations = []
  unfilled : (∃ row ∈ log, FinalizedUnfilled row) → (derive status log).state ≠ "FILLED"

/-- Read by the cascade, the log follows the table from the stored status, and it ends in
what its last event means. -/
structure ReadsLawfully (status : String) (log : List Entry) : Prop where
  follows : reader.Follows (canonicalIntentState status) log
  last : reader.lastRead (canonicalIntentState status) log = meant.lastRead "CREATED" log

section Deriving

variable {status : String} {log : List Entry}

theorem foldEvents_eq (log : List Entry) (derived : Derived) :
    (foldEvents log derived).state = (reader.run derived.state log).1 ∧
      (foldEvents log derived).violations = derived.violations ++
        (reader.run derived.state log).2 := by
  induction log generalizing derived with
  | nil => exact ⟨rfl, (List.append_nil _).symm⟩
  | cons row log ih =>
    unfold foldEvents
    obtain ⟨state, violations⟩ := ih _
    rw [state, violations, Reader.run_cons, List.append_assoc]
    exact ⟨rfl, rfl⟩

theorem derive_eq (status : String) (log : List Entry) :
    (derive status log).state = (reader.run (canonicalIntentState status) log).1 ∧
      (derive status log).violations = (reader.run (canonicalIntentState status) log).2 :=
  foldEvents_eq log _

theorem FinalizedUnfilled.meaning_eq {row : Entry} (unfilled : FinalizedUnfilled row) :
    meaning row = some "FAILED" ∨ meaning row = some "CANCELED" := by
  obtain ⟨finalized, status⟩ := unfilled
  have byStatus : meaning row = statusMeaning row.2 := by
    unfold meaning
    simp only [finalized]
    rfl
  rw [byStatus]
  unfold statusMeaning
  simp only [List.mem_cons, List.not_mem_nil, or_false] at status
  rcases status with failed | canceled | cancelled | rejected
  · left
    simp only [failed]
    rfl
  · right
    simp only [canceled]
    rfl
  · right
    simp only [cancelled]
    rfl
  · left
    simp only [rejected]
    rfl

/-- Nothing lawful follows a finalization without a fill, so a lawful log that has one does
not end as filled. -/
theorem Lawful.unfilled (lawful : Lawful log) {row : Entry} (inside : row ∈ log)
    (unfilled : FinalizedUnfilled row) : meant.lastRead "CREATED" log ≠ "FILLED" := by
  obtain ⟨earlier, later, rfl⟩ := List.append_of_mem inside
  obtain ⟨_, _, rest⟩ := Reader.follows_append.mp lawful.follows
  rw [Reader.lastRead_append]
  have read : ∀ state, meant.reads state row = (meaning row).getD state := fun _ => rfl
  show meant.lastRead (meant.reads (meant.lastRead "CREATED" earlier) row) later ≠ "FILLED"
  rw [read] at rest ⊢
  rcases unfilled.meaning_eq with failed | canceled
  · rw [failed] at rest ⊢
    rw [Reader.lastRead_of_terminal rfl rest, Option.getD_some]
    decide
  · rw [canceled] at rest ⊢
    rw [Reader.lastRead_of_terminal rfl rest, Option.getD_some]
    decide

/-- A lawful log is derived as it was written exactly when the cascade reads it lawfully
from the stored status. -/
theorem Lawful.derivesLast_iff (lawful : Lawful log) :
    DerivesLast status log ↔ ReadsLawfully status log := by
  obtain ⟨state, violations⟩ := derive_eq status log
  constructor
  · intro derives
    have nothing := derives.violations
    have last := derives.state
    rw [violations] at nothing
    rw [state] at last
    have same : reader.run (canonicalIntentState status) log = (meant.lastRead "CREATED" log, []) :=
      Prod.ext last nothing
    obtain ⟨follows, read⟩ := Reader.run_eq_iff.mp same
    exact ⟨follows, read⟩
  · rintro ⟨follows, last⟩
    have read := Reader.run_eq_iff.mpr ⟨follows, last⟩
    rw [read] at state violations
    constructor
    · exact state
    · exact violations
    · rintro ⟨row, inside, unfilled⟩
      rw [state]
      exact lawful.unfilled inside unfilled

end Deriving

/-- What the exchange answers to an order of the acceptance runner: it fails, its state
cannot be read, or it is acknowledged with a status. -/
inductive Answer where
  | pending
  | submitFailed
  | unreadable
  | acknowledged (status : String)
deriving DecidableEq

/-- The status that `_run_single_acceptance_mode` makes of the order's state. -/
def acknowledgedStatus (orderStatus : String) : String :=
  if orderStatus = "FILLED" then "FILLED"
  else if orderStatus ∈ ["PARTIALLY_FILLED", "PARTIALLYFILLED"] then "PARTIALLY_FILLED"
  else "ACKED"

/-- The rows that `_run_single_acceptance_mode` has written when it commits. -/
def acceptanceLog : Answer → List Entry
  | .pending => [("EXECUTION_ORDER_SUBMISSION_REQUESTED", "SUBMITTED")]
  | .submitFailed =>
      [("EXECUTION_ORDER_SUBMISSION_REQUESTED", "SUBMITTED"),
        ("EXECUTION_ORDER_FINALIZED", "FAILED")]
  | .unreadable =>
      [("EXECUTION_ORDER_SUBMISSION_REQUESTED", "SUBMITTED"),
        ("EXECUTION_ORDER_SUBMITTED", "SUBMITTED"), ("EXECUTION_ORDER_FINALIZED", "FAILED")]
  | .acknowledged orderStatus =>
      [("EXECUTION_ORDER_SUBMISSION_REQUESTED", "SUBMITTED"),
        ("EXECUTION_ORDER_SUBMITTED", "SUBMITTED"),
        ("EXECUTION_ORDER_ACKED", acknowledgedStatus orderStatus)]

def agreeingStates : Answer → List String
  | .pending => ["CREATED", "SUBMITTED"]
  | .submitFailed => ["FAILED"]
  | .unreadable => ["FAILED"]
  | .acknowledged _ => ["CREATED", "SUBMITTED", "ACKED"]

theorem canonicalIntentState_mem (status : String) :
    canonicalIntentState status ∈ canonicalIntentStates := by
  unfold canonicalIntentState
  dsimp only
  split
  · decide
  · split
    · decide
    · split
      · assumption
      · decide

theorem acceptance_agree_iff (status : String) (answer : Answer) :
    (derive status (acceptanceLog answer)).state =
        (Core.reader.run "CREATED" (acceptanceLog answer)).1 ↔
      canonicalIntentState status ∈ agreeingStates answer := by
  rw [(derive_eq status _).1]
  have among := canonicalIntentState_mem status
  generalize canonicalIntentState status = state at among
  cases answer with
  | acknowledged orderStatus =>
    have acknowledged : acknowledgedStatus orderStatus ∈
        ["FILLED", "PARTIALLY_FILLED", "ACKED"] := by
      unfold acknowledgedStatus
      split
      · decide
      · split <;> decide
    show (reader.run state
        [("EXECUTION_ORDER_SUBMISSION_REQUESTED", "SUBMITTED"),
          ("EXECUTION_ORDER_SUBMITTED", "SUBMITTED"),
          ("EXECUTION_ORDER_ACKED", acknowledgedStatus orderStatus)]).1 =
      (Core.reader.run "CREATED"
        [("EXECUTION_ORDER_SUBMISSION_REQUESTED", "SUBMITTED"),
          ("EXECUTION_ORDER_SUBMITTED", "SUBMITTED"),
          ("EXECUTION_ORDER_ACKED", acknowledgedStatus orderStatus)]).1 ↔
      state ∈ ["CREATED", "SUBMITTED", "ACKED"]
    generalize acknowledgedStatus orderStatus = read at acknowledged
    revert read state
    decide +kernel
  | _ =>
    revert state
    decide +kernel

def filledLog : List Entry :=
  [("EXECUTION_ORDER_SUBMITTED", "SUBMITTED"), ("EXECUTION_ORDER_ACKED", "ACKED"),
    ("EXECUTION_ORDER_FINALIZED", "FILLED")]

def canceledLog : List Entry :=
  [("EXECUTION_ORDER_SUBMITTED", "SUBMITTED"), ("EXECUTION_ORDER_ACKED", "ACKED"),
    ("EXECUTION_ORDER_FINALIZED", "CANCELED")]

theorem filledLog_lawful : Lawful filledLog :=
  ⟨by decide +kernel, Reader.run_violations_iff.mp (by decide +kernel)⟩

end Namespace

end Lifecycle
