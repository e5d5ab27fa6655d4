import CoinRobotu.Automata.Reading
import CoinRobotu.Runtime.Execution

/-!
# The log of an intent

A pass of the submission worker that finds the log of its intent open adds rows to it: one
when a gate refuses the order, else one for the submission and one for each state that the
exchange reports. A pass that raises on the way leaves the rows it had added, as its
failure handler commits them.
-/

open Interleaving

namespace Lifecycle

open Runtime

abbrev Entry := String × String

def entry (event : ExecutionIntentEvent) : Entry := (event.eventType, event.eventStatus)

def submitted : Entry := ("execution.order.submitted", "submitted")

def refused : Entry := (orderFinalized, "rejected")

/-- The rows of one submission; `seed` decides what the exchange reports. -/
def submissionEntries (seed : ℕ) : List Entry :=
  submitted :: (lifecycleOf seed).map fun state => (lifecycleEventType state, lower state)

/-- How one pass ends: a gate refuses, the pass raises after it has added some rows, or it
completes. -/
inductive Pass where
  | refused
  | stopped (count : ℕ)
  | completed
deriving DecidableEq

def Pass.writes (seed : ℕ) : Pass → List Entry
  | .refused => [Lifecycle.refused]
  | .stopped count => (submissionEntries seed).take count
  | .completed => submissionEntries seed

def closed (log : List Entry) : Bool := log.any fun row => row.1 = orderFinalized

def logOf (seed : ℕ) (passes : List Pass) : List Entry :=
  passes.foldl (fun log pass => if closed log then log else log ++ pass.writes seed) []

section Shape

variable {seed : ℕ}

theorem Pass.writes_cases (pass : Pass) :
    pass.writes seed = [] ∨ pass.writes seed = [Lifecycle.refused] ∨
      ∃ rows, pass.writes seed = submitted :: rows := by
  cases pass with
  | refused => exact .inr (.inl rfl)
  | stopped count =>
    cases count with
    | zero => exact .inl rfl
    | succ count => exact .inr (.inr ⟨_, rfl⟩)
  | completed => exact .inr (.inr ⟨_, rfl⟩)

theorem prefix_foldl (log : List Entry) (passes : List Pass) :
    log <+: passes.foldl
      (fun log pass => if closed log then log else log ++ pass.writes seed) log := by
  induction passes generalizing log with
  | nil => exact List.prefix_refl log
  | cons pass passes ih =>
    rw [List.foldl_cons]
    split
    · exact ih log
    · exact (List.prefix_append log _).trans (ih _)

theorem foldl_closed {log : List Entry} (isClosed : closed log = true) (passes : List Pass) :
    passes.foldl (fun log pass => if closed log then log else log ++ pass.writes seed)
      log = log := by
  induction passes with
  | nil => rfl
  | cons pass passes ih =>
    rw [List.foldl_cons, if_pos isClosed, ih]

theorem logOf_cases (passes : List Pass) :
    logOf seed passes = [] ∨ logOf seed passes = [refused] ∨
      ∃ rows, logOf seed passes = submitted :: rows := by
  unfold logOf
  induction passes with
  | nil => exact .inl rfl
  | cons pass passes ih =>
    rw [List.foldl_cons]
    rcases @Pass.writes_cases seed pass with nothing | isRefused | ⟨rows, begun⟩
    · have open_ : (if closed [] = true then [] else [] ++ pass.writes seed) = [] := by
        rw [nothing]
        rfl
      rw [open_]
      exact ih
    · have one : (if closed [] = true then [] else [] ++ pass.writes seed) = [refused] := by
        rw [isRefused]
        rfl
      rw [one, foldl_closed rfl]
      exact .inr (.inl rfl)
    · have some : (if closed [] = true then [] else [] ++ pass.writes seed) =
          submitted :: rows := by
        rw [begun]
        rfl
      rw [some]
      obtain ⟨later, grown⟩ := @prefix_foldl seed (submitted :: rows) passes
      exact .inr (.inr ⟨rows ++ later, grown.symm⟩)

end Shape

section Worker

def writing : Protocol services Empty (List Entry) where
  idle := []
  initial := Empty.elim
  next
    | written, .database (.addEvent event), .ok _ => written ++ [entry event]
    | written, _, _ => written
  allows _ _ := True
  possible _ _ := True

def quiet : Command → Prop
  | .database (.addEvent _) => False
  | _ => True

variable {α : Type} {written : List Entry}

theorem follows_of_quiet {program : Program services α} {returns : α → List Entry → Prop}
    {raises : Failure → List Entry → Prop} (only : program.Only (S := services) quiet)
    (onReturn : ∀ value, returns value written) (onRaise : ∀ failure, raises failure written) :
    program.Follows writing returns raises written := by
  refine Program.follows_of_only only (fun command isQuiet => ⟨trivial, fun answer => ?_⟩)
    onReturn onRaise
  cases command with
  | database command => cases command <;> first | exact isQuiet.elim | rfl
  | _ => rfl

theorem addIntentEvent_writes (intentId eventType eventStatus : String)
    (externalOrderId : Option String) (payload : Payload) :
    (addIntentEvent intentId eventType eventStatus externalOrderId payload).Follows writing
      (fun _ reached => reached = written ++ [(eventType, eventStatus)])
      (fun _ reached => reached = written) written := by
  simp [addIntentEvent, writing, entry]

variable (hashing : Hashing IntentPayload)

theorem publish_quiet (eventType : String) (payload : Payload) (correlationId : String)
    (causationId : Option String) (partitionKey : String) :
    (publishRuntimeEvent hashing eventType payload correlationId causationId
      partitionKey).Only (S := services) quiet := by
  simp [Program.Only, publishRuntimeEvent, quiet]

/-- The loop over the states, by induction on them. -/
theorem recordLifecycle_writes (intent : ExecutionIntent) (eventId externalOrderId : String)
    (states : List String) (written : List Entry) :
    (recordLifecycle hashing intent eventId externalOrderId states).Follows writing
      (fun _ reached => reached =
        written ++ states.map fun state => (lifecycleEventType state, lower state))
      (fun _ reached => ∃ count, reached = written ++
        (states.map fun state => (lifecycleEventType state, lower state)).take count) written := by
  induction states generalizing written with
  | nil => simp [recordLifecycle]
  | cons state states ih =>
    apply Program.follows_then (addIntentEvent_writes intent.intentId _ _ _ _)
    · rintro _ _ rfl
      apply (Program.follows_bind _ _).mpr
      apply follows_of_quiet (publish_quiet hashing _ _ _ _ _)
      · intro _
        apply Program.follows_mono (ih _)
        · rintro _ _ rfl
          simp
        · rintro _ _ ⟨count, rfl⟩
          exact ⟨count + 1, by simp⟩
      · exact fun _ => ⟨1, by simp⟩
    · rintro _ _ rfl
      exact ⟨0, by simp⟩

theorem completeSubmission_quiet (eventId processingQueue : String) (raw : Raw)
    (result : PassResult) :
    (completeSubmission eventId processingQueue raw result).Only (S := services) quiet := by
  simp [Program.Only, completeSubmission, markEventProcessed, ackRuntimeEvent, quiet]

variable (intent : ExecutionIntent)

variable (eventId processingQueue : String)

theorem blockSubmission_writes (raw : Raw) (reasonCode : String) :
    (blockSubmission intent eventId processingQueue raw reasonCode).Follows writing
      (fun _ reached => reached = [refused]) (fun _ reached => reached = [] ∨
        reached = [refused]) [] := by
  apply Program.follows_then (addIntentEvent_writes intent.intentId _ _ _ _)
  · rintro _ _ rfl
    apply follows_of_quiet (completeSubmission_quiet _ _ _ _)
    · exact fun _ => rfl
    · exact fun _ => .inr rfl
  · exact fun _ _ => .inl

theorem recordSubmission_writes (raw : Raw) :
    (recordSubmission hashing intent eventId processingQueue raw).Follows writing
      (fun _ reached => reached = submissionEntries (hashing.seed intent.intentHash))
      (fun _ reached => ∃ count,
        reached = (submissionEntries (hashing.seed intent.intentHash)).take count) [] := by
  have answered : ((submitOrder hashing
      ⟨intent.intentHash, intent.quantity, intent.priceReference⟩).attempt
        fun _ => throw (.runtimeError "exchange_adapter_failure")).Follows writing
      (fun submission reached =>
        submission.lifecycle = lifecycleOf (hashing.seed intent.intentHash) ∧ reached = [])
      (fun _ reached => reached = []) [] := by
    simp [submitOrder, writing]
  apply Program.follows_then answered
  · rintro submission _ ⟨lifecycle, rfl⟩
    apply Program.follows_then (addIntentEvent_writes intent.intentId _ _ _ _)
    · rintro _ _ rfl
      apply (Program.follows_bind _ _).mpr
      apply follows_of_quiet (publish_quiet hashing _ _ _ _ _)
      · intro _
        apply (Program.follows_bind _ _).mpr
        rw [lifecycle]
        apply Program.follows_mono (recordLifecycle_writes hashing intent _ _ _ _)
        · rintro _ _ rfl
          have whole : ∃ count, submissionEntries (hashing.seed intent.intentHash) =
              (submissionEntries (hashing.seed intent.intentHash)).take count :=
            ⟨_, (List.take_length).symm⟩
          apply (Program.follows_bind _ _).mpr
          apply follows_of_quiet
          · exact only_call trivial
          · intro _
            apply (Program.follows_bind _ _).mpr
            apply follows_of_quiet
            · simp [Program.Only, noteConnection, quiet]
            · intro _
              apply follows_of_quiet (completeSubmission_quiet _ _ _ _)
              · exact fun _ => rfl
              · exact fun _ => whole
            · exact fun _ => whole
          · exact fun _ => whole
        · rintro _ _ ⟨count, rfl⟩
          exact ⟨count + 1, rfl⟩
      · exact fun _ => ⟨1, rfl⟩
    · rintro _ _ rfl
      exact ⟨0, rfl⟩
  · rintro _ _ rfl
    exact ⟨0, rfl⟩

/-- A pass that took an event of an intent adds the rows of one of the three ways to end,
whatever it is answered. -/
theorem submitIntent_writes (raw : Raw) :
    (submitIntent hashing intent eventId processingQueue raw).Follows writing
      (fun _ reached => ∃ pass : Pass, reached = pass.writes (hashing.seed intent.intentHash))
      (fun _ reached => ∃ pass : Pass, reached =
        pass.writes (hashing.seed intent.intentHash)) [] := by
  have blocked :
      ∀ reasonCode, (blockSubmission intent eventId processingQueue raw reasonCode).Follows
      writing
      (fun _ reached => ∃ pass : Pass, reached = pass.writes (hashing.seed intent.intentHash))
      (fun _ reached => ∃ pass : Pass, reached =
        pass.writes (hashing.seed intent.intentHash)) [] := by
    intro reasonCode
    apply Program.follows_mono (blockSubmission_writes intent _ _ _ _)
    · exact fun _ _ isRefused => ⟨.refused, isRefused⟩
    · rintro _ _ (nothing | isRefused)
      · exact ⟨.stopped 0, nothing⟩
      · exact ⟨.refused, isRefused⟩
  apply (Program.follows_bind _ _).mpr
  apply follows_of_quiet
  · exact only_call trivial
  · intro terminalEvent
    rw [Program.follows_ite]
    refine ⟨fun _ => ⟨.stopped 0, rfl⟩, fun _ => ?_⟩
    apply (Program.follows_bind _ _).mpr
    apply follows_of_quiet
    · apply Program.only_outcome
      simp [Program.Only, enforceGates, quiet]
    · intro outcome
      split
      · apply Program.follows_mono (recordSubmission_writes hashing intent _ _ _)
        · exact fun _ _ completed => ⟨.completed, completed⟩
        · rintro _ _ ⟨count, stopped⟩
          exact ⟨.stopped count, stopped⟩
      · exact blocked _
      · exact blocked _
      · exact ⟨.stopped 0, rfl⟩
    · exact fun _ => ⟨.stopped 0, rfl⟩
  · exact fun _ => ⟨.stopped 0, rfl⟩

end Worker

/-!
## The state that the safety core derives

The safety core reads the log of an intent through a table of transitions. It looks for
event types such as `EXECUTION_ORDER_SUBMITTED`, while the submission worker writes
`execution.order.submitted`: in upper case the dots remain, so no type is recognised and
the status alone decides.
-/

open Automata

/-- `_normalize_code`. -/
def normalizeCode (raw : String) : String := upper (strip raw)

/-- `needle in text`. -/
def occursIn (needle text : String) : Bool := text.toList.tails.any needle.toList.isPrefixOf

namespace Core

/-- `INTENT_ALLOWED_TRANSITIONS`; a state that is not in the table has no successors. -/
def intentAllowedTransitions (state : String) : List String :=
  if state = "CREATED" then ["SUBMITTED", "FAILED", "QUARANTINED", "CANCELED"]
  else if state = "SUBMITTED" then ["ACKED", "FAILED", "QUARANTINED", "CANCELED"]
  else if state = "ACKED" then ["FILLED", "FAILED", "QUARANTINED", "CANCELED"]
  else if state = "QUARANTINED" then ["SUBMITTED", "FAILED", "CANCELED"]
  else []

/-- The cascade of `_intent_state_from_event`, over the normalized type and status. -/
def targetOf (eventType eventStatus : String) : Option String :=
  if eventType ∈ ["EXECUTION_ORDER_SUBMISSION_REQUESTED", "EXECUTION_ORDER_SUBMITTED"] then
    some "SUBMITTED"
  else if eventType ∈ ["EXECUTION_ORDER_ACKED", "EXECUTION_ORDER_ACCEPTED"] ∨
      eventStatus ∈ ["NEW", "SUBMITTED", "ACCEPTED", "PARTIALLY_FILLED", "PARTIAL_FILL"] then
    some "ACKED"
  else if eventType ∈ ["EXECUTION_ORDER_FILLED", "EXECUTION_ORDER_FINALIZED"] ∧
      eventStatus = "FILLED" then
    some "FILLED"
  else if eventStatus ∈ ["FAILED", "REJECTED", "ERROR"] then some "FAILED"
  else if eventStatus ∈ ["CANCELLED", "CANCELED", "EXPIRED"] then some "CANCELED"
  else if occursIn "QUARANTINE" eventType then some "QUARANTINED"
  else none

/-- `_intent_state_from_event`, as a reader of rows. -/
def reader : Reader String Entry String where
  allowed := intentAllowedTransitions
  target row := targetOf (normalizeCode row.1) (normalizeCode row.2)
  report current target := "invalid_transition:" ++ current ++ "->" ++ target

/-- `_intent_timeout_config`, in seconds. -/
structure Timeouts where
  created : ℤ
  submitted : ℤ
  acked : ℤ

def Timeouts.find (timeouts : Timeouts) (state : String) : Option ℤ :=
  if state = "CREATED" then some timeouts.created
  else if state = "SUBMITTED" then some timeouts.submitted
  else if state = "ACKED" then some timeouts.acked
  else none

/-- What the snapshot derives for one intent. -/
structure Classified where
  state : String
  statePath : List String
  violations : List String
  lastTransitionAt : Time
  isStuck : Bool

/-- The loop of the snapshot over the rows of one intent. -/
def foldEvents : List ExecutionIntentEvent → Classified → Classified
  | [], derived => derived
  | event :: events, derived =>
      let next := reader.step derived.state (entry event)
      foldEvents events
        { derived with
          state := next.1
          statePath :=
            if next.1 = derived.state then derived.statePath else derived.statePath ++ [next.1]
          violations := derived.violations ++ next.2.toList
          lastTransitionAt := event.createdAt }

/-- The part of `get_execution_intent_state_machine_snapshot` that classifies an intent;
times are in microseconds. -/
def classify (timeouts : Timeouts) (now : Time) (intent : ExecutionIntent)
    (log : List ExecutionIntentEvent) : Classified :=
  let derived := foldEvents log ⟨"CREATED", ["CREATED"], [], intent.createdAt, false⟩
  let age := max (now - derived.lastTransitionAt) 0
  { derived with
    isStuck := match timeouts.find derived.state with
      | some timeout => timeout * 1000000 < age
      | none => false }

/-- What the worker means by a row: what its type says, and for a finalization what its
status says. -/
def stageOf (row : Entry) : String :=
  if row.1 = orderFinalized then
    if row.2 = "filled" then "FILLED" else if row.2 = "canceled" then "CANCELED" else "FAILED"
  else if row.1 = "execution.order.submitted" then "SUBMITTED"
  else "ACKED"

def lastStage (log : List Entry) : String := (log.getLast?.map stageOf).getD "CREATED"

/-- The derived state is the last stage, nothing is reported, and a finalized intent is
never stuck. -/
structure Refines (timeouts : Timeouts) (intent : ExecutionIntent)
    (log : List ExecutionIntentEvent) :
    Prop where
  state : ∀ now, (classify timeouts now intent log).state = lastStage (log.map entry)
  violations : ∀ now, (classify timeouts now intent log).violations = []
  settled : ∀ row, (log.map entry).getLast? = some row → row.1 = orderFinalized →
    ∀ now, (classify timeouts now intent log).isStuck = false

section Reading

variable {timeouts : Timeouts} {intent : ExecutionIntent} {log : List ExecutionIntentEvent}

theorem foldEvents_eq (log : List ExecutionIntentEvent) (derived : Classified) :
    (foldEvents log derived).state = (reader.run derived.state (log.map entry)).1 ∧
      (foldEvents log derived).violations =
        derived.violations ++ (reader.run derived.state (log.map entry)).2 := by
  induction log generalizing derived with
  | nil => exact ⟨rfl, (List.append_nil _).symm⟩
  | cons event log ih =>
    unfold foldEvents
    obtain ⟨state, violations⟩ := ih _
    rw [state, violations, List.map_cons, Reader.run_cons, List.append_assoc]
    exact ⟨rfl, rfl⟩

theorem classify_state (now : Time) :
    (classify timeouts now intent log).state = (reader.run "CREATED" (log.map entry)).1 :=
  (foldEvents_eq log _).1

theorem classify_violations (now : Time) :
    (classify timeouts now intent log).violations = (reader.run "CREATED" (log.map entry)).2 :=
  (foldEvents_eq log _).2

theorem classify_isStuck (now : Time) (untimed : timeouts.find
    (classify timeouts now intent log).state = none) :
    (classify timeouts now intent log).isStuck = false := by
  unfold classify at untimed ⊢
  dsimp only at untimed ⊢
  rw [untimed]

/-- A submission that comes first is not allowed by the table. -/
theorem submitted_first (rows : List Entry) :
    (reader.run "CREATED" (submitted :: rows)).2 ≠ [] := by
  have refusedStep : (reader.step "CREATED" submitted).2 =
      some "invalid_transition:CREATED->ACKED" := by decide +kernel
  rw [Reader.run_cons, refusedStep]
  exact List.cons_ne_nil _ _

/-- For every log that the worker writes, the derived lifecycle refines it exactly when no
order of the intent was submitted. -/
theorem core_refines_log_iff {seed : ℕ} {passes : List Pass}
    (written : log.map entry = logOf seed passes) :
    Refines timeouts intent log ↔ submitted ∉ logOf seed passes := by
  rcases @logOf_cases seed passes with nothing | isRefused | ⟨rows, begun⟩
  · rw [nothing] at written ⊢
    refine iff_of_true ⟨fun now => ?_, fun now => ?_, fun row last => ?_⟩ List.not_mem_nil
    · rw [classify_state, written]
      rfl
    · rw [classify_violations, written]
      rfl
    · rw [written] at last
      cases last
  · rw [isRefused] at written ⊢
    have state : ∀ now, (classify timeouts now intent log).state = "FAILED" := by
      intro now
      rw [classify_state, written]
      decide +kernel
    refine iff_of_true ⟨fun now => ?_, fun now => ?_, fun row last finalized now => ?_⟩ ?_
    · rw [state now, written]
      decide +kernel
    · rw [classify_violations, written]
      decide +kernel
    · apply classify_isStuck
      rw [state now]
      rfl
    · decide +kernel
  · rw [begun] at written ⊢
    refine iff_of_false (fun refines => ?_) fun absent => absent List.mem_cons_self
    have silent := refines.violations 0
    rw [classify_violations, written] at silent
    exact submitted_first rows silent

end Reading

def sampleIntent : ExecutionIntent :=
  { intentId := "intent-1"
    strategyId := "strategy"
    strategyVersionId := "v1"
    accountId := none
    symbol := "BTCUSDT"
    side := "BUY"
    orderType := "MARKET"
    quantity := 1
    priceReference := ""
    decisionHash := "decision"
    contextHash := "context"
    intentHash := "hash"
    correlationId := "correlation"
    status := "pending"
    createdAt := 0 }

def rowsOf (entries : List Entry) : List ExecutionIntentEvent :=
  entries.map fun row => ⟨"", "intent-1", row.1, row.2, none, [], 0⟩

def defaultTimeouts : Timeouts := ⟨60, 120, 300⟩

theorem core_refines_log_iff_refused :
    Refines defaultTimeouts sampleIntent (rowsOf (logOf 1 [.stopped 0, .refused])) := by
  have written : (rowsOf (logOf 1 [.stopped 0, .refused])).map entry =
      logOf 1 [.stopped 0, .refused] := by decide +kernel
  exact (core_refines_log_iff written).mpr (by decide +kernel)

/-- An intent that was filled is derived as created, with three violations, and is stuck
after a minute. -/
theorem filled_log_derived_as_created :
    let log := rowsOf (logOf 1 [.completed])
    (log.map entry).getLast? = some (orderFinalized, "filled") ∧
      (classify defaultTimeouts 61000000 sampleIntent log).state = "CREATED" ∧
      (classify defaultTimeouts 61000000 sampleIntent log).violations.length = 3 ∧
      (classify defaultTimeouts 61000000 sampleIntent log).isStuck = true ∧
      ¬Refines defaultTimeouts sampleIntent log := by
  refine ⟨by decide +kernel, by decide +kernel, by decide +kernel, by decide +kernel, ?_⟩
  intro refines
  exact absurd (refines.violations 0) (by decide +kernel)

end Core

end Lifecycle
