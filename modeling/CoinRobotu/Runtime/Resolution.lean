import CoinRobotu.Runtime.Handling

/-!
# When resolved means handled

A row of a failed event becomes resolved in two ways: an operator dismisses it by a key, or
the recovery loop meets it with a retry count of one or more.
-/

open Interleaving
open Program (only_bind follows_mono only_mono follows_of_only follows_lasting follows_then)

namespace Runtime

/-- What a thread may resolve: nothing, the rows that the operator's key has named, or the
row that the pass has read last. -/
inductive Hand where
  | bystander
  | dismissing (key : String) (named : List String)
  | recovering (createdAt : String → Time) (read : Option FailedEvent)

namespace Hand

def initial : HandlingTask → Hand
  | .recoveryPass createdAt => .recovering createdAt none
  | task => (task.dismissal.map fun key => .dismissing key []).getD .bystander

/-- A query by the key names the row it finds, and a pass reads with its own queries. -/
def next : Hand → (command : Command) → Except Failure command.Reply → Hand
  | .dismissing key named, .database (.findFailed _ entityId), .ok (some row) =>
      if entityId = key then .dismissing key (row.id :: named) else .dismissing key named
  | .dismissing key named, .database (.findFailedById id), .ok (some row) =>
      if id = key then .dismissing key (row.id :: named) else .dismissing key named
  | .dismissing key named, .database (.findFailedByEntity entityId), .ok (some row) =>
      if entityId = key then .dismissing key (row.id :: named) else .dismissing key named
  | .recovering createdAt _, .database .allFailed, .ok rows =>
      .recovering createdAt (recoveryQueue createdAt rows).head?
  | .recovering createdAt _, .database (.findFailedById _), .ok (some row) =>
      .recovering createdAt (some row)
  | hand, _, _ => hand

def mayResolve : Hand → String → Prop
  | .dismissing _ named, id => id ∈ named
  | .recovering _ (some row), id => row.id = id ∧ 1 ≤ row.retryCount
  | _, _ => False

def allows (hand : Hand) : Command → Prop
  | .database (.addFailed row) => row.status ≠ "resolved"
  | .database (.assignFailed id change) => KeepsId change ∧ (Gentle change ∨ hand.mayResolve id)
  | _ => True

end Hand

@[simps -fullyApplied] def resolving : Protocol services HandlingTask Hand :=
  ⟨.bystander, Hand.initial, Hand.next, Hand.allows, fun _ _ => True⟩

section Following

variable (hashing : Hashing IntentPayload) {α : Type}

abbrev Mild (program : Program services α) : Prop :=
  program.Only (S := services) (Command.lawful fun _ => False)

variable {program : Program services α}

theorem lawful_of_light {may : String → Prop}
    (light : LightBut may program) : program.Only (S := services) (Command.lawful may) :=
  only_mono (fun _ modest => modest.2) light

theorem mild_of_calm (calm : Calm program) : Mild program :=
  only_mono (fun _ calm => calm.2) calm

theorem Hand.allows_gentle (hand : Hand) {command : Command}
    (gentle : command.lawful fun _ => False) : hand.allows command := by
  cases command with
  | database command =>
    cases command with
    | addFailed row => exact gentle.1
    | assignFailed id change => exact ⟨gentle.keeps, gentle.gentle.imp_right False.elim⟩
    | _ => trivial
  | _ => trivial

theorem Hand.next_dismissing (key : String) (named : List String) (command : Command)
    (answer : Except Failure command.Reply) :
    ∃ more, Hand.next (.dismissing key named) command answer = .dismissing key more ∧
      named ⊆ more := by
  unfold Hand.next
  split
  all_goals first
    | (split
       · exact ⟨_, by simp_all; rfl, by simp_all⟩
       · exact ⟨_, by simp_all; rfl, by simp_all⟩)
    | exact ⟨named, by simp_all, by simp⟩

/-- A mild program may be run by a bystander. -/
theorem mild_bystander (mild : Mild program) :
    program.Follows resolving (fun _ _ => True) (fun _ _ => True) .bystander :=
  follows_of_only mild
    (fun _ gentle => ⟨Hand.allows_gentle _ gentle, fun _ => rfl⟩) (fun _ => trivial)
    (fun _ => trivial)

def Recovering (createdAt : String → Time) (hand : Hand) : Prop :=
  ∃ read, hand = .recovering createdAt read

theorem mild_recovering (mild : Mild program)
    {createdAt : String → Time} {hand : Hand} (recovering : Recovering createdAt hand) :
    program.Follows resolving (fun _ => Recovering createdAt) (fun _ => Recovering createdAt)
      hand := by
  refine follows_lasting (Recovering createdAt) mild ?_ (fun _ _ lasting => lasting)
    (fun _ _ lasting => lasting) recovering
  rintro _ command ⟨read, rfl⟩ gentle
  refine ⟨Hand.allows_gentle _ gentle, fun answer => ?_⟩
  show Recovering createdAt (Hand.next _ command answer)
  unfold Hand.next
  split
  all_goals first
    | exact ⟨_, rfl⟩
    | simp_all [Recovering]

def Named (key id : String) (hand : Hand) : Prop :=
  ∃ named, hand = .dismissing key named ∧ id ∈ named

def Keyed (key : String) (hand : Hand) : Prop := ∃ named, hand = .dismissing key named

theorem settling_named {key id : String}
    (settles : program.Only (S := services) (Command.lawful (· = id))) {hand : Hand}
    (named : Named key id hand) :
    program.Follows resolving (fun _ => Named key id) (fun _ => Named key id) hand := by
  refine follows_lasting (Named key id) settles ?_ (fun _ _ lasting => lasting)
    (fun _ _ lasting => lasting) named
  rintro _ command ⟨named, rfl, inside⟩ settling
  constructor
  · cases command with
    | database command =>
      cases command with
      | addFailed row => exact settling.1
      | assignFailed other change =>
        exact ⟨settling.keeps, settling.gentle.imp_right fun (same : other = id) => same ▸ inside⟩
      | _ => trivial
    | _ => trivial
  · intro answer
    obtain ⟨more, same, wider⟩ := Hand.next_dismissing key named command answer
    exact ⟨more, same, wider inside⟩

theorem mild_keyed {key : String} (mild : Mild program) {hand : Hand}
    (keyed : Keyed key hand) :
    program.Follows resolving (fun _ => Keyed key) (fun _ => Keyed key) hand := by
  refine follows_lasting (Keyed key) mild ?_ (fun _ _ lasting => lasting)
    (fun _ _ lasting => lasting) keyed
  rintro _ command ⟨named, rfl⟩ gentle
  refine ⟨Hand.allows_gentle _ gentle, fun answer => ?_⟩
  obtain ⟨more, same, -⟩ := Hand.next_dismissing key named command answer
  exact ⟨more, same⟩

end Following

section Operators

variable (hashing : Hashing IntentPayload)

variable {key : String}

variable {hand : Hand}

/-- A search by the operator's key names the row it finds. -/
theorem findQuarantined_names (keyed : Keyed key hand) :
    (findQuarantined key).Follows resolving
      (fun found reached => Keyed key reached ∧ ∀ row, found = some row → Named key row.id reached)
      (fun _ => Keyed key) hand := by
  obtain ⟨named, rfl⟩ := keyed
  have searched : ∀ reply : Option FailedEvent,
      Keyed key (Hand.next (.dismissing key named) (.database (.findFailedById key)) (.ok reply)) ∧
      Keyed key (Hand.next (.dismissing key named) (.database (.findFailedByEntity key))
        (.ok reply)) ∧
      (∀ row, reply = some row →
        Named key row.id
          (Hand.next (.dismissing key named) (.database (.findFailedById key)) (.ok reply)) ∧
        Named key row.id
          (Hand.next (.dismissing key named) (.database (.findFailedByEntity key))
            (.ok reply))) := by
    intro reply
    cases reply with
    | none => exact ⟨⟨named, rfl⟩, ⟨named, rfl⟩, fun _ impossible => nomatch impossible⟩
    | some row =>
      refine ⟨⟨row.id :: named, by simp [Hand.next]⟩, ⟨row.id :: named, by simp [Hand.next]⟩, ?_⟩
      rintro other same
      cases same
      exact ⟨⟨row.id :: named, by simp [Hand.next], List.mem_cons_self⟩,
        ⟨row.id :: named, by simp [Hand.next], List.mem_cons_self⟩⟩
  unfold findQuarantined
  refine follows_bind_call ⟨trivial, fun reply _ => ?_, fun _ _ => ⟨named, rfl⟩⟩
  cases reply with
  | some row =>
    refine ⟨(searched (some row)).1, fun other same => ?_⟩
    obtain rfl := Option.some.inj same
    exact ((searched (some row)).2.2 row rfl).1
  | none =>
    refine (follows_call _).mpr ⟨trivial, fun reply _ => ?_, fun _ _ => ⟨named, rfl⟩⟩
    exact ⟨(searched reply).2.1, fun row same => ((searched reply).2.2 row same).2⟩

/-- Whatever the core does by the operator's key, it resolves only rows that the key names. -/
theorem applyRuntimeQuarantineAction_keyed (action : String)
    (keyed : Keyed key hand) :
    (applyRuntimeQuarantineAction hashing key action).Follows resolving (fun _ => Keyed key)
      (fun _ => Keyed key) hand := by
  have lasting : ∀ {id : String} {reached : Hand}, Named key id reached → Keyed key reached :=
    fun ⟨named, same, _⟩ => ⟨named, same⟩
  refine follows_then (findQuarantined_names keyed) ?_ fun _ _ keyed => keyed
  rintro found reached ⟨keyed, names⟩
  cases found with
  | none => exact keyed
  | some row =>
    have named : Named key row.id reached := names row rfl
    have settled : ∀ {program : Program services Unit},
        program.Only (S := services) (Command.lawful (· = row.id)) →
        program.Follows resolving (fun _ => Keyed key) (fun _ => Keyed key) reached :=
      fun settles => follows_mono (settling_named settles named)
        (fun _ _ named => lasting named) fun _ _ named => lasting named
    dsimp only
    split
    · exact keyed
    · split
      · exact settled (lawful_of_light (only_bind (actOnRuntimeEvent_light _ _ fun _ => rfl)
          fun _ => createAuditLog_light.but))
      · exact settled (lawful_of_light (only_bind (actOnOtherEvent_light _ _ _ fun _ => rfl)
          fun _ => createAuditLog_light.but))

/-- The administration's entry resolves only the rows of the event it is given, and none
unless the event is dismissed. -/
theorem adminRuntimeQuarantineAction_keyed (action : String)
    (keyed : Keyed key hand) :
    (adminRuntimeQuarantineAction key action).Follows resolving (fun _ => Keyed key)
      (fun _ => Keyed key) hand := by
  obtain ⟨named, rfl⟩ := keyed
  refine follows_bind_call ⟨trivial, fun reply _ => ?_, fun _ _ => ⟨named, rfl⟩⟩
  cases reply with
  | none => exact ⟨named, rfl⟩
  | some row =>
    have found : Named key row.id (Hand.next (.dismissing key named)
        (.database (.findFailed "runtime_event" key)) (.ok (some row))) :=
      ⟨row.id :: named, by simp [Hand.next], List.mem_cons_self⟩
    have settled : ∀ {program : Program services Unit},
        program.Only (S := services) (Command.lawful (· = row.id)) →
        program.Follows resolving (fun _ => Keyed key) (fun _ => Keyed key)
          (Hand.next (.dismissing key named) (.database (.findFailed "runtime_event" key))
            (.ok (some row))) :=
      fun settles => follows_mono (settling_named settles found)
        (fun _ _ ⟨named, same, _⟩ => ⟨named, same⟩) fun _ _ ⟨named, same, _⟩ => ⟨named, same⟩
    exact settled (lawful_of_light (adminAction_light row action fun _ => rfl))

theorem applyExecutionSafetyQuarantineAction_keyed {action : String}
    (note : String) (dismisses : quarantineActionMap.find (lower (strip action)) = some "dismiss")
    (keyed : Keyed key hand) :
    (applyExecutionSafetyQuarantineAction hashing key action note).Follows resolving
      (fun _ => Keyed key) (fun _ => Keyed key) hand := by
  unfold applyExecutionSafetyQuarantineAction
  rw [dismisses]
  refine follows_then
    (mild_keyed (lawful_of_light (findQuarantined_light key)) keyed) ?_ fun _ _ keyed => keyed
  intro found reached keyed
  cases found with
  | none => exact keyed
  | some row =>
    have passed : actOnQuarantined hashing row key "dismiss" note =
        applyRuntimeQuarantineAction hashing key "dismiss" := by
      simp [actOnQuarantined]
    dsimp only
    rw [passed]
    refine follows_then
      (applyRuntimeQuarantineAction_keyed hashing _ keyed) ?_ fun _ _ keyed => keyed
    intro _ reached keyed
    exact mild_keyed (lawful_of_light (only_bind (appendResolution_light _ _) fun _ =>
      createAuditLog_light)) keyed

end Operators

section Loop

variable {createdAt : String → Time}

theorem markFailedEventRetry_light (loaded : FailedEvent) :
    Light (markFailedEventRetry loaded) := by
  have alerted : Light ((call (.aside "trigger_failed_event_alerts")).attempt fun _ =>
      Program.done ()) := by
    simp [Program.Only, Command.modest, Command.light, Command.lawful]
  unfold markFailedEventRetry
  dsimp only
  split
  · refine now_then_light fun updatedAt => only_bind ?_ fun _ => alerted
    exact changeFailedEvent_light (.of_status (fun _ => rfl) (fun _ => rfl) fun _ => by simp)
  · refine now_then_light fun now => now_then_light fun updatedAt => only_bind ?_ fun _ => alerted
    exact changeFailedEvent_light (.of_status (fun _ => rfl) (fun _ => rfl) fun _ => by simp)

theorem retryOrResolve_reading (current : FailedEvent) :
    (retryOrResolve current).Follows resolving (fun _ => Recovering createdAt)
      (fun _ => Recovering createdAt) (.recovering createdAt (some current)) := by
  unfold retryOrResolve
  split
  · rename_i retried
    simp [markFailedEventResolved, changeFailedEvent, Hand.next, Hand.allows, Hand.mayResolve,
      Recovering, KeepsId, retried]
  · exact mild_recovering (lawful_of_light (markFailedEventRetry_light current)) ⟨_, rfl⟩

theorem reloadFailedEvent_reading (id : String) {hand : Hand}
    (recovering : Recovering createdAt hand) :
    (reloadFailedEvent id).Follows resolving
      (fun current reached => reached = .recovering createdAt (some current))
      (fun _ => Recovering createdAt) hand := by
  obtain ⟨read, rfl⟩ := recovering
  refine follows_bind_call ⟨trivial, fun reply _ => ?_, fun _ _ => ⟨read, rfl⟩⟩
  cases reply with
  | none => exact ⟨read, rfl⟩
  | some row => rfl

/-- One row of the loop: the first one was read by the query, and any other is read again. -/
theorem recoverFailedEvent_reading {loaded : Bool} {row : FailedEvent} {hand : Hand}
    (recovering : Recovering createdAt hand)
    (first : loaded = true → hand = .recovering createdAt (some row)) :
    (recoverFailedEvent loaded row).Follows resolving (fun _ => Recovering createdAt)
      (fun _ => Recovering createdAt) hand := by
  have handler : ∀ {reached : Hand}, Recovering createdAt reached →
      ((reloadFailedEvent row.id).bind fun current =>
        markFailedEventRetry current).Follows resolving
        (fun _ => Recovering createdAt) (fun _ => Recovering createdAt) reached := by
    intro reached recovering
    refine follows_then
      (reloadFailedEvent_reading row.id recovering) ?_ fun _ _ recovering => recovering
    rintro current _ rfl
    exact mild_recovering (lawful_of_light (markFailedEventRetry_light current)) ⟨_, rfl⟩
  refine (Program.follows_attempt _ _).mpr
    (follows_mono ?_ (fun _ _ recovering => recovering)
    fun _ _ recovering => handler recovering)
  cases loaded with
  | true =>
    rw [first rfl]
    exact retryOrResolve_reading row
  | false =>
    refine follows_then
      (reloadFailedEvent_reading row.id recovering) ?_ fun _ _ recovering => recovering
    rintro current _ rfl
    exact retryOrResolve_reading current

theorem recoverFailedEvents_reading (rows : List FailedEvent) (loaded : Bool) {hand : Hand}
    (recovering : Recovering createdAt hand)
    (first : loaded = true → hand = .recovering createdAt rows.head?) :
    (recoverFailedEvents loaded rows).Follows resolving (fun _ => Recovering createdAt)
      (fun _ => Recovering createdAt) hand := by
  induction rows generalizing loaded hand with
  | nil => exact recovering
  | cons row rows ih =>
    refine follows_then
      (recoverFailedEvent_reading recovering first) ?_ fun _ _ recovering => recovering
    intro _ reached recovering
    exact ih false recovering nofun

theorem failedEventRecoveryPass_reading :
    (failedEventRecoveryPass createdAt).Follows resolving (fun _ _ => True) (fun _ _ => True)
      (.recovering createdAt none) := by
  refine (Program.follows_attempt _ _).mpr (follows_bind_call
    ⟨trivial, fun rows _ => ?_, fun _ _ => trivial⟩)
  exact follows_mono
    (recoverFailedEvents_reading (recoveryQueue createdAt rows) true ⟨_, rfl⟩ fun _ => rfl)
    (fun _ _ _ => trivial) fun _ _ _ => trivial

end Loop

/-- Every task resolves only what its thread may resolve. -/
theorem handlingCode_follows (hashing : Hashing IntentPayload) (task : HandlingTask) :
    (handlingCode hashing task).Follows resolving (fun _ _ => True) (fun _ _ => True)
      (Hand.initial task) := by
  have dropped : ∀ {α : Type} {program : Program services α}, Mild program →
      (program.bind fun _ => Program.done ()).Follows resolving (fun _ _ => True)
        (fun _ _ => True) .bystander :=
    fun mild => mild_bystander (only_bind mild fun _ => trivial)
  have operated : ∀ {key : String} {program : Program services Unit},
      program.Follows resolving (fun _ => Keyed key) (fun _ => Keyed key) (.dismissing key []) →
      program.Follows resolving (fun _ _ => True) (fun _ _ => True) (.dismissing key []) :=
    fun keyed => follows_mono keyed (fun _ _ _ => trivial) fun _ _ _ => trivial
  cases task with
  | publish eventType payload correlationId causationId partitionKey =>
    exact dropped (lawful_of_light (publish_light _))
  | dispatch strategyId correlationId decision context =>
    exact dropped (mild_of_calm (dispatchDecisionResult_calm _ _ _ _ _))
  | workerPass workerName => exact dropped (mild_of_calm (processSubmissionEventOnce_calm _ _))
  | recoveryPass createdAt => exact failedEventRecoveryPass_reading
  | adminAction eventId action =>
    by_cases dismisses : action = "dismiss"
    · subst dismisses
      exact operated (adminRuntimeQuarantineAction_keyed _ ⟨[], rfl⟩)
    · have still : Hand.initial (.adminAction eventId action) = .bystander := by
        simp [Hand.initial, HandlingTask.dismissal, dismisses]
      rw [still]
      exact mild_bystander (lawful_of_light
        (adminRuntimeQuarantineAction_light eventId action fun same => absurd same dismisses))
  | runtimeAction eventId action =>
    by_cases dismisses : lower (strip action) = "dismiss"
    · have holds : Hand.initial (.runtimeAction eventId action) = .dismissing eventId [] := by
        simp [Hand.initial, HandlingTask.dismissal, dismisses]
      rw [holds]
      exact operated (applyRuntimeQuarantineAction_keyed hashing action ⟨[], rfl⟩)
    · have still : Hand.initial (.runtimeAction eventId action) = .bystander := by
        simp [Hand.initial, HandlingTask.dismissal, dismisses]
      rw [still]
      exact mild_bystander (lawful_of_light
        (applyRuntimeQuarantineAction_light hashing eventId action fun same =>
          absurd same dismisses))
  | safetyAction quarantineId action note =>
    by_cases dismisses : quarantineActionMap.find (lower (strip action)) = some "dismiss"
    · have holds : Hand.initial (.safetyAction quarantineId action note) =
          .dismissing quarantineId [] := by
        simp [Hand.initial, HandlingTask.dismissal, dismisses]
      rw [holds]
      exact operated (applyExecutionSafetyQuarantineAction_keyed hashing note dismisses ⟨[], rfl⟩)
    · have still : Hand.initial (.safetyAction quarantineId action note) = .bystander := by
        simp [Hand.initial, HandlingTask.dismissal, dismisses]
      rw [still]
      exact mild_bystander (lawful_of_light
        (applyExecutionSafetyQuarantineAction_light hashing quarantineId action note fun same =>
          absurd same dismisses))

end Runtime
