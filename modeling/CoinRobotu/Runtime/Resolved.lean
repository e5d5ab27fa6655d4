import CoinRobotu.Runtime.Resolution

/-!
# Rows that become resolved

A run is attentive when the recovery loop reads no row with a retry count of one or more
whose event has not been processed since the row was recorded.
-/

open Interleaving

namespace Runtime

def Marks (eventId : String) : services.Event → Prop
  | ⟨.redis (.sadd set member), .ok _⟩ => set = processedEventsSet ∧ member = eventId
  | _ => False

/-- The event that a row was recorded for has been processed after the row was recorded. -/
def Handled (recorded : List FailedEvent) (trace : List (Thread × services.Event)) (id : String) :
    Prop :=
  ∃ row past mark later, trace = past ++ mark :: later ∧ row.id = id ∧
    row.entityType = "runtime_event" ∧ Marks row.entityId mark.2 ∧
    (row ∈ recorded ∨
      ∃ record ∈ past, record.2 = (⟨.database (.addFailed row), .ok ()⟩ : services.Event))

/-- A query by the key has found the row. -/
def Names (key id : String) : services.Event → Prop
  | ⟨.database (.findFailed _ entityId), .ok (some row)⟩ => entityId = key ∧ row.id = id
  | ⟨.database (.findFailedById found), .ok (some row)⟩ => found = key ∧ row.id = id
  | ⟨.database (.findFailedByEntity entityId), .ok (some row)⟩ => entityId = key ∧ row.id = id
  | _ => False

def Dismisses (running : Running services HandlingTask) (id : String) : Prop :=
  ∃ key, running.task.dismissal = some key ∧ ∃ event ∈ running.past, Names key id event

def Resolved (world : World) (id : String) : Prop :=
  ∃ row ∈ world.database.failed, row.id = id ∧ row.status = "resolved"

def World.takesUp (world : World) (createdAt : String → Time) : Command → Option FailedEvent
  | .database .allFailed =>
      (recoveryQueue createdAt (world.database.failed.insertionSort
        fun left right => left.updatedAt ≤ right.updatedAt)).head?
  | .database (.findFailedById id) => world.database.failed.find? (·.id = id)
  | _ => none

/-- Whenever the recovery loop takes up a row that has been retried, the event of the row has
been processed since. -/
def attentive (recorded : List FailedEvent) :
    Discipline services World Oracle HandlingTask Hand where
  starts _ _ _ := True
  runs view thread oracle command := oracle.fault = none → ∀ createdAt read,
    view.phases thread = .recovering createdAt read →
      ∀ row, view.world.takesUp createdAt command = some row → 1 ≤ row.retryCount →
        Handled recorded view.trace row.id
  dies _ _ := True

section Invariant

variable {recorded : List FailedEvent}

theorem Handled.append {trace : List (Thread × services.Event)} {id : String}
    (handled : Handled recorded trace id) (more : List (Thread × services.Event)) :
    Handled recorded (trace ++ more) id := by
  obtain ⟨row, past, mark, later, rfl, named, kind, marks, known⟩ := handled
  exact ⟨row, past, mark, later ++ more, by simp, named, kind, marks, known⟩

def Warranted (recorded : List FailedEvent) (view : View services World HandlingTask Hand)
    (thread : Thread) (id : String) : Prop :=
  (∃ key, Named key id (view.phases thread)) ∨ Handled recorded view.trace id

/-- Nothing that is pending resolves a row without a reason, and what the loop has read and
will resolve has been handled. -/
structure Reasoned (recorded : List FailedEvent) (view : View services World HandlingTask Hand) :
    Prop where
  changes : ∀ thread, ∀ entry ∈ (view.world.sessions thread).changes,
    KeepsId entry.2 ∧ (Gentle entry.2 ∨ Warranted recorded view thread entry.1)
  added : ∀ thread, ∀ row ∈ (view.world.sessions thread).newFailed, row.status ≠ "resolved"
  read : ∀ thread createdAt row, view.phases thread = .recovering createdAt (some row) →
    1 ≤ row.retryCount → Handled recorded view.trace row.id

/-- A command adds its own assignment or row to its session, or leaves both lists of the
session, or empties them. -/
theorem Session.after_cases (session : Session) (command : Command)
    (answer : Except Failure command.Reply) :
    (∃ id change, command = .database (.assignFailed id change) ∧
      session.after command answer =
        { session with changes := session.changes ++ [(id, change)] }) ∨
    (∃ row, command = .database (.addFailed row) ∧
      session.after command answer = { session with newFailed := session.newFailed ++ [row] }) ∨
    ((session.after command answer).changes = session.changes ∧
      (session.after command answer).newFailed = session.newFailed) ∨
    ((session.after command answer).changes = [] ∧
      (session.after command answer).newFailed = []) := by
  cases command with
  | database command =>
    cases command with
    | assignFailed id change =>
      cases answer with
      | ok reply => exact .inl ⟨id, change, rfl, rfl⟩
      | error failure => exact .inr (.inr (.inl ⟨rfl, rfl⟩))
    | addFailed row =>
      cases answer with
      | ok reply => exact .inr (.inl ⟨row, rfl, rfl⟩)
      | error failure => exact .inr (.inr (.inl ⟨rfl, rfl⟩))
    | flush =>
      cases answer with
      | ok reply => exact .inr (.inr (.inl ⟨rfl, rfl⟩))
      | error failure => exact .inr (.inr (.inr ⟨rfl, rfl⟩))
    | commit => cases answer <;> exact .inr (.inr (.inr ⟨rfl, rfl⟩))
    | rollback =>
      cases answer with
      | ok reply => exact .inr (.inr (.inr ⟨rfl, rfl⟩))
      | error failure => exact .inr (.inr (.inl ⟨rfl, rfl⟩))
    | _ => cases answer <;> exact .inr (.inr (.inl ⟨rfl, rfl⟩))
  | _ => exact .inr (.inr (.inl ⟨rfl, rfl⟩))

variable {command : Command}

variable {answer : Except Failure command.Reply}

theorem Session.mem_after_changes {session : Session}
    {entry : String × (FailedEvent → FailedEvent)}
    (inside : entry ∈ (session.after command answer).changes) :
    entry ∈ session.changes ∨ command = .database (.assignFailed entry.1 entry.2) := by
  rcases session.after_cases command answer with
    ⟨id, change, assigns, after⟩ | ⟨row, _, after⟩ | ⟨same, _⟩ | ⟨none, _⟩
  · rw [after] at inside
    rcases List.mem_append.mp inside with earlier | added
    · exact Or.inl earlier
    · obtain rfl := List.mem_singleton.mp added
      exact Or.inr assigns
  · rw [after] at inside
    exact Or.inl inside
  · rw [same] at inside
    exact Or.inl inside
  · rw [none] at inside
    cases inside

theorem Session.mem_after_newFailed {session : Session}
    {row : FailedEvent}
    (inside : row ∈ (session.after command answer).newFailed) :
    row ∈ session.newFailed ∨ command = .database (.addFailed row) := by
  rcases session.after_cases command answer with
    ⟨id, change, _, after⟩ | ⟨added, adds, after⟩ | ⟨_, same⟩ | ⟨_, none⟩
  · rw [after] at inside
    exact Or.inl inside
  · rw [after] at inside
    rcases List.mem_append.mp inside with earlier | new
    · exact Or.inl earlier
    · obtain rfl := List.mem_singleton.mp new
      exact Or.inr adds
  · rw [same] at inside
    exact Or.inl inside
  · rw [none] at inside
    cases inside

theorem World.query_cases {β : Type} (world : World) (thread : Thread) (answer : Database → β) :
    (∃ failure, (world.query thread answer).2 = .error failure) ∨
      (world.query thread answer).2 = .ok (answer world.database) := by
  unfold World.query
  split
  · exact Or.inl ⟨_, rfl⟩
  · exact Or.inr rfl

theorem World.perform_allFailed (world : World) (thread : Thread) (oracle : Oracle) :
    (∃ failure, (world.perform thread oracle (.database .allFailed)).2 = .error failure) ∨
      oracle.fault = none ∧
      (world.perform thread oracle (.database .allFailed)).2 =
        .ok (world.database.failed.insertionSort
          fun left right => left.updatedAt ≤ right.updatedAt) := by
  unfold World.perform
  cases fault : oracle.fault with
  | some failure => exact Or.inl ⟨failure, rfl⟩
  | none => exact (world.query_cases thread _).imp_right fun answered => ⟨rfl, answered⟩

theorem World.perform_findFailedById (world : World) (thread : Thread) (oracle : Oracle)
    (id : String) :
    (∃ failure, (world.perform thread oracle (.database (.findFailedById id))).2 =
      .error failure) ∨
      oracle.fault = none ∧
      (world.perform thread oracle (.database (.findFailedById id))).2 =
        .ok (world.database.failed.find? (·.id = id)) := by
  unfold World.perform
  cases fault : oracle.fault with
  | some failure => exact Or.inl ⟨failure, rfl⟩
  | none => exact (world.query_cases thread _).imp_right fun answered => ⟨rfl, answered⟩

variable {oracle : Oracle}

/-- A pass has read what it had read before, or what its query takes up. -/
theorem Hand.next_reading {hand : Hand} {world : World} {thread : Thread}
    {createdAt : String → Time} {row : FailedEvent}
    (reading : Hand.next hand command (world.perform thread oracle command).2 =
      .recovering createdAt (some row)) :
    ∃ read, hand = .recovering createdAt read ∧
      (read = some row ∨ oracle.fault = none ∧ world.takesUp createdAt command = some row) := by
  cases hand with
  | bystander => cases reading
  | dismissing key named =>
    obtain ⟨more, same, -⟩ := Hand.next_dismissing key named command
      (world.perform thread oracle command).2
    rw [same] at reading
    cases reading
  | recovering created read =>
    have kept : Hand.recovering created read = .recovering createdAt (some row) →
        ∃ before, Hand.recovering created read = .recovering createdAt before ∧
          (before = some row ∨
            oracle.fault = none ∧ world.takesUp createdAt command = some row) := by
      rintro same
      obtain ⟨rfl, rfl⟩ := Hand.recovering.inj same
      exact ⟨some row, rfl, Or.inl rfl⟩
    cases command with
    | database command =>
      cases command with
      | allFailed =>
        rcases world.perform_allFailed thread oracle with ⟨failure, raised⟩ | ⟨sound, answered⟩
        · rw [raised] at reading
          exact kept reading
        · rw [answered] at reading
          obtain ⟨rfl, taken⟩ := Hand.recovering.inj reading
          exact ⟨read, rfl, Or.inr ⟨sound, taken⟩⟩
      | findFailedById id =>
        rcases world.perform_findFailedById thread oracle id with
            ⟨failure, raised⟩ | ⟨sound, answered⟩
        · rw [raised] at reading
          exact kept reading
        · rw [answered] at reading
          cases found : world.database.failed.find? (·.id = id) with
          | none =>
            rw [found] at reading
            exact kept reading
          | some other =>
            rw [found] at reading
            obtain ⟨rfl, same⟩ := Hand.recovering.inj reading
            exact ⟨read, rfl, Or.inr ⟨sound, found.trans same⟩⟩
      | _ => exact kept reading
    | _ => exact kept reading

variable {hashing : Hashing IntentPayload} {view : View services World HandlingTask Hand}

theorem Reasoned.renew (reasoned : Reasoned recorded view) (thread : Thread) (hand : Hand)
    (unread : ∀ createdAt row, hand ≠ .recovering createdAt (some row))
      (started : List HandlingTask) :
    Reasoned recorded
      ⟨view.world.putSession thread .fresh, Function.update view.phases thread hand, started,
        view.trace⟩ := by
  refine ⟨fun other entry inside => ?_, fun other row inside => ?_,
    fun other createdAt row reading => ?_⟩
  · by_cases same : other = thread
    · subst same
      simp [Session.fresh] at inside
    · simp only [World.putSession_sessions, Function.update_of_ne same] at inside
      simpa only [Warranted, Function.update_of_ne same] using reasoned.changes other entry inside
  · by_cases same : other = thread
    · subst same
      simp [Session.fresh] at inside
    · simp only [World.putSession_sessions, Function.update_of_ne same] at inside
      exact reasoned.added other row inside
  · by_cases same : other = thread
    · subst same
      exact absurd (by simpa using reading) (unread createdAt row)
    · simp only [Function.update_of_ne same] at reading
      exact reasoned.read other createdAt row reading

theorem Warranted.perform {thread other : Thread}
    {id : String}
    (warranted : Warranted recorded view other id) :
    Warranted recorded
      (view.perform (handling hashing).toService resolving thread oracle command) other id := by
  rcases warranted with ⟨key, named, same, inside⟩ | handled
  · left
    by_cases own : other = thread
    · subst own
      obtain ⟨more, after, wider⟩ := Hand.next_dismissing key named command
        (view.world.perform other oracle command).2
      refine ⟨key, more, ?_, wider inside⟩
      simp only [View.perform, Function.update_self, resolving_next]
      rw [same]
      exact after
    · exact ⟨key, named, by simpa [View.perform, own] using same, inside⟩
  · exact Or.inr (handled.append _)

/-- An attentive command that its phase allows keeps the reasons. -/
theorem Reasoned.perform (reasoned : Reasoned recorded view) {thread : Thread}
    (allowed : (view.phases thread).allows command)
    (attention : (attentive recorded).runs view thread oracle command) :
    Reasoned recorded
      (view.perform (handling hashing).toService resolving thread oracle command) := by
  have session : (view.world.perform thread oracle command).1.sessions thread =
      (view.world.sessions thread).after command (view.world.perform thread oracle command).2 :=
    view.world.perform_session thread oracle command
  have others : ∀ other, other ≠ thread →
      (view.world.perform thread oracle command).1.sessions other = view.world.sessions other :=
    fun other different => view.world.perform_other thread oracle different command
  refine ⟨fun other entry inside => ?_, fun other row inside => ?_,
    fun other createdAt row reading retried => ?_⟩
  · have earlier : entry ∈ (view.world.sessions other).changes →
        KeepsId entry.2 ∧ (Gentle entry.2 ∨ Warranted recorded
          (view.perform (handling hashing).toService resolving thread oracle command) other
            entry.1) := by
      intro pending
      obtain ⟨keeps, reason⟩ := reasoned.changes other entry pending
      exact ⟨keeps, reason.imp_right Warranted.perform⟩
    by_cases own : other = thread
    · subst own
      have pending : entry ∈ ((view.world.sessions other).after command
          (view.world.perform other oracle command).2).changes := session ▸ inside
      rcases Session.mem_after_changes pending with before | issued
      · exact earlier before
      · subst issued
        obtain ⟨keeps, reason⟩ := allowed
        refine ⟨keeps, reason.imp_right fun may => Warranted.perform ?_⟩
        cases phase : view.phases other with
        | bystander =>
          rw [phase] at may
          exact may.elim
        | dismissing key named =>
          rw [phase] at may
          exact Or.inl ⟨key, named, phase, may⟩
        | recovering createdAt read =>
          rw [phase] at may
          cases read with
          | none => exact may.elim
          | some row =>
            obtain ⟨same, retried⟩ := may
            exact Or.inr (same ▸ reasoned.read other createdAt row phase retried)
    · exact earlier (others other own ▸ inside)
  · by_cases own : other = thread
    · subst own
      have pending : row ∈ ((view.world.sessions other).after command
          (view.world.perform other oracle command).2).newFailed := session ▸ inside
      rcases Session.mem_after_newFailed pending with before | issued
      · exact reasoned.added other row before
      · subst issued
        exact allowed
    · exact reasoned.added other row (others other own ▸ inside)
  · by_cases own : other = thread
    · subst own
      simp only [View.perform, Function.update_self, resolving_next] at reading
      obtain ⟨read, phase, before | ⟨sound, taken⟩⟩ := Hand.next_reading reading
      · subst before
        exact (reasoned.read other createdAt row phase retried).append _
      · exact (attention sound createdAt read phase row taken retried).append _
    · have phase : view.phases other = .recovering createdAt (some row) := by
        simpa [View.perform, own] using reading
      exact (reasoned.read other createdAt row phase retried).append _

theorem Hand.initial_unread (task : HandlingTask) (createdAt : String → Time) (row : FailedEvent) :
    Hand.initial task ≠ .recovering createdAt (some row) := by
  have settled : ∀ key : Option String,
      (key.map fun key => Hand.dismissing key []).getD .bystander ≠
        .recovering createdAt (some row) := by
    intro key
    cases key <;> simp
  cases task with
  | recoveryPass created => simp [Hand.initial]
  | _ => simpa only [Hand.initial] using settled _

theorem Reasoned.step (reasoned : Reasoned recorded view)
    {next : View services World HandlingTask Hand}
    (stepped : View.Step (handling hashing) resolving (attentive recorded) (fun _ => True)
      (fun _ _ => True) view next) : Reasoned recorded next := by
  have idle : ∀ createdAt row, resolving.idle ≠ .recovering createdAt (some row) :=
    fun _ _ impossible => nomatch impossible
  cases stepped with
  | started thread task _ _ =>
    exact reasoned.renew thread _ (Hand.initial_unread task) _
  | performed thread oracle command allowed permitted => exact reasoned.perform allowed permitted
  | returned thread | raised thread | crashed thread => exact reasoned.renew thread _ idle _

theorem handling_governs (recorded : List FailedEvent) :
    Governs (handling hashing) resolving (attentive recorded) (fun _ => True) (fun _ _ => True) :=
  ⟨fun _ _ _ _ => trivial, fun _ _ task _ => handlingCode_follows hashing task⟩

end Invariant

section Runs

variable {hashing : Hashing IntentPayload}

variable {changes : List (String × (FailedEvent → FailedEvent))}

theorem assign_id
    (keeps : ∀ entry ∈ changes, KeepsId entry.2) (row : FailedEvent) :
    (Database.assign changes row).id = row.id := by
  induction changes generalizing row with
  | nil => rfl
  | cons entry changes ih =>
    have kept : (if entry.1 = row.id then entry.2 row else row).id = row.id := by
      split
      · exact keeps entry List.mem_cons_self row
      · rfl
    exact (ih (fun other inside => keeps other (List.mem_cons_of_mem _ inside))
      _).trans kept

theorem assign_resolved
    (keeps : ∀ entry ∈ changes, KeepsId entry.2) {row : FailedEvent}
    (resolved : (Database.assign changes row).status = "resolved") :
    row.status = "resolved" ∨ ∃ entry ∈ changes, entry.1 = row.id ∧ ¬Gentle entry.2 := by
  induction changes generalizing row with
  | nil => exact Or.inl resolved
  | cons entry changes ih =>
    have later : ∀ other ∈ changes, KeepsId other.2 :=
      fun other inside => keeps other (List.mem_cons_of_mem _ inside)
    have kept : (if entry.1 = row.id then entry.2 row else row).id = row.id := by
      split
      · exact keeps entry List.mem_cons_self row
      · rfl
    rcases ih later resolved with before | ⟨other, inside, named, harsh⟩
    · dsimp only at before
      by_cases own : entry.1 = row.id
      · rw [if_pos own] at before
        by_cases gentle : Gentle entry.2
        · exact Or.inl (gentle row before)
        · exact Or.inr ⟨entry, List.mem_cons_self, own, gentle⟩
      · rw [if_neg own] at before
        exact Or.inl before
    · exact Or.inr ⟨other, List.mem_cons_of_mem _ inside, named.trans kept, harsh⟩

/-- A dismissal learns a name from a query by its key. -/
theorem next_names {key : String} {named : List String} {hand : Hand} {event : services.Event}
    (reached : Hand.next hand event.1 event.2 = .dismissing key named) :
    ∃ before, hand = .dismissing key before ∧ ∀ id ∈ named, id ∈ before ∨ Names key id event := by
  obtain ⟨command, answer⟩ := event
  dsimp only at reached
  have learn : ∀ {own asked : String} {before : List String} {row : FailedEvent},
      (if asked = own then Hand.dismissing own (row.id :: before) else .dismissing own before) =
        .dismissing key named →
      Hand.dismissing own before = .dismissing key before ∧
        ∀ id ∈ named, id ∈ before ∨ asked = key ∧ row.id = id := by
    intro own asked before row learned
    split at learned
    · rename_i same
      obtain ⟨rfl, rfl⟩ := Hand.dismissing.inj learned
      refine ⟨rfl, fun id inside => ?_⟩
      rcases List.mem_cons.mp inside with rfl | earlier
      · exact Or.inr ⟨same, rfl⟩
      · exact Or.inl earlier
    · obtain ⟨rfl, rfl⟩ := Hand.dismissing.inj learned
      exact ⟨rfl, fun id inside => Or.inl inside⟩
  unfold Hand.next at reached
  split at reached
  · exact ⟨_, learn reached⟩
  · exact ⟨_, learn reached⟩
  · exact ⟨_, learn reached⟩
  · cases reached
  · cases reached
  · exact ⟨named, reached, fun id inside => Or.inl inside⟩

theorem names_of_named {key : String} {named : List String}
    (past : List services.Event) {hand : Hand}
    (reached : past.foldl (fun hand event => Hand.next hand event.1 event.2) hand =
      .dismissing key named) :
    ∃ before, hand = .dismissing key before ∧
      ∀ id ∈ named, id ∈ before ∨ ∃ event ∈ past, Names key id event := by
  induction past generalizing hand with
  | nil => exact ⟨named, reached, fun id inside => Or.inl inside⟩
  | cons event past ih =>
    obtain ⟨middle, first, later⟩ := ih reached
    obtain ⟨before, same, learned⟩ := next_names first
    refine ⟨before, same, fun id inside => ?_⟩
    rcases later id inside with known | ⟨other, further, names⟩
    · exact (learned id known).imp_right fun names => ⟨event, List.mem_cons_self, names⟩
    · exact Or.inr ⟨other, List.mem_cons_of_mem _ further, names⟩

theorem Hand.initial_dismissing {task : HandlingTask} {key : String} {before : List String}
    (started : Hand.initial task = .dismissing key before) :
    task.dismissal = some key ∧ before = [] := by
  have given : ∀ found : Option String,
      (found.map fun key => Hand.dismissing key []).getD .bystander = .dismissing key before →
      found = some key ∧ before = [] := by
    intro found same
    cases found with
    | none => cases same
    | some other =>
      obtain ⟨rfl, rfl⟩ := Hand.dismissing.inj same
      exact ⟨rfl, rfl⟩
  cases task with
  | recoveryPass createdAt => cases started
  | _ => exact given _ started

theorem dismisses_of_named {machine : HandlingMachine} {thread : Thread} {key id : String}
    (named : Named key id (resolving.phaseOf (machine.threads thread))) :
    ∃ running, machine.threads thread = some running ∧ Dismisses running id := by
  obtain ⟨names, phase, inside⟩ := named
  cases current : machine.threads thread with
  | none =>
    rw [current] at phase
    cases phase
  | some running =>
    rw [current] at phase
    obtain ⟨before, started, learned⟩ := names_of_named running.past phase
    have key_given := Hand.initial_dismissing started
    refine ⟨running, rfl, key, key_given.1, ?_⟩
    rcases learned id inside with known | names
    · rw [key_given.2] at known
      exact absurd known List.not_mem_nil
    · exact names

theorem resume_database (machine : HandlingMachine) (thread : Thread) (task : HandlingTask)
    (past : List services.Event) (program : Program services Unit) :
    (machine.resume (handling hashing) thread task past program).world.database =
      machine.world.database := by
  cases program <;> rfl

end Runs

/-- A thread issues so many commands under one oracle, with fresh identifiers. -/
def handles (thread : Thread) (count : Nat) (oracle : Oracle) : List (Label Oracle HandlingTask) :=
  (List.range count).map fun index =>
    .run thread { oracle with uuid := oracle.uuid ++ "-" ++ toString index }

/-- A quarantined event of the bus. -/
def sampleFailed : FailedEvent :=
  { id := "row-1"
    eventType := submissionRequested
    entityType := "runtime_event"
    entityId := "event-1"
    payload := ⟨none, []⟩
    errorMessage := "connection"
    failureClass := "worker_internal_error"
    deadLetterReason := none
    lastActionBy := none
    correlationId := none
    retryReason := none
    status := "quarantined"
    retryCount := 3
    maxRetry := 3
    nextRetryAt := none
    resolvedAt := none
    updatedAt := 0 }

def dismissal : List (Label Oracle HandlingTask) :=
  .start 0 (.adminAction "event-1" "dismiss") :: handles 0 4 steady

def unread (machine : HandlingMachine) (label : Label Oracle HandlingTask) : Bool :=
  match resolving.phaseOf (machine.threads label.thread) with
  | .recovering _ _ => false
  | _ => true

theorem unread_attentive {hashing : Hashing IntentPayload} {recorded : List FailedEvent}
    (machine : HandlingMachine) (label : Label Oracle HandlingTask)
    (tested : unread machine label = true) :
    (attentive recorded).Permits (handling hashing) resolving machine label := by
  cases label with
  | start thread task => exact ⟨trivial, fun _ _ => trivial⟩
  | crash thread => trivial
  | run thread oracle =>
    intro running current
    refine ⟨fun _ createdAt read phase => ?_, fun _ _ => trivial⟩
    have reading : resolving.phaseOf (machine.threads thread) = .recovering createdAt read := phase
    simp [unread, Label.thread, reading] at tested

def sampleTables : Database := ⟨[], [], [sampleFailed], List.nodup_nil, List.nodup_nil⟩

/-- An event is published, its first pass fails at a gate, and the loop takes up the row that
the failure left, up to the commit. -/
def failedAndSwept : List (Label Oracle HandlingTask) :=
  .start 0 (.publish submissionRequested
    [("intent_id", "intent-1"), ("intent_hash", "hash-1"), ("symbol", "BTCUSDT")] "correlation"
    (some "decision") "BTCUSDT::strategy") :: handles 0 6 { steady with uuid := "published" } ++
  .start 0 (.workerPass "worker") :: handles 0 5 steady ++
  handles 0 1 { steady with fault := some (.other "connection") } ++
  handles 0 10 { steady with uuid := "failed" } ++
  .start 0 (.recoveryPass fun _ => 0) :: handles 0 4 steady

def isMark : services.Event → Bool
  | ⟨.redis (.sadd _ _), .ok _⟩ => true
  | _ => false

theorem not_handled {recorded : List FailedEvent} {trace : List (Thread × services.Event)}
    (unmarked : trace.all (fun entry => !isMark entry.2) = true) (id : String) :
    ¬Handled recorded trace id := by
  rintro ⟨row, past, mark, later, rfl, -, -, marks, -⟩
  have passed : isMark mark.2 = false := by
    have tested := List.all_eq_true.mp unmarked mark (by simp)
    simpa using tested
  obtain ⟨thread, event⟩ := mark
  unfold Marks at marks
  split at marks
  · rename_i same
    rw [same] at passed
    exact absurd passed (by simp [isMark])
  · exact marks

/-- What can be seen of a machine that is about to commit: the rows, whether something was
marked as processed, who is at work and how many retries wait. -/
structure Sight where
  rows : List (String × String)
  unmarked : Bool
  dismissal : Option (Option String)
  waiting : Nat
deriving DecidableEq

def sight (machine : HandlingMachine) : Sight where
  rows := machine.world.database.failed.map fun row => (row.id, row.status)
  unmarked := machine.trace.all fun entry => !isMark entry.2
  dismissal := (machine.threads 0).map fun running => running.task.dismissal
  waiting := (machine.world.redis.lists runtimeRetryQueue).length

end Runtime
