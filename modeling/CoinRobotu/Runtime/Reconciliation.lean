import CoinRobotu.Runtime.Untouched

/-!
# Repeated reconciliation

A reconciliation answers from the newest stored result while that result is
younger than the idempotency window. Past the window it assigns a status, and
the first flush refuses the assignment. When no command raises on its own, the
outcome is therefore fixed by the committed intent, its log and the side of the
window on which the clock stands, so a second run repeats the first one.
-/

open Interleaving
open Program (follows_bind follows_mono follows_then)

namespace Runtime

/-- The correlation spine of a reconciliation is complete: every field it mints
carries a tag, so only the intent's own two fields can be blank. -/
def spineComplete (intent : ExecutionIntent) : Prop :=
  blankText intent.intentId = false ∧
    (intent.correlationId = "" ∨ blankText intent.correlationId = false)

instance (intent : ExecutionIntent) : Decidable (spineComplete intent) :=
  inferInstanceAs (Decidable (_ ∧ _))

def refusal (intent : ExecutionIntent) : Failure :=
  if spineComplete intent then .valueError "execution_intent_immutable"
  else .valueError "correlation_envelope_missing"

/-- The outcome of a reconciliation of the given intent with the given log;
`recent` says on which side of the window the clock stands. -/
def verdict (found : Option ExecutionIntent) (log : List ExecutionIntentEvent)
    (recent : Bool) : Except Failure ReconcileReport :=
  match found with
  | none => .error (.valueError "intent_not_found")
  | some intent =>
      match latestReconcile log with
      | none => .error (refusal intent)
      | some stored =>
          if recent then .ok ⟨intent.intentId, normalizeState intent.status,
            normalizeState intent.status, stored.payload, true⟩
          else .error (refusal intent)

section Steady

variable (intentId : String) (found : Option ExecutionIntent) (log : List ExecutionIntentEvent)
  (recent : Bool)

/-- No command raises but the flush of a dirty session, queries answer from the
given rows, and the clock stands on one side of the window. -/
def steadyAnswer : (command : Command) → Except Failure command.Reply → Prop
  | .database (.findIntent _), answer => answer = .ok found
  | .database (.eventsOf _), answer => answer = .ok log
  | .database .flush, answer => answer = .error (.valueError "execution_intent_immutable")
  | .now, answer => ∃ time, answer = .ok time ∧ ∀ stored, latestReconcile log = some stored →
      decide (time - stored.createdAt < idempotencyWindow) = recent
  | _, answer => ∃ reply, answer = .ok reply

/-- Queries and commits belong to a clean session, events and the flush to a
dirty one; after the refused flush nothing follows. -/
def steadyAllows : Guard → Command → Prop
  | .clean, .database (.findIntent asked) => asked = intentId
  | .clean, .database (.eventsOf asked) => asked = intentId
  | .clean, .database (.addIntent _) => False
  | .clean, .database (.addEvent _) => False
  | .clean, .database .flush => False
  | .clean, .submitOrder _ => False
  | .clean, _ => True
  | .dirty, .database (.addEvent _) => True
  | .dirty, .database .flush => True
  | .dirty, .uuid4 => True
  | .dirty, .now => True
  | _, _ => False

def steadyNext : Guard → (command : Command) → Except Failure command.Reply → Guard
  | .clean, .database (.assignStatus _ _), _ => .dirty
  | .dirty, .database .flush, _ => .free
  | guard, _, _ => guard

attribute [local simp] steadyAnswer steadyAllows steadyNext

@[simps -fullyApplied] def steadily : Protocol services Task Guard :=
  ⟨.free, Guard.initial, steadyNext, steadyAllows intentId, steadyAnswer found log recent⟩

abbrev Smooth {α : Type} (program : Program services α) : Prop :=
  program.Follows (steadily intentId found log recent) (fun _ guard => guard = .clean)
    (fun _ _ => False) .clean

variable {intentId found log recent}

theorem smooth_bind {α β : Type} {program : Program services α} {rest : α → Program services β}
    {returns : β → Guard → Prop} {raises : Failure → Guard → Prop}
    (first : Smooth intentId found log recent program)
    (second : ∀ value, (rest value).Follows (steadily intentId found log recent) returns raises
      .clean) :
    (program.bind rest).Follows (steadily intentId found log recent) returns raises .clean :=
  (follows_bind program rest).mpr
    (follows_mono first (fun value _ same => by rw [same]; exact second value)
      (fun _ _ impossible => impossible.elim))

theorem createAuditLog_smooth : Smooth intentId found log recent createAuditLog := by
  simp [createAuditLog]

theorem upsertFailedEvent_smooth (fields : FailedEventFields) :
    Smooth intentId found log recent (upsertFailedEvent fields) := by
  refine smooth_bind (by simp) fun existing => ?_
  cases existing with
  | none => simp [createFailedEvent]
  | some row => simp

theorem blankText_of_visible {text : String} (character : Char) (inside : character ∈ text.toList)
    (visible : isSpace character = false) : blankText text = false := by
  refine Bool.eq_false_iff.mpr fun blank => ?_
  have all := strip_eq_empty.mp (beq_iff_eq.mp blank)
  rw [all character inside] at visible
  cases visible

theorem blankText_tagged {tag : String} (minted : String) (character : Char)
    (inside : character ∈ tag.toList) (visible : isSpace character = false) :
    blankText (tag ++ minted) = false :=
  blankText_of_visible character (by simp [String.toList_append, inside]) visible

theorem blankText_externalOrderId {orderId : String}
    (named : extractExternalOrderId log = some orderId) : blankText orderId = false := by
  have stripped : ∀ text : String, strip text ≠ "" → blankText (strip text) = false :=
    fun text present => beq_eq_false_iff_ne.mpr fun empty => present (strip_strip_eq_empty empty)
  obtain ⟨event, _, chosen⟩ := List.exists_of_findSome?_eq_some named
  dsimp only at chosen
  split at chosen
  · cases chosen
    exact stripped _ ‹_›
  · split at chosen
    · cases chosen
      exact stripped _ ‹_›
    · cases chosen

theorem orMint_smooth (value tag : String) :
    (orMint value tag).Follows (steadily intentId found log recent)
      (fun text guard => guard = .clean ∧
        (if value = "" then ∃ minted, text = tag ++ minted else text = value))
      (fun _ _ => False) .clean := by
  by_cases empty : value = "" <;>
    simp [orMint, empty]

/-- The fields the context mints are there, so the check depends on the two
fields taken from the intent. -/
theorem buildContextEnvelope_smooth (asked correlationId : String) :
    (buildContextEnvelope asked correlationId (extractExternalOrderId log)).Follows
      (steadily intentId found log recent)
      (fun context guard => guard = .clean ∧ (missingFields context = [] ↔
        blankText asked = false ∧ blankText correlationId = false))
      (fun _ _ => False) .clean := by
  have minted : ∀ tag ∈ ["req-", "ord-", "exe-", "ses-"], ∀ text : String,
      blankText (tag ++ text) = false := by
    intro tag inside text
    simp only [List.mem_cons, List.not_mem_nil, or_false] at inside
    rcases inside with rfl | rfl | rfl | rfl
    · exact blankText_tagged text 'r' (by decide) (by decide)
    · exact blankText_tagged text 'o' (by decide) (by decide)
    · exact blankText_tagged text 'e' (by decide) (by decide)
    · exact blankText_tagged text 's' (by decide) (by decide)
  unfold buildContextEnvelope
  refine smooth_bind (by simp) fun requestId => ?_
  refine follows_then (orMint_smooth _ _) ?_ (fun _ _ impossible => impossible.elim)
  rintro order _ ⟨rfl, chosen⟩
  have ordered : blankText order = false := by
    cases named : extractExternalOrderId log with
    | none =>
      obtain ⟨text, rfl⟩ : ∃ text, order = "ord-" ++ text := by simpa [named] using chosen
      exact minted "ord-" (by simp) text
    | some orderId =>
      have visible := blankText_externalOrderId named
      by_cases empty : orderId = ""
      · subst empty
        obtain ⟨text, rfl⟩ : ∃ text, order = "ord-" ++ text := by simpa [named] using chosen
        exact minted "ord-" (by simp) text
      · rw [named] at chosen
        simp only [Option.getD_some, if_neg empty] at chosen
        exact chosen ▸ visible
  refine smooth_bind (by simp) fun executionId => ?_
  refine smooth_bind (by simp) fun sessionId => ?_
  refine ⟨rfl, ?_⟩
  have request := minted "req-" (by simp) requestId
  have execution := minted "exe-" (by simp) executionId
  have session := minted "ses-" (by simp) sessionId
  simp [missingFields, request, execution, session, ordered]

theorem enforceCorrelationEnvelope_smooth (envelope : Payload) (stage asked : String) :
    (enforceCorrelationEnvelope envelope stage asked).Follows (steadily intentId found log recent)
      (fun complete guard => guard = .clean ∧ complete = decide (missingFields envelope = []))
      (fun _ _ => False) .clean := by
  unfold enforceCorrelationEnvelope
  dsimp only
  split
  · rename_i complete
    exact ⟨rfl, by simp [complete]⟩
  · rename_i incomplete
    split
    · exact smooth_bind (upsertFailedEvent_smooth _) fun _ =>
        smooth_bind createAuditLog_smooth fun _ => ⟨rfl, by simp [incomplete]⟩
    · exact smooth_bind createAuditLog_smooth fun _ => ⟨rfl, by simp [incomplete]⟩

theorem reconcileAgainstExchange_refused (intent : ExecutionIntent) (reason stage : String)
    (same : intent.intentId = intentId) :
    (reconcileAgainstExchange intent reason stage).Follows (steadily intentId found log recent)
      (fun _ _ => False) (fun failure _ => failure = refusal intent) .clean := by
  unfold reconcileAgainstExchange
  refine follows_bind_call
    ⟨same, fun events answered => ?_, nofun⟩
  cases answered
  refine follows_then (orMint_smooth _ _) ?_ (fun _ _ impossible => impossible.elim)
  rintro correlationId _ ⟨rfl, chosen⟩
  have correlated : blankText correlationId = false ↔
      intent.correlationId = "" ∨ blankText intent.correlationId = false := by
    split at chosen
    · rename_i empty
      obtain ⟨minted, rfl⟩ := chosen
      simp only [empty, true_or, iff_true]
      exact blankText_tagged minted 'c' (by decide) (by decide)
    · rename_i present
      simp [chosen, present]
  refine follows_then (buildContextEnvelope_smooth _ _) ?_ (fun _ _ impossible => impossible.elim)
  rintro context _ ⟨rfl, checked⟩
  refine follows_then
    (enforceCorrelationEnvelope_smooth _ _ _) ?_ (fun _ _ impossible => impossible.elim)
  rintro complete _ ⟨rfl, decided⟩
  have spine : complete = true ↔ spineComplete intent := by
    rw [decided, decide_eq_true_iff, checked, correlated]
    exact Iff.rfl
  cases complete with
  | false =>
    have incomplete : ¬spineComplete intent := fun whole => nomatch spine.mpr whole
    simp [refusal, incomplete]
  | true =>
    have whole : spineComplete intent := spine.mp rfl
    simp [addIntentEvent, refusal, whole]

theorem reconcileIntentWithExchange_verdict (reason stage : String)
    (named : ∀ intent, found = some intent → intent.intentId = intentId) :
    (reconcileIntentWithExchange intentId reason stage).Follows
      (steadily intentId found log recent)
      (fun report _ => verdict found log recent = .ok report)
      (fun failure _ => verdict found log recent = .error failure) .clean := by
  have refused : ∀ intent, found = some intent →
      verdict found log recent = .error (refusal intent) →
      (reconcileAgainstExchange intent reason stage).Follows (steadily intentId found log recent)
        (fun report _ => verdict found log recent = .ok report)
        (fun failure _ => verdict found log recent = .error failure) .clean := by
    intro intent isFound outcome
    refine follows_mono
      (reconcileAgainstExchange_refused intent reason stage (named intent isFound))
      (fun _ _ impossible => impossible.elim) ?_
    rintro failure _ rfl
    exact outcome
  refine follows_bind_call
    ⟨rfl, fun reply answered => ?_, nofun⟩
  cases answered
  cases found with
  | none => simp [verdict]
  | some intent =>
    refine follows_bind_call
      ⟨rfl, fun events answered => ?_, nofun⟩
    cases answered
    cases stored : latestReconcile log with
    | none => exact refused intent rfl (by simp [verdict, stored])
    | some result =>
      refine follows_bind_call ⟨trivial, fun now answered => ?_, fun failure impossible => ?_⟩
      · obtain ⟨time, same, side⟩ := answered
        cases same
        have sided := side result stored
        dsimp only
        split
        · rename_i inside
          have young : recent = true := by simpa [inside] using sided.symm
          simp [verdict, stored, young]
        · rename_i outside
          have old : recent = false := by simpa [outside] using sided.symm
          exact refused intent rfl (by simp [verdict, stored, old])
      · obtain ⟨time, impossible, _⟩ := impossible
        cases impossible

end Steady

section Repeat

variable (hashing : Hashing IntentPayload)

/-- The committed rows are the given ones; a clean session has nothing pending
and a dirty one has an assignment pending, and neither is broken. -/
def Steady (thread : Thread) (database : Database) (world : World) (guard : Guard) : Prop :=
  world.database.intents = database.intents ∧ world.database.events = database.events ∧
    match guard with
    | .clean => (world.sessions thread).broken = false ∧ (world.sessions thread).statuses = [] ∧
        (world.sessions thread).newIntents = [] ∧ (world.sessions thread).newEvents = []
    | .dirty => (world.sessions thread).broken = false ∧ (world.sessions thread).statuses ≠ []
    | .free => True

/-- An oracle under which nothing raises and the clock stands on the given side
of the window. -/
def OnSide (log : List ExecutionIntentEvent) (recent : Bool) (oracle : Oracle) : Prop :=
  oracle.fault = none ∧ ∀ stored, latestReconcile log = some stored →
    decide (oracle.now - stored.createdAt < idempotencyWindow) = recent

/-- Under a good oracle an allowed command answers as promised and keeps the
state steady. -/
theorem steady_perform {intentId : String} {recent : Bool} {thread : Thread} {database : Database}
    {oracle : Oracle} {world : World} {guard : Guard}
    (good : OnSide (database.eventsOf intentId) recent oracle) (command : Command)
    (allowed : steadyAllows intentId guard command)
    (steady : Steady thread database world guard) :
    steadyAnswer (database.findIntent intentId) (database.eventsOf intentId) recent command
        (world.perform thread oracle command).2 ∧
      Steady thread database (world.perform thread oracle command).1
        (steadyNext guard command (world.perform thread oracle command).2) := by
  obtain ⟨faultless, side⟩ := good
  obtain ⟨intents, events, pending⟩ := steady
  have performed : ∀ command : DatabaseCommand,
      world.perform thread oracle (.database command) = world.performDatabase thread command := by
    intro command
    simp only [World.perform, faultless]
  cases guard with
  | free => exact allowed.elim
  | clean =>
    obtain ⟨sound, unassigned, noIntents, noEvents⟩ := pending
    have keeps : Steady thread database world .clean :=
      ⟨intents, events, sound, unassigned, noIntents, noEvents⟩
    have queried : ∀ {α : Type} (answer : Database → α),
        world.query thread answer = (world, .ok (answer world.database)) := by
      intro α answer
      simp [World.query, sound]
    have recorded : ∀ change : Session → Session,
        (change (world.sessions thread)).broken = false →
        (change (world.sessions thread)).statuses = [] →
        (change (world.sessions thread)).newIntents = [] →
        (change (world.sessions thread)).newEvents = [] →
        Steady thread database (world.record thread change).1 .clean := by
      intro change sound' unassigned' noIntents' noEvents'
      refine ⟨intents, events, ?_⟩
      simp only [World.record, World.putSession_sessions, Function.update_self]
      exact ⟨sound', unassigned', noIntents', noEvents'⟩
    cases command with
    | database command =>
      rw [performed]
      cases command with
      | findIntent asked =>
        cases allowed
        simp only [World.performDatabase, queried, Database.findIntent, intents]
        exact ⟨rfl, keeps⟩
      | eventsOf asked =>
        cases allowed
        simp only [World.performDatabase, queried, Database.eventsOf, events]
        exact ⟨rfl, keeps⟩
      | addIntent row => exact allowed.elim
      | addEvent row => exact allowed.elim
      | flush => exact allowed.elim
      | addFailed row => exact ⟨⟨_, rfl⟩, recorded _ sound unassigned noIntents noEvents⟩
      | assignFailed id change =>
        exact ⟨⟨_, rfl⟩, recorded _ sound unassigned noIntents noEvents⟩
      | assignStatus asked status =>
        refine ⟨⟨_, rfl⟩, intents, events, ?_⟩
        simp [World.performDatabase, World.record, steadyNext, sound]
      | commit =>
        obtain ⟨after, committed⟩ : ∃ after,
            world.database.commit (world.sessions thread) = .ok after :=
          Database.commit_sound sound unassigned noIntents
        obtain ⟨_, _, newIntents, newEvents, _⟩ := Database.commit_ok committed
        simp only [World.performDatabase, committed]
        refine ⟨⟨_, rfl⟩, ?_, ?_, ?_⟩
        · simp [newIntents, noIntents, intents]
        · simp [newEvents, noEvents, events]
        · simp [steadyNext, Session.fresh]
      | rollback =>
        refine ⟨⟨_, rfl⟩, intents, events, ?_⟩
        simp [World.performDatabase, steadyNext, Session.fresh]
      | _ =>
        simp only [World.performDatabase, queried]
        exact ⟨⟨_, rfl⟩, keeps⟩
    | submitOrder order => exact allowed.elim
    | redis issued =>
      simp only [World.perform, faultless]
      exact ⟨⟨_, rfl⟩, keeps⟩
    | now =>
      simp only [World.perform, faultless]
      exact ⟨⟨_, rfl, side⟩, keeps⟩
    | _ =>
      simp only [World.perform, faultless]
      exact ⟨⟨_, rfl⟩, keeps⟩
  | dirty =>
    obtain ⟨sound, assigned⟩ := pending
    have keeps : Steady thread database world .dirty := ⟨intents, events, sound, assigned⟩
    cases command with
    | database command =>
      rw [performed]
      cases command with
      | addEvent row =>
        refine ⟨⟨_, rfl⟩, intents, events, ?_⟩
        simpa [World.performDatabase, World.record] using ⟨sound, assigned⟩
      | flush =>
        simp only [World.performDatabase, Database.commit_refused sound assigned]
        exact ⟨rfl, intents, events, trivial⟩
      | _ => exact allowed.elim
    | now =>
      simp only [World.perform, faultless]
      exact ⟨⟨_, rfl, side⟩, keeps⟩
    | uuid4 =>
      simp only [World.perform, faultless]
      exact ⟨⟨_, rfl⟩, keeps⟩
    | _ => exact allowed.elim

def reconcileOnce (thread : Thread) (intentId reason stage : String) (oracles : Nat → Oracle)
    (world : World) : World × Except Failure ReconcileReport :=
  (reconcileIntentWithExchange intentId reason stage).play runtimeService thread oracles
    (world.putSession thread .fresh)

/-- When nothing raises on its own and the clock stays on one side of the
window, a reconciliation changes no committed intent and no log, and its
outcome is the verdict on them. -/
theorem reconcileOnce_verdict (thread : Thread) (intentId reason stage : String)
    (oracles : Nat → Oracle) (world : World) (recent : Bool)
    (steady : ∀ index, OnSide (world.database.eventsOf intentId) recent (oracles index)) :
    (reconcileOnce thread intentId reason stage oracles world).1.database.intents =
        world.database.intents ∧
      (reconcileOnce thread intentId reason stage oracles world).1.database.events =
        world.database.events ∧
      (reconcileOnce thread intentId reason stage oracles world).2 =
        verdict (world.database.findIntent intentId) (world.database.eventsOf intentId) recent := by
  have follows : (reconcileIntentWithExchange intentId reason stage).Follows
      (steadily intentId (world.database.findIntent intentId) (world.database.eventsOf intentId)
        recent)
      (fun report _ => verdict (world.database.findIntent intentId)
        (world.database.eventsOf intentId) recent = .ok report)
      (fun failure _ => verdict (world.database.findIntent intentId)
        (world.database.eventsOf intentId) recent = .error failure) .clean :=
    reconcileIntentWithExchange_verdict reason stage fun intent found =>
      (Database.findIntent_some found).2
  obtain ⟨guard, kept, ended⟩ := Program.play_invariant runtimeService thread follows
    (Steady thread world.database) (OnSide (world.database.eventsOf intentId) recent)
    (fun oracle command _ _ good allowed holds => steady_perform good command allowed holds)
    oracles steady (world.putSession thread .fresh)
    ⟨rfl, rfl, by simp [Session.fresh]⟩
  refine ⟨kept.1, kept.2.1, ?_⟩
  unfold reconcileOnce
  split at ended <;> rename_i outcome
  · rw [outcome, ended]
  · rw [outcome, ended]

/-- A second reconciliation with the clock on the same side of the window gives
what the first one gave, whatever the exchange answers to either. Neither run
changes a committed intent or a log, so in particular none marks the intent
reconciled. -/
theorem reconcile_repeats (thread : Thread) (intentId reason stage : String)
    (first second : Nat → Oracle) (world : World) (recent : Bool)
    (steadyFirst : ∀ index, OnSide (world.database.eventsOf intentId) recent (first index))
    (steadySecond : ∀ index, OnSide (world.database.eventsOf intentId) recent (second index)) :
    let once := reconcileOnce thread intentId reason stage first world
    let again := reconcileOnce thread intentId reason stage second once.1
    again.2 = once.2 ∧
      once.1.database.intents = world.database.intents ∧
      once.1.database.events = world.database.events ∧
      again.1.database.intents = world.database.intents ∧
      again.1.database.events = world.database.events := by
  intro once again
  obtain ⟨intents, events, outcome⟩ :=
    reconcileOnce_verdict thread intentId reason stage first world recent steadyFirst
  have log : once.1.database.eventsOf intentId = world.database.eventsOf intentId := by
    simp only [Database.eventsOf, once, events]
  have found : once.1.database.findIntent intentId = world.database.findIntent intentId := by
    simp only [Database.findIntent, once, intents]
  obtain ⟨intentsAgain, eventsAgain, outcomeAgain⟩ :=
    reconcileOnce_verdict thread intentId reason stage second once.1 recent
      fun index => log ▸ steadySecond index
  rw [log, found] at outcomeAgain
  exact ⟨outcomeAgain.trans outcome.symm, intents, events, intentsAgain.trans intents,
    eventsAgain.trans events⟩

def storedResult : ExecutionIntentEvent :=
  ⟨"event-1", "intent-1", reconcileResultType, "FAILED", none,
    [("requires_manual_intervention", "true")], 0⟩

def secondsLater (seconds : Int) : Nat → Oracle := fun _ => { steady with now := seconds * 1000000 }

theorem reconcile_repeats_in_window :
    (reconcileOnce 0 "intent-1" "manual" "reconcile_execution" (secondsLater 44)
        (reconcileOnce 0 "intent-1" "manual" "reconcile_execution" (secondsLater 30)
          (World.boot emptyRedis (sampleDatabase [storedResult]) [])).1).2 =
      (reconcileOnce 0 "intent-1" "manual" "reconcile_execution" (secondsLater 30)
        (World.boot emptyRedis (sampleDatabase [storedResult]) [])).2 := by
  have inWindow : ∀ seconds : Int, seconds < 45 → ∀ index,
      OnSide ((sampleDatabase [storedResult]).eventsOf "intent-1") true
        (secondsLater seconds index) := by
    intro seconds young index
    refine ⟨rfl, fun stored found => ?_⟩
    have same : latestReconcile ((sampleDatabase [storedResult]).eventsOf "intent-1") =
        some storedResult := rfl
    rw [same] at found
    cases found
    have inside : seconds * 1000000 - 0 < 45 * 1000000 := by omega
    exact decide_eq_true inside
  exact (reconcile_repeats 0 "intent-1" "manual" "reconcile_execution" (secondsLater 30)
    (secondsLater 44) (World.boot emptyRedis (sampleDatabase [storedResult]) []) true
    (inWindow 30 (by decide)) (inWindow 44 (by decide))).1

/-- Across the end of the window the verdicts differ: the first run returns the
stored result, and the second one is refused. -/
theorem reconcile_differs_across_window :
    (reconcileOnce 0 "intent-1" "manual" "reconcile_execution" (secondsLater 44)
        (World.boot emptyRedis (sampleDatabase [storedResult]) [])).2.toOption.map
          ReconcileReport.reconcileResult = some storedResult.payload ∧
      (reconcileOnce 0 "intent-1" "manual" "reconcile_execution" (secondsLater 46)
        (reconcileOnce 0 "intent-1" "manual" "reconcile_execution" (secondsLater 44)
          (World.boot emptyRedis (sampleDatabase [storedResult]) [])).1).2.toOption.map
            ReconcileReport.reconcileResult = none := by
  constructor <;> decide +kernel

end Repeat

end Runtime
