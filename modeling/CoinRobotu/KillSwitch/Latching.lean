import CoinRobotu.Automata.History
import CoinRobotu.KillSwitch.Coherence

/-!
# The latch

Where no mode is committed while another call is under way, and no call dies that owes the cache an
entry, every call writes what the control row says. Then the state is active from the end of an
evaluation that committed the emergency mode until a reset, no evaluation undoes a reset that came
after it had read the row, and at rest the entry agrees with the row.
-/

open Automata
open Interleaving

namespace KillSwitch

section Histories

abbrev Entered : Type := Thread × signature.Event

variable (thread : Thread)

def Triggers (event : Entered) : Prop := event.1 = thread ∧ committedMode event.2 = some true

def Resets (event : Entered) : Prop := committedMode event.2 = some false

def Reads (event : Entered) : Prop := event.1 = thread ∧ readsControl event.2 = true

/-- An evaluation ends with its writing of the cache, and it has committed the emergency mode. -/
def Concludes (earlier : List Entered) (event : Entered) : Prop :=
  event.1 = thread ∧ (writtenEntry event.2).isSome = true ∧
    Since (fun _ => Triggers thread) (fun other => Resets other ∨ Reads thread other) earlier

variable (event : Entered)

instance : Decidable (Triggers thread event) := inferInstanceAs (Decidable (_ ∧ _))

instance : Decidable (Resets event) := inferInstanceAs (Decidable (_ = _))

instance : Decidable (Reads thread event) := inferInstanceAs (Decidable (_ ∧ _))

instance (earlier : List Entered) : Decidable (Concludes thread earlier event) :=
  inferInstanceAs (Decidable (_ ∧ _ ∧ _))

end Histories

section Latch

variable {view next : View signature World Call Progress} {thread : Thread}
  {event : signature.Event}

def World.Active (world : World) : Prop := world.entry.state.active = true

instance (world : World) : Decidable world.Active := inferInstanceAs (Decidable (_ = _))

/-- What has happened fits what there is. -/
structure Orderly (view : View signature World Call Progress) : Prop extends Coherent view where
  latched : Since (fun _ event => committedMode event.2 = some true) Resets view.trace →
    view.world.control = some true
  held : ∀ thread, Since (fun _ => Triggers thread) Resets view.trace →
    (view.phases thread).Owes ∨ view.world.Active
  concluded : ∀ thread, Since (Concludes thread) Resets view.trace →
    view.world.control = some true ∧ view.world.Active
  unseen : ∀ thread known, view.phases thread = .busy false known →
    ¬Since (fun _ => Resets) (Reads thread) view.trace
  respected : ∀ earlier event later, view.trace = earlier ++ event :: later →
    ∀ thread, Triggers thread event → ¬Since (fun _ => Resets) (Reads thread) earlier

/-- Where the committed mode is the emergency mode and no reset commits, it stays so, and so does
the state of readers once it is active. -/
theorem Moved.stays (moved : Moved view next thread event) (coherent : Coherent view)
    (control : view.world.control = some true) (noReset : committedMode event ≠ some false) :
    next.world.control = some true ∧ (view.world.Active → next.world.Active) ∧
      ((writtenEntry event).isSome = true → next.world.Active) := by
  have unwritten : writtenEntry event = none → next.world.entry = view.world.entry →
      (view.world.Active → next.world.Active) ∧
        ((writtenEntry event).isSome = true → next.world.Active) := by
    intro written entry
    constructor
    · unfold World.Active
      rw [entry]
      exact id
    · rw [written]
      exact nofun
  cases moved.did with
  | quiet phase same entry copy none_committed written
  | found before mode phase isMode same entry copy none_committed written
  | learned owes known mode before phase isMode same entry copy none_committed written =>
    exact ⟨same ▸ control, unwritten written entry⟩
  | committed known mode before phase isMode entry copy committed written =>
    refine ⟨?_, unwritten written entry⟩
    cases mode with
    | true => exact isMode
    | false => exact absurd committed noReset
  | wrote owes payload before phase same entry =>
    have isActive : next.world.Active := by
      have known := coherent.known thread owes payload.active before
      rw [control] at known
      unfold World.Active
      rw [entry]
      exact (Option.some.inj known).symm
    exact ⟨same ▸ control, fun _ => isActive, fun _ => isActive⟩

abbrev Latched (history : List Entered) : Prop :=
  Since (fun _ event => committedMode event.2 = some true) Resets history

theorem Moved.owes (moved : Moved view next thread event) {other : Thread}
    (owes : (view.phases other).Owes) :
    (next.phases other).Owes ∨ (writtenEntry event).isSome = true := by
  by_cases own : other = thread
  · subst own
    cases moved.did with
    | quiet phase => exact .inl (phase ▸ owes)
    | found before => exact (before ▸ owes : Progress.begun.Owes).elim
    | learned owing known mode before phase =>
      rw [before] at owes
      exact .inl (phase ▸ owes)
    | committed known mode before => cases (before ▸ owes : (Progress.busy false known).Owes)
    | wrote owing payload before phase control entry none_committed written =>
      exact .inr (written ▸ rfl)
  · exact .inl (moved.phases other own ▸ owes)

/-- A call that has yet to commit after its next command has read the row with it, or was under
way already. -/
theorem Moved.undecided (moved : Moved view next thread event) {other : Thread}
    {known : Option Bool} (busy : next.phases other = .busy false known)
    (noRead : ¬Reads other (thread, event)) : ∃ known, view.phases other = .busy false known := by
  by_cases own : other = thread
  · subst own
    cases moved.did with
    | quiet phase => exact ⟨known, phase ▸ busy⟩
    | found before mode phase control same entry copy none_committed written reads =>
      exact absurd ⟨rfl, reads⟩ noRead
    | learned owes known mode before phase =>
      cases phase.symm.trans busy
      exact ⟨known, before⟩
    | committed known mode before phase | wrote owes payload before phase =>
      cases phase.symm.trans busy
  · exact ⟨known, moved.phases other own ▸ busy⟩

variable (orderly : Orderly view)

include orderly

theorem Orderly.moved (moved : Moved view next thread event) :
    Orderly next where
  toCoherent := orderly.toCoherent.moved moved
  latched since := by
    rw [moved.trace, since_concat] at since
    rcases since with triggered | ⟨earlier, noReset⟩
    · exact (moved.did.commits triggered).2.2.2
    · exact (moved.stays orderly.toCoherent (orderly.latched earlier) noReset).1
  held other since := by
    rw [moved.trace, since_concat] at since
    rcases since with ⟨own, triggered⟩ | ⟨earlier, noReset⟩
    · left
      have isOther : thread = other := own
      rw [← isOther, (moved.did.commits triggered).2.2.1]
      rfl
    · have isLatched : Latched view.trace := earlier.mono (fun _ _ => And.right) fun _ => id
      obtain ⟨_, stays, writes⟩ :=
        moved.stays orderly.toCoherent (orderly.latched isLatched) noReset
      rcases orderly.held other earlier with owes | active
      · exact (moved.owes owes).imp_right writes
      · exact .inr (stays active)
  concluded other since := by
    rw [moved.trace, since_concat] at since
    rcases since with ⟨_, written, earlier⟩ | ⟨earlier, noReset⟩
    · have isLatched : Latched view.trace := earlier.mono (fun _ _ => And.right) fun _ => .inl
      have noReset : committedMode event ≠ some false := by
        intro committed
        have isSome : (writtenEntry event).isSome = true := written
        rw [(moved.did.commits committed).1] at isSome
        cases isSome
      obtain ⟨control, _, writes⟩ :=
        moved.stays orderly.toCoherent (orderly.latched isLatched) noReset
      exact ⟨control, writes written⟩
    · obtain ⟨control, active⟩ := orderly.concluded other earlier
      obtain ⟨still, stays, _⟩ := moved.stays orderly.toCoherent control noReset
      exact ⟨still, stays active⟩
  unseen other known busy since := by
    rw [moved.trace, since_concat] at since
    rcases since with isReset | ⟨earlier, noRead⟩
    · have committed : committedMode event = some false := isReset
      by_cases own : other = thread
      · subst own
        cases (moved.did.commits committed).2.2.1.symm.trans busy
      · have underWay : (view.phases other).UnderWay := moved.phases other own ▸ busy ▸ trivial
        exact moved.alone (by rw [committed]; exact nofun) other own underWay
    · obtain ⟨known, before⟩ := moved.undecided busy noRead
      exact orderly.unseen other known before earlier
  respected := by
    rw [moved.trace, forall_splits_concat]
    refine ⟨orderly.respected, ?_⟩
    rintro other ⟨own, triggered⟩
    have isOther : thread = other := own
    obtain ⟨_, ⟨known, before⟩, _⟩ := moved.did.commits triggered
    exact isOther ▸ orderly.unseen thread known before

/-- A thread that owes nothing starts or ends a call. -/
theorem Orderly.replaced {phase : Progress}
    (free : phase = .begun ∨ phase = .idle) (nothing : ¬(view.phases thread).Owes)
    (world : next.world = view.world.put thread .none)
    (phases : next.phases = Function.update view.phases thread phase)
    (trace : next.trace = view.trace) : Orderly next := by
  have own : next.phases thread = phase := by rw [phases, Function.update_self]
  have others : ∀ other, other ≠ thread → next.phases other = view.phases other ∧
      next.world.copies other = view.world.copies other := by
    intro other different
    rw [phases, world]
    exact ⟨Function.update_of_ne different _ _, Function.update_of_ne different _ _⟩
  have control : next.world.control = view.world.control := by rw [world]; rfl
  have active : next.world.Active ↔ view.world.Active := by rw [world]; exact Iff.rfl
  -- A thread that is under way now is another one.
  have underWay : ∀ other, (next.phases other).UnderWay → other ≠ thread := by
    rintro other isBusy rfl
    rw [own] at isBusy
    rcases free with rfl | rfl <;> exact isBusy
  refine { row := ?_, rowless := ?_, fresh := ?_, known := ?_, copies := ?_, agreed := ?_,
           latched := ?_, held := ?_, concluded := ?_, unseen := ?_, respected := ?_ }
  · rw [control]
    exact orderly.row
  · intro other
    by_cases same : other = thread
    · rw [same, own]
      rcases free with rfl | rfl <;> exact nofun
    · rw [(others other same).1]
      exact orderly.rowless other
  · intro other begun
    by_cases same : other = thread
    · rw [same, world, World.put_copies]
    · rw [(others other same).2]
      exact orderly.fresh other ((others other same).1 ▸ begun)
  · intro other owes mode busy
    have different := underWay other (busy ▸ trivial)
    rw [control]
    exact orderly.known other owes mode ((others other different).1 ▸ busy)
  · intro other mode isBusy isLoaded
    have different := underWay other isBusy
    rw [control]
    exact orderly.copies other mode ((others other different).1 ▸ isBusy)
      ((others other different).2 ▸ isLoaded)
  · intro nobody
    rw [control, world]
    apply orderly.agreed
    intro other
    by_cases same : other = thread
    · rw [same]
      exact nothing
    · rw [← (others other same).1]
      exact nobody other
  · rw [trace, control]
    exact orderly.latched
  · intro other since
    rw [trace] at since
    rw [active]
    rcases orderly.held other since with owes | isActive
    · by_cases same : other = thread
      · exact absurd (same ▸ owes) nothing
      · exact .inl ((others other same).1 ▸ owes)
    · exact .inr isActive
  · intro other since
    rw [trace] at since
    rw [control, active]
    exact orderly.concluded other since
  · intro other known busy
    have different := underWay other (busy ▸ trivial)
    rw [trace]
    exact orderly.unseen other known ((others other different).1 ▸ busy)
  · rw [trace]
    exact orderly.respected

theorem Orderly.step
    (stepped : View.Step killSwitch tracking undisturbed (fun progress => ¬progress.Owes)
      (fun _ _ => True) view next) : Orderly next := by
  cases stepped with
  | started thread call idle permitted =>
    have nothing : ¬(view.phases thread).Owes := by
      rw [idle]
      exact id
    exact orderly.replaced (.inl rfl) nothing rfl rfl rfl
  | performed thread oracle command allowed permitted =>
    exact orderly.moved (perform_moved orderly.toCoherent allowed permitted)
  | returned thread ended => exact orderly.replaced (.inr rfl) ended rfl rfl rfl
  | raised thread failure ended permitted | crashed thread permitted =>
    exact orderly.replaced (.inr rfl) permitted rfl rfl rfl

end Latch

section Runs

/-- The emergency mode is latched. The state is active once an evaluation that committed it has
ended, in whatever way, until a reset; no evaluation commits it after a reset that came after it had
read the row; and without calls the entry agrees with the row. -/
structure Latches (machine : Machine signature World Call) : Prop where
  active : ∀ thread, Since (Concludes thread) Resets machine.trace ∨
      (machine.threads thread = none ∧ Since (fun _ => Triggers thread) Resets machine.trace) →
    machine.world.Active
  respected : ∀ earlier event later, machine.trace = earlier ++ event :: later →
    ∀ thread, Triggers thread event → ¬Since (fun _ => Resets) (Reads thread) earlier
  agreed : (∀ thread, machine.threads thread = none) →
    machine.world.control = some machine.world.entry.state.active

variable {before : World} {labels : List (Label Oracle Call)}
  {after : Machine signature World Call}

/-- In a run in which no mode is committed while another call is under way, and in which no call
dies that owes the cache an entry, the emergency mode is latched if there is a control row, and the
entry agrees with it at the start. -/
theorem undisturbed_runs_latch
    (agreed : before.control = some before.entry.state.active)
    (run : Run killSwitch (undisturbed.Permits killSwitch tracking) (Machine.atRest before) labels
      after) : Latches after := by
  have orderly : Orderly (after.view tracking) := by
    apply run.invariant (killSwitch_governs undisturbed) Orderly
    · exact fun view next => Orderly.step
    · exact Machine.atRest_conforms _
    · constructor
      · exact ⟨⟨_, agreed⟩, fun _ => nofun, fun _ => nofun, fun _ _ _ => nofun,
          fun _ _ never => never.elim, fun _ => agreed⟩
      · exact fun since => absurd since not_since_nil
      · exact fun _ since => absurd since not_since_nil
      · exact fun _ since => absurd since not_since_nil
      · exact fun _ _ => nofun
      · intro earlier event later same
        cases earlier <;> cases same
  have idle : ∀ thread, after.threads thread = none →
      ¬((after.view tracking).phases thread).Owes := by
    intro thread noCall
    show ¬(tracking.phaseOf (after.threads thread)).Owes
    rw [noCall]
    exact id
  constructor
  · rintro thread (since | ⟨noCall, since⟩)
    · exact (orderly.concluded thread since).2
    · exact (orderly.held thread since).resolve_left (idle thread noCall)
  · exact orderly.respected
  · intro nobody
    exact orderly.agreed fun thread => idle thread (nobody thread)

end Runs

/-- Readings without a reason, but for so many failed events. -/
def sampleReadings (failedEvents : ℕ) : Readings where
  websocketStatus := "connected"
  heartbeatAge := none
  executionErrors := 0
  riskAnomalies := 0
  users := []
  failedEvents := failedEvents
  candles := .missing
  metrics := []

def runs (thread : Thread) (count failedEvents : ℕ) : List (Label Oracle Call) :=
  List.replicate count (.run thread ⟨sampleReadings failedEvents, true, none⟩)

def sampleWorld (mode : Bool) (entry : Entry) : World := ⟨some mode, entry, fun _ => .none⟩

def mayRun (machine : Machine signature World Call) : Label Oracle Call → Bool
  | .start _ _ => true
  | .run thread oracle => (machine.threads thread).all fun running =>
      !(running.next (services.perform thread oracle running.command machine.world).2).hasRaised
  | .crash _ => false

theorem permits_of_mayRun {thread : Thread} (machine : Machine signature World Call)
    (label : Label Oracle Call) (lone : machine.Lone thread) (own : label.thread = thread)
    (tested : mayRun machine label = true) :
    undisturbed.Permits killSwitch tracking machine label := by
  cases label with
  | start starting call =>
    refine ⟨trivial, fun failure same => ?_⟩
    cases call <;> cases same
  | crash crashing => cases tested
  | run running oracle =>
    intro current found
    simp only [mayRun, found, Option.all_some, Bool.not_eq_true'] at tested
    refine ⟨fun mode _ other different => ?_, fun failure raised => ?_⟩
    · show ¬(tracking.phaseOf (machine.threads other)).UnderWay
      have isOwn : running = thread := own
      rw [lone other (isOwn ▸ different)]
      exact id
    · have same : current.next (services.perform running oracle current.command machine.world).2 =
          .fail failure := raised
      rw [same] at tested
      cases tested

def latchAndReset : List (Label Oracle Call) :=
  .start 0 .evaluate :: runs 0 14 20 ++ .start 0 .state :: runs 0 1 0 ++
    .start 0 .reset :: runs 0 4 0

theorem undisturbed_runs_latch_example :
    ∃ after : Machine signature World Call,
      Run killSwitch (undisturbed.Permits killSwitch tracking)
          (Machine.atRest (sampleWorld false (.json .inactive))) latchAndReset after ∧
        after.trace.length = 19 ∧ Latches after := by
  have evaluated : ((Machine.stepsIf killSwitch mayRun latchAndReset
      (Machine.atRest (sampleWorld false (.json .inactive)))).map fun after =>
        after.trace.length) = some 19 := by
    decide +kernel
  obtain ⟨after, stepped, length⟩ := Option.map_eq_some_iff.mp evaluated
  have run : Run killSwitch (undisturbed.Permits killSwitch tracking)
      (Machine.atRest (sampleWorld false (.json .inactive))) latchAndReset after := by
    apply Run.of_stepsIf 0 (fun machine label => permits_of_mayRun machine label) _ _ stepped
    · exact fun _ _ => rfl
    · decide +kernel
  exact ⟨after, run, length, undisturbed_runs_latch rfl run⟩

/-- A calm evaluation has read the row when another one triggers, and writes the cache after it. -/
def staleWriting : List (Label Oracle Call) :=
  .start 0 .evaluate :: runs 0 9 0 ++ .start 1 .evaluate :: runs 1 14 20 ++ runs 0 2 0

/-- An evaluation has read the row when a reset is called, and triggers after it. -/
def undoneReset : List (Label Oracle Call) :=
  .start 0 .evaluate :: runs 0 1 20 ++ .start 1 .reset :: runs 1 4 0 ++ runs 0 9 20

/-- The state may be inactive although an evaluation has committed the emergency mode and ended,
an evaluation may undo a reset that came after it had read the row, and without an entry the state
is inactive whatever the row says. -/
theorem emergency_mode_unlatched :
    (∃ after : Machine signature World Call,
      Run killSwitch (fun _ _ => True) (Machine.atRest (sampleWorld false (.json .inactive)))
          staleWriting after ∧
        Since (Concludes 1) Resets after.trace ∧ after.world.control = some true ∧
          ¬after.world.Active) ∧
      (∃ after : Machine signature World Call,
        Run killSwitch (fun _ _ => True) (Machine.atRest (sampleWorld false (.json .inactive)))
            undoneReset after ∧
          ∃ earlier event, after.trace = earlier ++ [event] ∧ Triggers 0 event ∧
            Since (fun _ => Resets) (Reads 0) earlier) ∧
        ¬Latches (Machine.atRest (sampleWorld true .missing)) := by
  refine ⟨?_, ?_, ?_⟩
  · have evaluated : ((Machine.steps killSwitch staleWriting
        (Machine.atRest (sampleWorld false (.json .inactive)))).map fun after =>
          decide (Since (Concludes 1) Resets after.trace ∧ after.world.control = some true ∧
            ¬after.world.Active)) = some true := by
      decide +kernel
    obtain ⟨after, stepped, broken⟩ := Option.map_eq_some_iff.mp evaluated
    exact ⟨after, Run.of_steps (fun _ _ => trivial) stepped, of_decide_eq_true broken⟩
  · have evaluated : ((Machine.steps killSwitch undoneReset
        (Machine.atRest (sampleWorld false (.json .inactive)))).map fun after =>
          (decide (after.trace.getLast?.any fun event => Triggers 0 event) &&
            decide (Since (fun _ => Resets) (Reads 0) after.trace.dropLast))) = some true := by
      decide +kernel
    obtain ⟨after, stepped, broken⟩ := Option.map_eq_some_iff.mp evaluated
    simp only [Bool.and_eq_true, decide_eq_true_eq, Option.any_eq_true] at broken
    obtain ⟨⟨event, isLast, triggers⟩, undone⟩ := broken
    exact ⟨after, Run.of_steps (fun _ _ => trivial) stepped, after.trace.dropLast, event,
      (List.dropLast_append_getLast? event isLast).symm, triggers, undone⟩
  · intro latches
    cases latches.agreed fun _ => rfl

end KillSwitch
