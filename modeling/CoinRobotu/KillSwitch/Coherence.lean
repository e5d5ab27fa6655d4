import CoinRobotu.KillSwitch.Tracking

/-!
# The row, its copies and the entry

What a command does depends on how far its call is. Where no mode is committed while another call
is under way, what a call knows of the mode is what the control row says, and the entry agrees with
the row as soon as nobody owes it.
-/

open Interleaving

namespace KillSwitch

def committedMode : signature.Event → Option Bool
  | ⟨.commitMode mode, .ok _⟩ => some mode
  | _ => none

def writtenEntry : signature.Event → Option Payload
  | ⟨.setEntry payload, .ok _⟩ => some payload
  | _ => none

def readsControl : signature.Event → Bool
  | ⟨.readControl, .ok _⟩ => true
  | _ => false

section Discipline

/-- A mode is committed only while no other call is under way, and no call dies that owes the cache
an entry. -/
def undisturbed : Discipline signature World Oracle Call Progress where
  starts _ _ _ := True
  runs view thread _ command := ∀ mode, command = .commitMode mode →
    ∀ other, other ≠ thread → ¬(view.phases other).UnderWay
  dies view thread := ¬(view.phases thread).Owes

variable {view next : View signature World Call Progress} {thread : Thread}
  {event : signature.Event}

/-- What one command does to the world and to what is known of its call. -/
inductive Did (view next : View signature World Call Progress) (thread : Thread)
    (event : signature.Event) : Prop where
  | quiet (phase : next.phases thread = view.phases thread)
      (control : next.world.control = view.world.control)
      (entry : next.world.entry = view.world.entry)
      (copy : next.world.copies thread = view.world.copies thread ∨
        (next.world.copies thread = .expired ∧ view.world.copies thread ≠ .none))
      (none_committed : committedMode event = none) (written : writtenEntry event = none)
      (reads : readsControl event = false)
  | found (before : view.phases thread = .begun) (mode : Bool)
      (phase : next.phases thread = .busy false none)
      (control : view.world.control = some mode)
      (same : next.world.control = view.world.control)
      (entry : next.world.entry = view.world.entry)
      (copy : next.world.copies thread = .loaded mode)
      (none_committed : committedMode event = none) (written : writtenEntry event = none)
      (reads : readsControl event = true)
  | learned (owes : Bool) (known : Option Bool) (mode : Bool)
      (before : view.phases thread = .busy owes known)
      (phase : next.phases thread = .busy owes (some mode))
      (control : view.world.control = some mode)
      (same : next.world.control = view.world.control)
      (entry : next.world.entry = view.world.entry)
      (copy : next.world.copies thread = .loaded mode)
      (none_committed : committedMode event = none) (written : writtenEntry event = none)
      (reads : readsControl event = false)
  | committed (known : Option Bool) (mode : Bool)
      (before : view.phases thread = .busy false known)
      (phase : next.phases thread = .busy true (some mode))
      (control : next.world.control = some mode)
      (entry : next.world.entry = view.world.entry)
      (copy : ∀ mode, next.world.copies thread ≠ .loaded mode)
      (committed : committedMode event = some mode) (written : writtenEntry event = none)
      (reads : readsControl event = false)
  | wrote (owes : Bool) (payload : Payload)
      (before : view.phases thread = .busy owes (some payload.active))
      (phase : next.phases thread = .done)
      (control : next.world.control = view.world.control)
      (entry : next.world.entry = .json payload)
      (none_committed : committedMode event = none) (written : writtenEntry event = some payload)
      (reads : readsControl event = false)

/-- What the control row, the copies of it and the entry have to do with each other. -/
structure Coherent (view : View signature World Call Progress) : Prop where
  row : ∃ mode, view.world.control = some mode
  rowless : ∀ thread, view.phases thread ≠ .rowless
  fresh : ∀ thread, view.phases thread = .begun → view.world.copies thread = .none
  known : ∀ thread owes mode, view.phases thread = .busy owes (some mode) →
    view.world.control = some mode
  copies : ∀ thread mode, (view.phases thread).UnderWay →
    view.world.copies thread = .loaded mode → view.world.control = some mode
  agreed : (∀ thread, ¬(view.phases thread).Owes) →
    view.world.control = some view.world.entry.state.active

theorem after_error {progress : Progress} {command : Command} {reason : String} :
    progress.after command (.error reason) = progress := by
  cases progress <;> cases command <;> rfl

theorem after_quiet {progress : Progress} {command : Command} {reply : command.Reply}
    (quiet : command.quiet = true) : progress.after command (.ok reply) = progress := by
  cases progress <;> cases command <;> first | rfl | cases quiet

theorem expire_copies {world : World} :
    (world.expire thread).copies thread = world.copies thread ∨
      ((world.expire thread).copies thread = .expired ∧ world.copies thread ≠ .none) := by
  unfold World.expire
  rw [World.put_copies]
  split
  · rename_i isNone
    exact .inl isNone.symm
  · exact .inr ⟨rfl, ‹_›⟩

theorem expire_copies_ne {world : World} {mode : Bool} :
    (world.expire thread).copies thread ≠ .loaded mode := by
  unfold World.expire
  rw [World.put_copies]
  split
  · exact nofun
  · exact nofun

theorem load_copies {world : World} {mode : Bool} (control : world.control = some mode)
    (copy : ∀ other, world.copies thread = .loaded other → world.control = some other) :
    (world.load thread).copies thread = .loaded mode ∧
      (world.load thread).control = world.control ∧ (world.load thread).entry = world.entry := by
  unfold World.load
  split
  · rename_i _ other isLoaded
    have same := copy other isLoaded
    rw [control] at same
    cases same
    exact ⟨isLoaded, rfl, rfl⟩
  · rename_i other isSome _
    rw [control] at isSome
    cases isSome
    exact ⟨world.put_copies thread _, rfl, rfl⟩
  · rename_i isNone _
    rw [control] at isNone
    cases isNone

variable {oracle : Oracle} {command : Command}

def eventOf (view : View signature World Call Progress) (thread : Thread) (oracle : Oracle)
    (command : Command) : signature.Event :=
  ⟨command, (view.world.perform thread oracle command).2⟩

theorem Did.unmoved (phase : (view.phases thread).after command
      (view.world.perform thread oracle command).2 = view.phases thread)
    (control : (view.world.perform thread oracle command).1.control = view.world.control)
    (entry : (view.world.perform thread oracle command).1.entry = view.world.entry)
    (copy : (view.world.perform thread oracle command).1.copies thread =
        view.world.copies thread ∨
      ((view.world.perform thread oracle command).1.copies thread = .expired ∧
        view.world.copies thread ≠ .none))
    (plain : command.quiet = true ∨ ∃ reason, oracle.raises = some reason) :
    Did view (view.perform killSwitch.toService tracking thread oracle command) thread
      (eventOf view thread oracle command) := by
  have kept : (view.perform killSwitch.toService tracking thread oracle command).phases thread =
      view.phases thread := (Function.update_self _ _ _).trans phase
  unfold eventOf
  rcases plain with quiet | ⟨reason, raises⟩
  · apply Did.quiet kept control entry copy
    · cases command <;> first | rfl | cases quiet
    · cases command <;> first | rfl | cases quiet
    · cases command <;> first | rfl | cases quiet
  · unfold World.perform
    rw [raises]
    apply Did.quiet kept control entry copy
    · cases command <;> rfl
    · cases command <;> rfl
    · cases command <;> rfl

theorem Did.of_quiet (quiet : command.quiet = true) (calm : oracle.raises = none) :
    Did view (view.perform killSwitch.toService tracking thread oracle command) thread
      (eventOf view thread oracle command) := by
  apply Did.unmoved _ _ _ _ (.inl quiet)
  all_goals
    unfold World.perform
    rw [calm]
  · cases command with
    | createSystemAlert alertType => exact after_quiet rfl
    | _ => first | exact after_quiet rfl | cases quiet
  · cases command with
    | createSystemAlert alertType =>
      simp only [World.answer]
      split <;> rfl
    | _ => first | rfl | cases quiet
  · cases command with
    | createSystemAlert alertType =>
      simp only [World.answer]
      split <;> rfl
    | _ => first | rfl | cases quiet
  · cases command with
    | createSystemAlert alertType =>
      simp only [World.answer]
      split
      · exact expire_copies
      · exact .inl rfl
    | createAuditLog action => exact expire_copies
    | _ => first | exact .inl rfl | cases quiet

theorem Coherent.busy (coherent : Coherent view) (allows : (view.phases thread).Allows command)
    (notRow : command ≠ .readControl) (notEntry : command ≠ .getEntry) :
    ∃ owes known, view.phases thread = .busy owes known := by
  cases before : view.phases thread with
  | busy owes known => exact ⟨owes, known, rfl⟩
  | rowless => exact absurd before (coherent.rowless thread)
  | begun =>
    rw [before] at allows
    rcases allows with isRow | isEntry
    · exact absurd isRow notRow
    · exact absurd isEntry notEntry
  | _ =>
    rw [before] at allows
    exact allows.elim

/-- What one allowed command does. -/
theorem perform_did (coherent : Coherent view)
    (allowed : tracking.allows (view.phases thread) command) :
    Did view (view.perform killSwitch.toService tracking thread oracle command) thread
      (eventOf view thread oracle command) := by
  have phase : (view.perform killSwitch.toService tracking thread oracle command).phases thread =
      (view.phases thread).after command (view.world.perform thread oracle command).2 :=
    Function.update_self _ _ _
  have world : (view.perform killSwitch.toService tracking thread oracle command).world =
      (view.world.perform thread oracle command).1 := rfl
  have allows : (view.phases thread).Allows command := allowed
  obtain ⟨mode, control⟩ := coherent.row
  cases raises : oracle.raises with
  | some reason =>
    apply Did.unmoved _ _ _ _ (.inr ⟨reason, raises⟩)
    all_goals
      unfold World.perform
      rw [raises]
    · exact after_error
    · exact .inl rfl
  | none =>
    by_cases quiet : command.quiet = true
    · exact .of_quiet quiet raises
    have answered : view.world.perform thread oracle command =
        view.world.answer thread oracle command := by
      unfold World.perform
      rw [raises]
    unfold eventOf
    rw [answered] at phase world ⊢
    cases command with
    | readControl =>
      have begun : view.phases thread = .begun := by
        cases before : view.phases thread with
        | begun => rfl
        | rowless => exact absurd before (coherent.rowless thread)
        | busy owes known =>
          rw [before] at allows
          exact absurd rfl allows.1
        | _ =>
          rw [before] at allows
          exact allows.elim
      have loadable : ∀ other, view.world.copies thread = .loaded other →
          view.world.control = some other := by
        intro other isLoaded
        rw [coherent.fresh thread begun] at isLoaded
        cases isLoaded
      obtain ⟨copy, same, entry⟩ := load_copies control loadable
      have replied : (view.world.answer thread oracle .readControl).2 = .ok true := by
        simp only [World.answer, copy]
        rfl
      rw [replied, begun] at phase
      rw [replied]
      exact .found begun mode phase control (world ▸ same) (world ▸ entry) (world ▸ copy) rfl rfl
        rfl
    | emergencyMode =>
      obtain ⟨owes, known, busy⟩ := coherent.busy allows nofun nofun
      have loadable : ∀ other, view.world.copies thread = .loaded other →
          view.world.control = some other :=
        fun other => coherent.copies thread other (busy ▸ trivial)
      obtain ⟨copy, same, entry⟩ := load_copies control loadable
      have replied : view.world.answer thread oracle .emergencyMode =
          (view.world.load thread, .ok mode) := by
        simp only [World.answer, copy]
      rw [replied] at world phase ⊢
      rw [busy] at phase
      exact .learned owes known mode busy phase control (world ▸ same) (world ▸ entry)
        (world ▸ copy) rfl rfl rfl
    | commitMode mode =>
      obtain ⟨owes, known, busy⟩ := coherent.busy allows nofun nofun
      rw [busy] at allows phase
      obtain rfl : owes = false := allows.2.1 mode rfl
      have written : (view.world.commitMode thread mode).control = some mode := by
        unfold World.commitMode
        split
        · exact coherent.copies thread mode (busy ▸ trivial) ‹_›
        · rw [control]
          rfl
      exact .committed known mode busy phase (world ▸ written) (world ▸ rfl)
        (fun _ => world ▸ expire_copies_ne) rfl rfl rfl
    | setEntry payload =>
      obtain ⟨owes, known, busy⟩ := coherent.busy allows nofun nofun
      rw [busy] at allows phase
      obtain rfl : known = some payload.active := allows.2.2 payload rfl
      exact .wrote owes payload busy phase (world ▸ rfl) (world ▸ rfl) rfl rfl rfl
    | _ => exact absurd rfl quiet

theorem perform_copies {world : World} {other : Thread} (different : other ≠ thread) :
    (world.perform thread oracle command).1.copies other = world.copies other := by
  have put : ∀ copy, (world.put thread copy).copies other = world.copies other :=
    fun copy => Function.update_of_ne different _ _
  have load : (world.load thread).copies other = world.copies other := by
    unfold World.load
    split
    · rfl
    · exact put _
    · rfl
  unfold World.perform
  split
  · rfl
  cases command with
  | readControl => exact load
  | emergencyMode =>
    simp only [World.answer]
    split
    · exact load
    · rfl
  | commitMode | createAuditLog => exact put _
  | createSystemAlert alertType =>
    simp only [World.answer]
    split
    · exact put _
    · rfl
  | _ => rfl

/-- One command of a thread: the others stay where they are. -/
structure Moved (view next : View signature World Call Progress) (thread : Thread)
    (event : signature.Event) : Prop where
  did : Did view next thread event
  phases : ∀ other, other ≠ thread → next.phases other = view.phases other
  copies : ∀ other, other ≠ thread → next.world.copies other = view.world.copies other
  alone : committedMode event ≠ none →
    ∀ other, other ≠ thread → ¬(view.phases other).UnderWay
  trace : next.trace = view.trace ++ [(thread, event)]

theorem perform_moved (coherent : Coherent view)
    (allowed : tracking.allows (view.phases thread) command)
    (permitted : undisturbed.runs view thread oracle command) :
    Moved view (view.perform killSwitch.toService tracking thread oracle command) thread
      (eventOf view thread oracle command) where
  did := perform_did coherent allowed
  phases other different := Function.update_of_ne different _ _
  copies other different := perform_copies different
  alone committed := by
    cases command with
    | commitMode mode => exact permitted mode rfl
    | _ => exact absurd rfl committed
  trace := rfl

theorem Did.control (did : Did view next thread event) :
    (committedMode event = none ∧ next.world.control = view.world.control) ∨
      ∃ mode known, committedMode event = some mode ∧ writtenEntry event = none ∧
        view.phases thread = .busy false known ∧ next.phases thread = .busy true (some mode) ∧
          next.world.control = some mode := by
  cases did with
  | committed known mode before phase control entry copy committed written =>
    exact .inr ⟨mode, known, committed, written, before, phase, control⟩
  | quiet phase control entry copy none_committed
  | wrote owes payload before phase control entry none_committed =>
    exact .inl ⟨none_committed, control⟩
  | found before mode phase control same entry copy none_committed
  | learned owes known mode before phase control same entry copy none_committed =>
    exact .inl ⟨none_committed, same⟩

theorem Did.commits (did : Did view next thread event) {mode : Bool}
    (committed : committedMode event = some mode) :
    writtenEntry event = none ∧ (∃ known, view.phases thread = .busy false known) ∧
      next.phases thread = .busy true (some mode) ∧ next.world.control = some mode := by
  rcases did.control with ⟨none_committed, _⟩ | ⟨other, known, isOther, written, before, after⟩
  · cases none_committed.symm.trans committed
  · cases isOther.symm.trans committed
    exact ⟨written, ⟨known, before⟩, after⟩

theorem Moved.control (moved : Moved view next thread event) {other : Thread}
    (different : other ≠ thread) (underWay : (view.phases other).UnderWay) :
    next.world.control = view.world.control := by
  rcases moved.did.control with ⟨_, same⟩ | ⟨mode, known, committed, _⟩
  · exact same
  · exact absurd underWay (moved.alone (by rw [committed]; exact nofun) other different)

theorem Coherent.moved (coherent : Coherent view) (moved : Moved view next thread event) :
    Coherent next where
  row := by
    rcases moved.did.control with ⟨_, same⟩ | ⟨mode, known, _, _, _, _, control⟩
    · rw [same]
      exact coherent.row
    · exact ⟨mode, control⟩
  rowless other := by
    by_cases own : other = thread
    · subst own
      cases moved.did with
      | quiet phase => exact phase ▸ coherent.rowless other
      | found before mode phase | learned owes known mode before phase
      | committed known mode before phase | wrote owes payload before phase => exact phase ▸ nofun
    · exact moved.phases other own ▸ coherent.rowless other
  fresh other begun := by
    by_cases own : other = thread
    · subst own
      cases moved.did with
      | quiet phase control entry copy =>
        have isNone := coherent.fresh other (phase ▸ begun)
        rcases copy with same | ⟨_, someCopy⟩
        · exact same.trans isNone
        · exact absurd isNone someCopy
      | found before mode phase | learned owes known mode before phase
      | committed known mode before phase | wrote owes payload before phase =>
        cases phase.symm.trans begun
    · rw [moved.copies other own]
      exact coherent.fresh other (moved.phases other own ▸ begun)
  known other owes mode busy := by
    by_cases own : other = thread
    · subst own
      cases moved.did with
      | quiet phase control =>
        exact control ▸ coherent.known other owes mode (phase ▸ busy)
      | found before found phase | wrote owes payload before phase => cases phase.symm.trans busy
      | learned owes known learned before phase control same =>
        cases phase.symm.trans busy
        exact same ▸ control
      | committed known committed before phase control =>
        cases phase.symm.trans busy
        exact control
    · rw [moved.phases other own] at busy
      rw [moved.control own (busy ▸ trivial)]
      exact coherent.known other owes mode busy
  copies other mode underWay isLoaded := by
    by_cases own : other = thread
    · subst own
      cases moved.did with
      | quiet phase control entry copy =>
        rw [phase] at underWay
        rcases copy with same | ⟨expired, _⟩
        · exact control ▸ coherent.copies other mode underWay (same ▸ isLoaded)
        · cases expired.symm.trans isLoaded
      | found before found phase control same entry copy
      | learned owes known learned before phase control same entry copy =>
        cases copy.symm.trans isLoaded
        exact same ▸ control
      | committed known committed before phase control entry copy =>
        exact absurd isLoaded (copy mode)
      | wrote owes payload before phase => exact (phase ▸ underWay : Progress.done.UnderWay).elim
    · rw [moved.phases other own] at underWay
      rw [moved.copies other own] at isLoaded
      rw [moved.control own underWay]
      exact coherent.copies other mode underWay isLoaded
  agreed nobody := by
    have still : ((next.phases thread).Owes ↔ (view.phases thread).Owes) →
        ∀ other, ¬(view.phases other).Owes := by
      intro same other
      by_cases own : other = thread
      · subst own
        exact fun owes => nobody other (same.mpr owes)
      · exact moved.phases other own ▸ nobody other
    cases moved.did with
    | quiet phase control entry =>
      rw [control, entry]
      exact coherent.agreed (still (by rw [phase]))
    | found before mode phase control same entry =>
      rw [same, entry]
      exact coherent.agreed (still (by rw [before, phase]; exact ⟨nofun, nofun⟩))
    | learned owes known mode before phase control same entry =>
      rw [same, entry]
      exact coherent.agreed (still (by rw [before, phase]; exact Iff.rfl))
    | committed known mode before phase => exact absurd (phase ▸ rfl) (nobody thread)
    | wrote owes payload before phase control entry =>
      rw [control, entry]
      exact coherent.known thread owes payload.active before

end Discipline

end KillSwitch
