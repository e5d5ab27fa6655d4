import CoinRobotu.Intent.Commits

/-!
# Operations on one intent at the same time

Operations run in sessions of their own, and their commands interleave in any
order in which nobody waits for a lock. An operation that locks the row before
it reads it, and keeps the lock until it commits, always commits on top of the
status it has checked. The others do so only when nobody else committed a
status in between: a submission and a cancellation by the user, which take no
lock, an approval after the readiness check, which gives the lock up, and an
automatic release, whose locking queries do not refresh the row.

In every run in which they are not disturbed, and in which no failed release
commits a position without its status, the history of the intent is lawful.
-/

open Interleaving

namespace Intent

section Steps

variable {world left : World} {thread other : Thread} {oracle : Oracle} {command : Command}
  {progress : Progress} {reason : String}

theorem World.undergo_sessions (effect : Effect) :
    (world.undergo thread effect).sessions = world.sessions ∨
      (world.undergo thread effect).sessions = Function.update world.sessions thread .opened := by
  cases effect with
  | kept => exact .inl rfl
  | flushed => exact .inl World.flushed_sessions
  | rolledBack => exact .inr rfl
  | committed =>
    unfold World.undergo
    cases committed : world.commit? thread with
    | none => exact .inl rfl
    | some after => exact .inr (World.commit?_some committed).2.2.2.2

theorem World.undergo_self (effect : Effect) :
    (world.undergo thread effect).sessions thread = world.sessions thread ∨
      (world.undergo thread effect).sessions thread = .opened := by
  rcases @World.undergo_sessions world thread effect with same | opened
  · exact .inl (congrFun same thread)
  · exact .inr (by rw [opened, Function.update_self])

variable {service : Service}

theorem Service.effect_stays (stays : service.mayEnd = false)
    (wanted : Effect) (raises : Bool) :
    service.effect wanted raises = .kept ∨ service.effect wanted raises = .flushed := by
  cases service with
  | wallet | pipeline | commercialControl | executionGuard | openAllowed => cases stays
  | defaultBot | rebalance | syncPositionState | decisionTrace =>
    dsimp only [Service.effect]
    split
    · exact .inr rfl
    · exact .inl rfl
  | _ => exact .inl rfl

/-- What a service did to the transaction of a session in one command. -/
structure Undergone (world : World) (thread : Thread) (oracle : Oracle) (site : Site)
    (service : Service) (effect : Effect) : Prop where
  stays : service.mayEnd = false → effect = .kept ∨ effect = .flushed
  waits : effect ∈ [.flushed, .committed] → (world.sessions thread).dirty = true →
    world.needsLock thread oracle ⟨site, .call service⟩ = true

variable {site : Site}

theorem Undergone.replied
    (answers : oracle.raises site = none) :
    Undergone world thread oracle site service (service.effect (oracle.effect site) false) where
  stays stays := service.effect_stays stays _ _
  waits writes dirty := by
    simp only [World.needsLock, answers, Option.isSome_none, writes, dirty, decide_true,
      Bool.and_true]

variable {action : Action}

theorem World.fault_some
    (faulted : world.fault thread oracle ⟨site, action⟩ = some (left, reason)) :
    ((∀ service, action ≠ .call service) ∧ (left = world ∨ left = world.spoil thread)) ∨
      ∃ service effect, action = .call service ∧ Undergone world thread oracle site service effect ∧
        (left = world.undergo thread effect ∨ left = (world.undergo thread effect).spoil thread) := by
  unfold World.fault at faulted
  split at faulted
  · cases faulted
  split at faulted
  · obtain ⟨raise, raised, same⟩ := Option.map_eq_some_iff.mp faulted
    split at same
    · rename_i service isCall
      cases same
      refine .inr ⟨service, service.effect (oracle.effect site) true, isCall, ⟨?_, ?_⟩, ?_⟩
      · exact fun stays => service.effect_stays stays _ _
      · intro writes dirty
        simp only [World.needsLock, raised, Option.isSome_some, writes, dirty, decide_true,
          Bool.and_true]
      · cases raise.usable with
        | false => exact .inr rfl
        | true => exact .inl rfl
    · rename_i quiet
      cases same
      exact .inl ⟨fun service isCall => quiet service isCall, .inr rfl⟩
  · cases faulted
    cases action with
    | call service =>
      refine .inr ⟨service, .kept, rfl, ⟨fun _ => .inl rfl, fun impossible => ?_⟩, .inl rfl⟩
      exact absurd impossible (by decide)
    | _ => exact .inl ⟨nofun, .inl rfl⟩

/-- What was known before a raise is known after it, but a service may have ended the
transaction. -/
theorem Progress.after_raise (quiet : ∀ service, action ≠ .call service) :
    progress.after action (.error reason) = progress := by
  cases action with
  | call service => exact absurd rfl (quiet service)
  | _ => rfl

theorem Progress.after_refusal :
    progress.after (.call service) (.error reason) =
      if service.mayEnd then { progress with held := .unsure, locked := false } else progress := by
  cases service <;> rfl

theorem Progress.after_reply {reply : service.Reply} (wanted : Effect) :
    (progress.after (.call service) (.ok reply) = progress ∧
        (service.effect wanted false = .kept ∨ service.effect wanted false = .flushed)) ∨
      (service.mayEnd = true ∧ progress.after (.call service) (.ok reply) =
        { progress with held := .unsure, locked := false }) := by
  cases ends : service.mayEnd with
  | false =>
    refine .inl ⟨?_, service.effect_stays ends _ _⟩
    cases service <;> first | rfl | cases ends
  | true =>
    cases service with
    | commercialControl => exact .inl ⟨rfl, .inl (by simp [Service.effect])⟩
    | wallet => exact .inr ⟨rfl, rfl⟩
    | pipeline => exact .inr ⟨rfl, rfl⟩
    | executionGuard => exact .inr ⟨rfl, rfl⟩
    | openAllowed => exact .inr ⟨rfl, rfl⟩
    | _ => cases ends

theorem World.fault_none
    (unfaulted : world.fault thread oracle ⟨site, .call service⟩ = none) :
    oracle.raises site = none := by
  simp only [World.fault, World.inMemory, Bool.false_eq_true, if_false] at unfaulted
  split at unfaulted
  · exact Option.map_eq_none_iff.mp unfaulted
  · cases unfaulted

variable {effect : Effect}

section Undergoing

variable (tracks : Tracks (world.sessions thread) (world.lock = some thread)
  world.database.intent.status progress)

include tracks

theorem Tracks.undergone (allowed : progress.Allows (.call service)) {known : Progress}
    (isKnown : known = progress ∧ (effect = .kept ∨ effect = .flushed) ∨
      service.mayEnd = true ∧ known = { progress with held := .unsure, locked := false }) :
    Tracks ((world.undergo thread effect).sessions thread)
      ((world.undergo thread effect).lock = some thread)
      (world.undergo thread effect).database.intent.status known := by
  rcases isKnown with ⟨rfl, rfl | rfl⟩ | ⟨ends, rfl⟩
  · exact tracks
  · exact tracks.flushed
  · exact tracks.unsure (allowed ends) (World.undergo_self effect)

theorem Tracks.spoil :
    Tracks ((world.spoil thread).sessions thread) ((world.spoil thread).lock = some thread)
      (world.spoil thread).database.intent.status progress := by
  simpa [World.spoil] using tracks.spoiled

theorem Tracks.raised
    (allowed : progress.Allows action)
    (faulted : world.fault thread oracle ⟨site, action⟩ = some (left, reason)) :
    Tracks (left.sessions thread) (left.lock = some thread) left.database.intent.status
      (progress.after action (.error reason)) := by
  rcases World.fault_some faulted with ⟨quiet, same⟩ | ⟨service, effect, rfl, undergone, same⟩
  · rw [Progress.after_raise quiet]
    rcases same with rfl | rfl
    · exact tracks
    · exact tracks.spoil
  · have left : Tracks ((world.undergo thread effect).sessions thread)
        ((world.undergo thread effect).lock = some thread)
        (world.undergo thread effect).database.intent.status
        (progress.after (.call service) (.error reason)) := by
      apply tracks.undergone allowed
      rw [Progress.after_refusal]
      cases ends : service.mayEnd with
      | false => exact .inl ⟨rfl, undergone.stays ends⟩
      | true => exact .inr ⟨rfl, rfl⟩
    rcases same with rfl | rfl
    · exact left
    · exact left.spoil

end Undergoing

theorem Tracks.attributes_status {owns : Prop} {committed : IntentStatus}
    (tracks : Tracks (world.sessions thread) owns committed progress)
    (clear : progress.assigned = none) :
    (world.attributes thread).status = (world.rowSeen thread).status := by
  simp [World.attributes, tracks.assigned.trans clear]

theorem Tracks.rowSeen_status {owns : Prop} {committed status : IntentStatus}
    (tracks : Tracks (world.sessions thread) owns committed progress)
    (held : progress.held = .read status) : (world.rowSeen thread).status = status := by
  obtain ⟨row, isRow, same⟩ := Option.map_eq_some_iff.mp (tracks.read status held)
  simp [World.rowSeen, isRow, same]

section Answering

variable (tracks : Tracks (world.sessions thread) (world.lock = some thread)
  world.database.intent.status progress)

include tracks

theorem Tracks.load (clear : progress.assigned = none) {owns : Prop}
    {known : Progress} (held : known.held = .read (world.attributes thread).status)
    (assigned : known.assigned = none) (moving : known.moving = progress.moving)
    (seen : known.seen = progress.seen ∨ known.seen = some (world.attributes thread).status)
    (locked : known.locked = true → owns ∧ (progress.locked = true ∨
      progress.held = .unread ∧ known.seen = some (world.attributes thread).status)) :
    Tracks ((world.load thread).sessions thread) owns world.database.intent.status known := by
  have status := tracks.attributes_status clear
  have loaded : (world.load thread).sessions thread =
      { world.sessions thread with row := some (world.rowSeen thread) } := World.put_self _
  rw [loaded]
  rw [status] at held seen locked
  refine ⟨fun unread => ?_, fun _ isRead => ?_, ?_, fun still => ?_, fun moves => ?_, fun _ may => ?_,
    fun isLocked => ?_⟩
  · cases held.symm.trans unread
  · cases held.symm.trans isRead
    rfl
  · exact tracks.assigned.trans (clear.trans assigned.symm)
  · exact tracks.still (moving.symm.trans still)
  · obtain ⟨approved, heldApproved, _⟩ := tracks.moving (moving.symm.trans moves)
    have found := tracks.rowSeen_status heldApproved
    rw [found] at held seen
    exact ⟨seen.elim (·.trans approved) id, held, .inl assigned⟩
  · cases assigned.symm.trans may
  · obtain ⟨owned, before | ⟨unread, seenNow⟩⟩ := locked isLocked
    · obtain ⟨_, seenBefore, heldBefore⟩ := tracks.locked before
      have found := tracks.rowSeen_status heldBefore
      rw [found] at held seen
      exact ⟨owned, seen.elim (·.trans seenBefore) id, held⟩
    · have found : (world.rowSeen thread).status = world.database.intent.status := by
        simp [World.rowSeen, tracks.unread unread]
      rw [found] at held seenNow
      exact ⟨owned, seenNow, held⟩

/-- A command that does not raise leaves known what its answer says. -/
theorem Tracks.answered
    (allowed : progress.Allows action) :
    Tracks ((world.answer thread oracle site action).1.sessions thread)
      ((world.answer thread oracle site action).1.lock = some thread)
      (world.answer thread oracle site action).1.database.intent.status
      (progress.after action (world.answer thread oracle site action).2) := by
  cases action with
  | findByToken userId intentToken =>
    rcases World.findByToken_answers userId intentToken with answered | answered
    all_goals rw [answered]
    · apply tracks.load allowed
      · rfl
      · exact allowed
      · rfl
      · exact .inr rfl
      · exact fun isLocked => ⟨(tracks.locked isLocked).1, .inl isLocked⟩
    · exact tracks
  | findForUpdate intentId =>
    rcases World.findForUpdate_answers intentId with ⟨_, answered⟩ | answered
    all_goals rw [answered]
    · apply tracks.load allowed
      · rfl
      · exact allowed
      · rfl
      · exact .inr rfl
      · intro isLocked
        refine ⟨rfl, ?_⟩
        rcases (Bool.or_eq_true _ _).mp isLocked with unread | before
        · exact .inr ⟨of_decide_eq_true unread, rfl⟩
        · exact .inl before
    · exact tracks
  | attributes =>
    apply tracks.load allowed
    · rfl
    · exact allowed
    · rfl
    · exact .inl rfl
    · exact fun isLocked => ⟨(tracks.locked isLocked).1, .inl isLocked⟩
  | status =>
    apply tracks.load allowed
    · rfl
    · exact allowed
    · rfl
    · exact .inr rfl
    · exact fun isLocked => ⟨(tracks.locked isLocked).1, .inl isLocked⟩
  | setStatus status =>
    obtain ⟨clear, ⟨known, held⟩, ⟨seen, hasSeen, may⟩, releases⟩ := allowed
    have isRead := tracks.read known held
    have same : (Option.map (·.status) (world.sessions thread).row = some status) =
        (progress.held = .read status) := by
      simp [isRead, held]
    have answered : (world.answer thread oracle site (.setStatus status)).1.sessions thread =
        { world.sessions thread with
          status := if progress.held = .read status then none else some status } := by
      simp only [World.answer, World.put_self, same]
    rw [answered]
    refine ⟨tracks.unread, tracks.read, rfl, tracks.still, fun moves => ?_, fun next assigned => ?_,
      tracks.locked⟩
    · obtain ⟨approved, heldApproved, _⟩ := tracks.moving moves
      refine ⟨approved, heldApproved, .inr ?_⟩
      rw [releases moves]
      exact if_neg (by simp [heldApproved])
    · refine ⟨seen, hasSeen, ?_⟩
      have written : (if progress.held = .read status then none else some status) = some next :=
        assigned
      split at written
      · cases written
      · cases written
        exact may
  | assign columns =>
    have answered : (world.answer thread oracle site (.assign columns)).1.sessions thread =
        { world.sessions thread with
          row := (world.sessions thread).row.map (·.assigned [columns])
          columns := (world.sessions thread).columns ++ [columns] } := World.put_self _
    rw [answered]
    refine ⟨fun unread => ?_, fun status isRead => ?_, tracks.assigned, tracks.still, tracks.moving,
      tracks.may, tracks.locked⟩
    · exact congrArg (Option.map _) (tracks.unread unread)
    · simpa [Function.comp_def] using tracks.read status isRead
  | openPosition intent id => exact tracks
  | write write =>
    have answered : (world.answer thread oracle site (.write write)).1.sessions thread =
        { world.sessions thread with writes := (world.sessions thread).writes ++ [write] } :=
      World.put_self _
    rw [answered]
    exact ⟨tracks.unread, tracks.read, tracks.assigned, fun impossible => (by cases impossible),
      fun _ => ⟨allowed.seen, allowed.held, .inl allowed.assigned⟩, tracks.may, tracks.locked⟩
  | flush =>
    rcases World.flush_answers with ⟨reason, answered⟩ | answered
    all_goals rw [answered]
    · exact tracks.spoil
    · exact tracks.flushed
  | commit =>
    rcases World.commit_answers with ⟨reason, answered⟩ | ⟨after, committed, answered⟩
    all_goals rw [answered]
    · exact tracks.spoil
    · rw [(World.commit?_some committed).2.2.2.2, Function.update_self]
      exact ⟨fun _ => rfl, fun _ impossible => (by cases impossible), rfl, fun _ => rfl,
        fun impossible => (by cases impossible), fun _ impossible => (by cases impossible),
        fun impossible => (by cases impossible)⟩
  | refresh =>
    have answered : (world.answer thread oracle site .refresh).1.sessions thread =
        { world.sessions thread with
          row := some world.database.intent
          status := none
          columns := [] } := World.put_self _
    rw [answered]
    refine ⟨fun impossible => (by cases impossible), fun _ isRead => ?_, allowed.1.symm,
      fun _ => tracks.still allowed.2, fun moves => ?_, tracks.may,
      fun impossible => (by cases impossible)⟩
    · cases isRead
      rfl
    · cases allowed.2.symm.trans moves
  | call service =>
    apply tracks.undergone allowed
    exact progress.after_reply (oracle.effect site)

theorem Tracks.performed (allowed : progress.Allows command.action) :
    Tracks ((world.perform thread oracle command).1.sessions thread)
      ((world.perform thread oracle command).1.lock = some thread)
      (world.perform thread oracle command).1.database.intent.status
      (progress.after command.action (world.perform thread oracle command).2) := by
  unfold World.perform
  cases faulted : world.fault thread oracle command with
  | none => exact tracks.answered allowed
  | some refusal => exact tracks.raised allowed faulted

end Answering

theorem Session.status_of_clean {session : Session} (clean : session.dirty = false) :
    session.status = none := by
  unfold Session.dirty at clean
  rw [Bool.or_eq_false_iff] at clean
  exact Option.isSome_eq_false_iff.mp clean.1 |> Option.isNone_iff_eq_none.mp

/-- What another session holds on to is left to it: its rows, and with the lock the
committed status. -/
structure Spares (world after : World) (other : Thread) : Prop where
  session : after.sessions other = world.sessions other
  locked : world.lock = some other →
    after.lock = some other ∧ after.database.intent.status = world.database.intent.status

theorem Spares.refl (world : World) (other : Thread) : Spares world world other :=
  ⟨rfl, fun held => ⟨held, rfl⟩⟩

theorem Spares.spoiled {after : World} (spares : Spares world after other)
    (different : other ≠ thread) : Spares world (after.spoil thread) other :=
  ⟨(World.put_other _ different).trans spares.session, spares.locked⟩

theorem Spares.committed {after : World} (different : other ≠ thread)
    (committed : world.commit? thread = some after)
    (clean : world.lock = some other → (world.sessions thread).dirty = false) :
    Spares world after other := by
  obtain ⟨_, status, _, lock, opened⟩ := World.commit?_some committed
  constructor
  · rw [opened, Function.update_of_ne different]
  · intro held
    rw [lock, status, Session.status_of_clean (clean held)]
    exact ⟨World.unlock_lock different held, rfl⟩

theorem Spares.flushed (waits : (world.sessions thread).dirty = true → world.lock ≠ some other) :
    Spares world (world.flushed thread) other := by
  rcases @World.flushed_cases world thread with ⟨dirty, same⟩ | same
  all_goals rw [same]
  · exact ⟨rfl, fun held => absurd held (waits dirty)⟩
  · exact .refl world other

theorem World.not_held (different : other ≠ thread)
    (ready : ¬world.Waits thread oracle command)
    (needs : world.needsLock thread oracle command = true) : world.lock ≠ some other := by
  intro held
  refine absurd ⟨needs, ?_, ?_⟩ ready
  · rw [held]
    exact nofun
  · rw [held]
    exact fun same => different (Option.some.inj same)

theorem Spares.undergone
    (different : other ≠ thread) (undergone : Undergone world thread oracle site service effect)
    (ready : ¬world.Waits thread oracle ⟨site, .call service⟩) :
    Spares world (world.undergo thread effect) other := by
  cases effect with
  | kept => exact .refl world other
  | flushed =>
    apply Spares.flushed
    intro dirty
    exact World.not_held different ready (undergone.waits (by decide) dirty)
  | rolledBack =>
    refine ⟨World.put_other _ different, fun held => ⟨?_, rfl⟩⟩
    exact World.unlock_lock different held
  | committed =>
    unfold World.undergo
    cases committed : world.commit? thread with
    | none => exact .refl world other
    | some after =>
      apply Spares.committed different committed
      intro held
      cases dirty : (world.sessions thread).dirty with
      | false => rfl
      | true =>
        have needs := undergone.waits (by decide) dirty
        exact absurd held (World.not_held different ready needs)

/-- A command that does not have to wait spares the other sessions. -/
theorem Spares.performed (different : other ≠ thread)
    (ready : ¬world.Waits thread oracle command) :
    Spares world (world.perform thread oracle command).1 other := by
  have waits := World.not_held different ready
  have put : ∀ session, Spares world (world.put thread session) other := fun session =>
    ⟨World.put_other session different, fun held => ⟨held, rfl⟩⟩
  obtain ⟨site, action⟩ := command
  unfold World.perform
  cases faulted : world.fault thread oracle ⟨site, action⟩ with
  | some refusal =>
    rcases World.fault_some faulted with ⟨_, same⟩ | ⟨service, effect, rfl, undergone, same⟩
    · rcases same with same | same
      · exact same ▸ .refl world other
      · exact same ▸ put _
    · have spares := Spares.undergone different undergone ready
      rcases same with same | same
      · exact same ▸ spares
      · exact same ▸ spares.spoiled different
  | none =>
    cases action with
    | findByToken userId intentToken =>
      rcases World.findByToken_answers userId intentToken with answered | answered
      all_goals rw [answered]
      · exact put _
      · exact .refl world other
    | findForUpdate intentId =>
      rcases World.findForUpdate_answers intentId with ⟨needs, answered⟩ | answered
      all_goals rw [answered]
      · exact ⟨World.put_other _ different, fun held => absurd held (waits needs)⟩
      · exact .refl world other
    | attributes => exact put _
    | status => exact put _
    | setStatus status => exact put _
    | assign columns => exact put _
    | openPosition intent id => exact .refl world other
    | write write => exact put _
    | flush =>
      rcases World.flush_answers with ⟨reason, answered⟩ | answered
      all_goals rw [answered]
      · exact put _
      · exact Spares.flushed waits
    | commit =>
      rcases World.commit_answers with ⟨reason, answered⟩ | ⟨after, committed, answered⟩
      all_goals rw [answered]
      · exact put _
      · apply Spares.committed different committed
        intro held
        cases dirty : (world.sessions thread).dirty with
        | false => rfl
        | true => exact absurd held (waits dirty)
    | refresh => exact put _
    | call service => exact Spares.undergone different (.replied (World.fault_none faulted)) ready

/-- What a session meets when it commits undisturbed: the status it has checked, unless
it held the lock from then on; a position is written with its release only; and a
submission assigns its own status only where that is admitted. -/
structure Undisturbed (direct : Prop) (committed : IntentStatus) (progress : Progress) : Prop where
  whole : progress.moving = true → progress.assigned = some .released
  current : progress.assigned ≠ none → progress.locked = false → progress.seen = some committed
  direct : progress.assigned = some .submitted → direct

theorem Undisturbed.of_calm {direct : Prop} {committed : IntentStatus} (calm : progress.Calm) :
    Undisturbed direct committed progress where
  whole moves := nomatch calm.2.symm.trans moves
  current assigns := absurd calm.1 assigns
  direct submits := nomatch calm.1.symm.trans submits

theorem Lawful.committed {direct : Prop} {after : World}
    (lawful : Lawful direct world.database.intent.status world.database.history)
    (tracks : Tracks (world.sessions thread) (world.lock = some thread)
      world.database.intent.status progress)
    (undisturbed : Undisturbed direct world.database.intent.status progress)
    (committed : world.commit? thread = some after) :
    Lawful direct after.database.intent.status after.database.history := by
  obtain ⟨_, status, history, _⟩ := World.commit?_some committed
  have moves : (!(world.sessions thread).writes.isEmpty) = true → progress.moving = true := by
    intro written
    cases moving : progress.moving with
    | true => rfl
    | false => simp [tracks.still moving] at written
  rw [status, history, tracks.assigned]
  cases assigned : progress.assigned with
  | none =>
    apply lawful.append (.inl rfl)
    intro written
    cases assigned.symm.trans (undisturbed.whole (moves written))
  | some target =>
    have current : progress.seen = some world.database.intent.status := by
      cases locked : progress.locked with
      | true => exact (tracks.locked locked).2.1
      | false => exact undisturbed.current (by simp [assigned]) locked
    obtain ⟨seen, hasSeen, may⟩ := tracks.may target assigned
    obtain rfl : world.database.intent.status = seen :=
      Option.some.inj (current.symm.trans hasSeen)
    apply lawful.append
    · rcases may with listed | ⟨previewed, rfl⟩
      · exact .inr (.inl listed)
      · exact .inr (.inr ⟨undisturbed.direct assigned, previewed, rfl⟩)
    · intro written
      have isReleased := undisturbed.whole (moves written)
      have approved := (tracks.moving (moves written)).1
      exact ⟨Option.some.inj (current.symm.trans approved),
        Option.some.inj (assigned.symm.trans isReleased)⟩

theorem World.undergo_database
    (undergone : Undergone world thread oracle site service effect) :
    (world.undergo thread effect).database = world.database ∨
      service.mayEnd = true ∧ ∃ after, world.commit? thread = some after ∧
        (world.undergo thread effect).database = after.database := by
  cases effect with
  | kept | rolledBack => exact .inl rfl
  | flushed => exact .inl World.flushed_database
  | committed =>
    have ends : service.mayEnd = true := by
      cases ends : service.mayEnd with
      | true => rfl
      | false => rcases undergone.stays ends with impossible | impossible <;> cases impossible
    unfold World.undergo
    cases committed : world.commit? thread with
    | none => exact .inl rfl
    | some after => exact .inr ⟨ends, after, rfl, rfl⟩

/-- Only commits touch the database: those of an operation, and those of services that
may end a transaction. -/
theorem World.perform_database :
    (world.perform thread oracle command).1.database = world.database ∨
      (command.action.commits = true ∨
          ∃ service, command.action = .call service ∧ service.mayEnd = true) ∧
        ∃ after, world.commit? thread = some after ∧
          (world.perform thread oracle command).1.database = after.database := by
  obtain ⟨site, action⟩ := command
  have undergone : ∀ {service : Service} {effect : Effect} {left : World},
      action = .call service → Undergone world thread oracle site service effect →
        left.database = (world.undergo thread effect).database →
          left.database = world.database ∨ (action.commits = true ∨
            ∃ service, action = .call service ∧ service.mayEnd = true) ∧
              ∃ after, world.commit? thread = some after ∧ left.database = after.database := by
    intro service effect left isCall undergone same
    rcases World.undergo_database undergone with kept | ⟨ends, after, committed, written⟩
    · exact .inl (same.trans kept)
    · exact .inr ⟨.inr ⟨service, isCall, ends⟩, after, committed, same.trans written⟩
  unfold World.perform
  cases faulted : world.fault thread oracle ⟨site, action⟩ with
  | some refusal =>
    rcases World.fault_some faulted with ⟨_, same⟩ | ⟨service, effect, isCall, did, same⟩
    · left
      rcases same with same | same
      · exact congrArg World.database same
      · exact (congrArg World.database same).trans rfl
    · apply undergone isCall did
      rcases same with same | same
      · exact congrArg World.database same
      · exact (congrArg World.database same).trans rfl
  | none =>
    cases action with
    | findByToken userId intentToken =>
      rcases World.findByToken_answers userId intentToken with answered | answered
      all_goals rw [answered]
      all_goals exact .inl rfl
    | findForUpdate intentId =>
      rcases World.findForUpdate_answers intentId with ⟨_, answered⟩ | answered
      all_goals rw [answered]
      all_goals exact .inl rfl
    | flush =>
      rcases World.flush_answers with ⟨reason, answered⟩ | answered
      all_goals rw [answered]
      · exact .inl rfl
      · exact .inl World.flushed_database
    | commit =>
      rcases World.commit_answers with ⟨reason, answered⟩ | ⟨after, committed, answered⟩
      all_goals rw [answered]
      · exact .inl rfl
      · exact .inr ⟨.inl rfl, after, committed, rfl⟩
    | call service => exact undergone rfl (.replied (World.fault_none faulted)) rfl
    | _ => exact .inl rfl

theorem Lawful.performed {direct : Prop}
    (lawful : Lawful direct world.database.intent.status world.database.history)
    (tracks : Tracks (world.sessions thread) (world.lock = some thread)
      world.database.intent.status progress)
    (allowed : progress.Allows command.action)
    (undisturbed : command.action.commits = true →
      Undisturbed direct world.database.intent.status progress) :
    Lawful direct (world.perform thread oracle command).1.database.intent.status
      (world.perform thread oracle command).1.database.history := by
  rcases @World.perform_database world thread oracle command
    with same | ⟨commits, after, committed, same⟩
  · rw [same]
    exact lawful
  · rw [same]
    rcases commits with commits | ⟨service, isCall, ends⟩
    · exact lawful.committed tracks (undisturbed commits) committed
    · rw [isCall] at allowed
      exact lawful.committed tracks (.of_calm (allowed ends)) committed

end Steps

section Runs

variable {config : Config} {direct : Prop} {intent : UserExecutionIntent} {positions : Paper.Book}
  {labels : List (Label Oracle Task)} {after : Machine signature World Task}

/-- Before the first operation: an intent without a history, and no sessions at work. -/
def World.initial (intent : UserExecutionIntent) (positions : Paper.Book) : World :=
  ⟨⟨intent, positions, []⟩, none, fun _ => .opened⟩

def waiting : Discipline signature World Oracle Task Progress where
  starts _ _ _ := True
  runs view thread oracle command := ¬view.world.Waits thread oracle command
  dies _ _ := True

def careful (direct : Prop) : Discipline signature World Oracle Task Progress where
  starts _ _ _ := True
  runs view thread oracle command :=
    ¬view.world.Waits thread oracle command ∧
      (command.action.commits = true →
        Undisturbed direct view.world.database.intent.status (view.phases thread))
  dies _ _ := True

/-- What is known of every operation describes its session, and the history is lawful. -/
structure Orderly (direct : Prop) (view : View signature World Task Progress) : Prop where
  tracks : ∀ thread, Tracks (view.world.sessions thread) (view.world.lock = some thread)
    view.world.database.intent.status (view.phases thread)
  lawful : Lawful direct view.world.database.intent.status view.world.database.history

theorem Orderly.replace {view next : View signature World Task Progress} {thread : Thread}
    {progress : Progress} (orderly : Orderly direct view)
    (spares : ∀ other, other ≠ thread → Spares view.world next.world other)
    (phases : next.phases = Function.update view.phases thread progress)
    (tracks : Tracks (next.world.sessions thread) (next.world.lock = some thread)
      next.world.database.intent.status progress)
    (lawful : Lawful direct next.world.database.intent.status next.world.database.history) :
    Orderly direct next := by
  refine ⟨fun other => ?_, lawful⟩
  rw [phases]
  by_cases same : other = thread
  · subst same
    rw [Function.update_self]
    exact tracks
  · rw [Function.update_of_ne same, (spares other same).session]
    exact (orderly.tracks other).frame (spares other same).locked

theorem Orderly.step (view next : View signature World Task Progress)
    (orderly : Orderly direct view)
    (step : View.Step (operations config) tracking (careful direct) (fun _ => True)
      (fun _ _ => True) view next) : Orderly direct next := by
  have stopped : ∀ thread,
      Orderly direct (view.stop (operations config).toService tracking thread) := by
    intro thread
    apply orderly.replace _ rfl
    · have opened : (view.world.rollback thread).sessions thread = .opened := World.put_self _
      show Tracks ((view.world.rollback thread).sessions thread) _ _ _
      rw [opened]
      exact tracks_initial
    · exact orderly.lawful
    · intro other different
      exact ⟨World.put_other _ different, fun held => ⟨World.unlock_lock different held, rfl⟩⟩
  cases step with
  | started thread task idle permitted =>
    apply orderly.replace _ rfl
    · have opened : (view.world.put thread .opened).sessions thread = .opened := World.put_self _
      show Tracks ((view.world.put thread .opened).sessions thread) _ _ _
      rw [opened]
      exact tracks_initial
    · exact orderly.lawful
    · intro other different
      exact ⟨World.put_other _ different, fun held => ⟨held, rfl⟩⟩
  | performed thread oracle command allowed permitted =>
    apply orderly.replace _ rfl
    · exact (orderly.tracks thread).performed allowed
    · exact orderly.lawful.performed (orderly.tracks thread) allowed permitted.2
    · exact fun other different => .performed different permitted.1
  | returned thread | raised thread | crashed thread => exact stopped thread

def Untouched (positions : Paper.Book) (database : Database) : Prop :=
  (∀ change ∈ database.history, change.moves = false) → database.positions = positions

theorem untouched_of_run {permits : Machine signature World Task → Label Oracle Task → Prop}
    (run : Run (operations config) permits (Machine.atRest (World.initial intent positions)) labels
      after) : Untouched positions after.world.database := by
  apply run.world_invariant (fun world => Untouched positions world.database)
  · intro thread oracle command world untouched
    rcases @World.perform_database world thread oracle command
      with same | ⟨_, after, committed, same⟩
    · show Untouched positions (world.perform thread oracle command).1.database
      rw [same]
      exact untouched
    · show Untouched positions (world.perform thread oracle command).1.database
      rw [same]
      obtain ⟨⟨written, writes, isWritten⟩, _, history, _⟩ := World.commit?_some committed
      intro still
      rw [history] at still
      have earlier := untouched fun change inside =>
        still change (List.mem_append_left _ inside)
      have nothing : (world.sessions thread).writes = [] := by
        simpa using still _ (List.mem_append_right _ List.mem_cons_self)
      rw [nothing] at writes
      cases writes
      rw [isWritten, earlier]
  · exact fun _ _ untouched => untouched
  · exact fun _ _ untouched => untouched
  · exact fun _ => rfl

/-- In a run in which every operation commits undisturbed, the status follows the table,
apart from what submissions assign where that is admitted. -/
theorem undisturbed_runs_are_lawful
    (run : Run (operations config) ((careful direct).Permits (operations config) tracking)
      (Machine.atRest (World.initial intent positions)) labels after) :
    (∀ change ∈ after.world.database.history,
        change.after = change.before ∨ change.after ∈ allowedTransitions change.before ∨
          (direct ∧ change.before = .previewed ∧ change.after = .submitted)) ∧
      (∀ change ∈ after.world.database.history,
        change.before.Final → change.after = change.before) ∧
      (after.world.database.history.filter (·.moves)).length ≤ 1 ∧
      (∀ change ∈ after.world.database.history, change.moves = true →
        change.before = .approved ∧ change.after = .released) ∧
      (after.world.database.intent.status = .cancelled ∨
          after.world.database.intent.status = .rejected →
        after.world.database.positions = positions) := by
  have orderly : Orderly direct (after.view tracking) := by
    apply run.invariant (operations_governs config (careful direct)) (Orderly direct)
    · exact Orderly.step
    · exact Machine.atRest_conforms _
    · exact ⟨fun _ => tracks_initial, lawful_nil _⟩
  have lawful : Lawful direct after.world.database.intent.status after.world.database.history :=
    orderly.lawful
  refine ⟨lawful.follows, fun change inside final => (lawful.follows change inside).of_final final,
    lawful.once, lawful.releases, fun ends => ?_⟩
  apply untouched_of_run run
  intro change inside
  cases moves : change.moves with
  | false => rfl
  | true =>
    have released := lawful.released change inside moves
    rw [released] at ends
    rcases ends with impossible | impossible <;> cases impossible

end Runs

instance (direct : Prop) [Decidable direct] (committed : IntentStatus) (progress : Progress) :
    Decidable (Undisturbed direct committed progress) :=
  decidable_of_iff
    ((progress.moving = true → progress.assigned = some .released) ∧
      (progress.assigned ≠ none → progress.locked = false → progress.seen = some committed) ∧
        (progress.assigned = some .submitted → direct))
    ⟨fun ⟨whole, current, direct⟩ => ⟨whole, current, direct⟩,
      fun ⟨whole, current, direct⟩ => ⟨whole, current, direct⟩⟩

def runs (thread : Thread) (count : Nat) : List (Label Oracle Task) :=
  List.replicate count (.run thread steady)

def mayRun (machine : Machine signature World Task) : Label Oracle Task → Bool
  | .run thread oracle => (machine.threads thread).all fun running =>
      !decide (machine.world.Waits thread oracle running.command)
  | _ => true

def mayRunCarefully (machine : Machine signature World Task) (label : Label Oracle Task) : Bool :=
  mayRun machine label &&
    match label with
    | .run thread _ => (machine.threads thread).all fun running =>
        !running.command.action.commits ||
          decide (Undisturbed False machine.world.database.intent.status
            ((machine.view tracking).phases thread))
    | _ => true

theorem waiting_of_mayRun (machine : Machine signature World Task) (label : Label Oracle Task)
    (tested : mayRun machine label = true) :
    waiting.Permits (operations sampleConfig) tracking machine label := by
  cases label with
  | start thread task => exact ⟨trivial, fun _ _ => trivial⟩
  | crash thread => exact trivial
  | run thread oracle =>
    intro running found
    simp only [mayRun, found, Option.all_some, Bool.not_eq_true', decide_eq_false_iff_not] at tested
    exact ⟨tested, fun _ _ => trivial⟩

theorem careful_of_mayRunCarefully (machine : Machine signature World Task)
    (label : Label Oracle Task) (tested : mayRunCarefully machine label = true) :
    (careful False).Permits (operations sampleConfig) tracking machine label := by
  cases label with
  | start thread task => exact ⟨trivial, fun _ _ => trivial⟩
  | crash thread => exact trivial
  | run thread oracle =>
    intro running found
    simp only [mayRunCarefully, mayRun, found, Option.all_some, Bool.and_eq_true, Bool.not_eq_true',
      decide_eq_false_iff_not, Bool.or_eq_true, decide_eq_true_eq] at tested
    refine ⟨⟨tested.1, fun commits => ?_⟩, fun _ _ => trivial⟩
    exact tested.2.resolve_left (by simp [commits])

/-- A rejected intent is retried, approved and executed, each by another session. -/
def retriedRelease : List (Label Oracle Task) :=
  .start 0 (.retry "intent" "try again") :: runs 0 6 ++
    .start 1 (.approve "intent" "reviewed" none true true) :: runs 1 11 ++
      .start 2 (.execute "intent" sampleExecution) :: runs 2 14

theorem undisturbed_runs_are_lawful_retry :
    ∃ after : Machine signature World Task,
      Run (operations sampleConfig)
          ((careful False).Permits (operations sampleConfig) tracking)
          (Machine.atRest (World.initial (sampleIntent .rejected) noPositions)) retriedRelease
          after ∧
        after.world.database.history =
          [⟨.rejected, .queued, false⟩, ⟨.queued, .approved, false⟩,
            ⟨.approved, .released, true⟩] ∧
          (after.world.database.history.filter (·.moves)).length ≤ 1 := by
  have evaluated : ((Machine.stepsIf (operations sampleConfig) mayRunCarefully retriedRelease
      (Machine.atRest (World.initial (sampleIntent .rejected) noPositions))).map fun after =>
        after.world.database.history) =
      some [⟨.rejected, .queued, false⟩, ⟨.queued, .approved, false⟩,
        ⟨.approved, .released, true⟩] := by
    decide +kernel
  obtain ⟨after, stepped, history⟩ := Option.map_eq_some_iff.mp evaluated
  have run := Run.of_tested careful_of_mayRunCarefully stepped
  exact ⟨after, run, history, (undisturbed_runs_are_lawful run).2.2.1⟩

/-- The user's cancellation reads the row before an execution and commits after it. -/
def lateCancellation : List (Label Oracle Task) :=
  .start 0 (.cancel "user" "token") :: runs 0 1 ++
    .start 1 (.execute "intent" sampleExecution) :: runs 1 14 ++ runs 0 4

def firstCommit : List (Label Oracle Task) :=
  .start 0 (.submit ⟨"user", "token", none, "position"⟩) :: runs 0 18

theorem released_intent_is_cancelled :
    (∃ after : Machine signature World Task,
      Run (operations sampleConfig) (waiting.Permits (operations sampleConfig) tracking)
          (Machine.atRest (World.initial (sampleIntent .approved) noPositions)) lateCancellation
          after ∧
        after.world.database.history =
          [⟨.approved, .released, true⟩, ⟨.released, .cancelled, false⟩] ∧
          after.world.database.intent.status = .cancelled ∧
            after.world.database.positions ≠ noPositions) ∧
      ∃ after : Machine signature World Task,
        Run (operations sampleConfig) (waiting.Permits (operations sampleConfig) tracking)
            (Machine.atRest (World.initial (sampleIntent .previewed) noPositions)) firstCommit
            after ∧
          ⟨.previewed, .submitted, false⟩ ∈ after.world.database.history ∧
            IntentStatus.submitted ∉ allowedTransitions .previewed := by
  constructor
  · have evaluated : ((Machine.stepsIf (operations sampleConfig) mayRun lateCancellation
        (Machine.atRest (World.initial (sampleIntent .approved) noPositions))).map fun after =>
          (after.world.database.history, after.world.database.intent.status,
            after.world.database.positions.rows.length)) =
        some ([⟨.approved, .released, true⟩, ⟨.released, .cancelled, false⟩], .cancelled, 1) := by
      decide +kernel
    obtain ⟨after, stepped, ends⟩ := Option.map_eq_some_iff.mp evaluated
    obtain ⟨history, ends⟩ := Prod.mk.inj ends
    obtain ⟨status, opened⟩ := Prod.mk.inj ends
    refine ⟨after, Run.of_tested waiting_of_mayRun stepped, history, status, fun same => ?_⟩
    rw [same] at opened
    cases opened
  · have evaluated : ((Machine.stepsIf (operations sampleConfig) mayRun firstCommit
        (Machine.atRest (World.initial (sampleIntent .previewed) noPositions))).map fun after =>
          after.world.database.history) =
        some [⟨.previewed, .previewed, false⟩, ⟨.previewed, .submitted, false⟩] := by
      decide +kernel
    obtain ⟨after, stepped, history⟩ := Option.map_eq_some_iff.mp evaluated
    refine ⟨after, Run.of_tested waiting_of_mayRun stepped, ?_, by decide⟩
    rw [history]
    decide

end Intent
