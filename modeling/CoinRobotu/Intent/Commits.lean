import CoinRobotu.Intent.Conformance

/-!
# What commits do to an intent

The history of an intent is lawful when every change of its status is one that
the table allows, apart from those that submissions make without it, and when
positions were written at most once, together with the release of an approved
intent. A commit keeps the history lawful if its session checked the status
that is still the committed one.

A command of one session leaves the sessions of the others as they are, and while
one of them holds the lock, the committed status as well.
-/

open Interleaving

namespace Intent

section Worlds

variable {world after : World} {thread other : Thread}

@[simp] theorem World.put_database (session : Session) :
    (world.put thread session).database = world.database := rfl

@[simp] theorem World.put_lock (session : Session) :
    (world.put thread session).lock = world.lock := rfl

@[simp] theorem World.put_self (session : Session) :
    (world.put thread session).sessions thread = session := Function.update_self _ _ _

theorem World.put_other (session : Session) (different : other ≠ thread) :
    (world.put thread session).sessions other = world.sessions other :=
  Function.update_of_ne different _ _

@[simp] theorem World.unlock_sessions : (world.unlock thread).sessions = world.sessions := rfl

@[simp] theorem World.unlock_database : (world.unlock thread).database = world.database := rfl

theorem World.unlock_lock (different : other ≠ thread) (held : world.lock = some other) :
    (world.unlock thread).lock = some other := by
  have notOwn : world.lock ≠ some thread := by
    rw [held]
    exact fun same => different (Option.some.inj same)
  unfold World.unlock
  rw [if_neg notOwn]
  exact held

@[simp] theorem UserExecutionIntent.assigned_status (row : UserExecutionIntent)
    (columns : List (UserExecutionIntent → UserExecutionIntent)) :
    (row.assigned columns).status = row.status := rfl

theorem World.commit?_some (committed : world.commit? thread = some after) :
    (∃ positions, writeAll world.database.positions (world.sessions thread).writes =
        .ok positions ∧ after.database.positions = positions) ∧
      after.database.intent.status =
        (world.sessions thread).status.getD world.database.intent.status ∧
      after.database.history = world.database.history ++
        [⟨world.database.intent.status,
          (world.sessions thread).status.getD world.database.intent.status,
          !(world.sessions thread).writes.isEmpty⟩] ∧
      after.lock = (world.unlock thread).lock ∧
      after.sessions = Function.update world.sessions thread .opened := by
  unfold World.commit? at committed
  split at committed
  · cases committed
  · rename_i positions written
    cases committed
    exact ⟨⟨positions, written, rfl⟩, rfl, rfl, rfl, rfl⟩

section Answers

variable {oracle : Oracle} {site : Site}

theorem World.findByToken_answers (userId intentToken : String) :
    world.answer thread oracle site (.findByToken userId intentToken) =
        (world.load thread, .ok (some (world.attributes thread))) ∨
      world.answer thread oracle site (.findByToken userId intentToken) = (world, .ok none) := by
  by_cases found : world.database.intent.userId = userId ∧
      world.database.intent.intentToken = intentToken
  · exact .inl (if_pos found)
  · exact .inr (if_neg found)

theorem World.findForUpdate_answers (intentId : String) :
    (world.needsLock thread oracle ⟨site, .findForUpdate intentId⟩ = true ∧
        world.answer thread oracle site (.findForUpdate intentId) =
          ({ world.load thread with lock := some thread },
            .ok (some (world.attributes thread)))) ∨
      world.answer thread oracle site (.findForUpdate intentId) = (world, .ok none) := by
  by_cases found : world.database.intent.id = intentId
  · exact .inl ⟨decide_eq_true found, if_pos found⟩
  · exact .inr (if_neg found)

theorem World.flushed_cases :
    ((world.sessions thread).dirty = true ∧
        world.flushed thread = { world with lock := some thread }) ∨
      world.flushed thread = world := by
  unfold World.flushed
  cases (world.sessions thread).dirty with
  | false => exact .inr rfl
  | true => exact .inl ⟨rfl, rfl⟩

@[simp] theorem World.flushed_sessions : (world.flushed thread).sessions = world.sessions := by
  unfold World.flushed
  split <;> rfl

@[simp] theorem World.flushed_database : (world.flushed thread).database = world.database := by
  unfold World.flushed
  split <;> rfl

theorem World.flush_answers :
    (∃ reason, world.answer thread oracle site .flush = (world.spoil thread, .error reason)) ∨
      world.answer thread oracle site .flush = (world.flushed thread, .ok ()) := by
  cases written : writeAll world.database.positions (world.sessions thread).writes with
  | error reason =>
    refine .inl ⟨reason, ?_⟩
    simp only [World.answer, written]
  | ok positions =>
    right
    simp only [World.answer, written]

theorem World.commit_answers :
    (∃ reason, world.answer thread oracle site .commit = (world.spoil thread, .error reason)) ∨
      ∃ after, world.commit? thread = some after ∧
        world.answer thread oracle site .commit = (after, .ok ()) := by
  cases committed : world.commit? thread with
  | none =>
    refine .inl ⟨"duplicate key value violates unique constraint", ?_⟩
    simp only [World.answer, committed]
  | some after =>
    refine .inr ⟨after, rfl, ?_⟩
    simp only [World.answer, committed]

end Answers

end Worlds

section Lawful

variable {direct : Prop}

/-- A status that may follow another one; with `direct`, a submission's as well. -/
def Follows (direct : Prop) (before after : IntentStatus) : Prop :=
  after = before ∨ after ∈ allowedTransitions before ∨
    (direct ∧ before = .previewed ∧ after = .submitted)

/-- The table was kept to, positions were written at most once, and with the release of
an approved intent. -/
structure Lawful (direct : Prop) (status : IntentStatus) (history : List Change) : Prop where
  follows : ∀ change ∈ history, Follows direct change.before change.after
  releases : ∀ change ∈ history, change.moves = true →
    change.before = .approved ∧ change.after = .released
  once : (history.filter (·.moves)).length ≤ 1
  released : ∀ change ∈ history, change.moves = true → status = .released

theorem Follows.of_final {before after : IntentStatus} (follows : Follows direct before after)
    (final : before.Final) : after = before := by
  rcases follows with same | listed | ⟨_, rfl, _⟩
  · exact same
  · exact absurd final (not_final_of_allowed listed)
  · rcases final with impossible | impossible <;> cases impossible

theorem lawful_nil (status : IntentStatus) : Lawful direct status [] where
  follows _ impossible := nomatch impossible
  releases _ impossible := nomatch impossible
  once := Nat.zero_le 1
  released _ impossible := nomatch impossible

/-- A change that follows the committed status keeps the history lawful, if it writes
positions only with the release of an approved intent. -/
theorem Lawful.append {before after : IntentStatus} {moves : Bool} {history : List Change}
    (lawful : Lawful direct before history) (follows : Follows direct before after)
    (releases : moves = true → before = .approved ∧ after = .released) :
    Lawful direct after (history ++ [⟨before, after, moves⟩]) where
  follows change inside := by
    rcases List.mem_append.mp inside with earlier | last
    · exact lawful.follows change earlier
    · obtain rfl := List.mem_singleton.mp last
      exact follows
  releases change inside := by
    rcases List.mem_append.mp inside with earlier | last
    · exact lawful.releases change earlier
    · obtain rfl := List.mem_singleton.mp last
      exact releases
  once := by
    rw [List.filter_append, List.length_append]
    cases moves with
    | false => simpa using lawful.once
    | true =>
      have none : history.filter (·.moves) = [] := by
        apply List.filter_eq_nil_iff.mpr
        intro change earlier moved
        have released := lawful.released change earlier moved
        rw [(releases rfl).1] at released
        cases released
      simp [none]
  released change inside moved := by
    rcases List.mem_append.mp inside with earlier | last
    · have released := lawful.released change earlier moved
      rw [follows.of_final (.inl released), released]
    · obtain rfl := List.mem_singleton.mp last
      exact (releases moved).2

end Lawful

/-- What is known of an operation describes its session. `owns` says that the session
holds the lock, and `committed` is the committed status. -/
structure Tracks (session : Session) (owns : Prop) (committed : IntentStatus)
    (progress : Progress) : Prop where
  unread : progress.held = .unread → session.row = none
  read : ∀ status, progress.held = .read status → session.row.map (·.status) = some status
  assigned : session.status = progress.assigned
  still : progress.moving = false → session.writes = []
  moving : progress.moving = true → progress.seen = some .approved ∧
    progress.held = .read .approved ∧
      (progress.assigned = none ∨ progress.assigned = some .released)
  may : ∀ status, progress.assigned = some status →
    ∃ seen, progress.seen = some seen ∧ MayAssign seen status
  locked : progress.locked = true →
    owns ∧ progress.seen = some committed ∧ progress.held = .read committed

section Tracks

variable {session : Session} {owns owns' : Prop} {committed committed' : IntentStatus}
  {progress : Progress}

theorem tracks_initial : Tracks .opened owns committed .initial where
  unread _ := rfl
  read _ impossible := nomatch impossible
  assigned := rfl
  still _ := rfl
  moving impossible := nomatch impossible
  may _ impossible := nomatch impossible
  locked impossible := nomatch impossible

/-- Others leave what is known of a session true, if they leave the status alone while
it holds the lock. -/
theorem Tracks.frame (tracks : Tracks session owns committed progress)
    (kept : owns → owns' ∧ committed' = committed) :
    Tracks session owns' committed' progress where
  unread := tracks.unread
  read := tracks.read
  assigned := tracks.assigned
  still := tracks.still
  moving := tracks.moving
  may := tracks.may
  locked isLocked := by
    obtain ⟨owned, seen, held⟩ := tracks.locked isLocked
    obtain ⟨still, rfl⟩ := kept owned
    exact ⟨still, seen, held⟩

theorem Tracks.spoiled (tracks : Tracks session owns committed progress) :
    Tracks { session with usable := false } owns committed progress :=
  ⟨tracks.unread, tracks.read, tracks.assigned, tracks.still, tracks.moving, tracks.may,
    tracks.locked⟩

theorem Tracks.flushed {world : World} {thread : Thread} {progress : Progress}
    (tracks : Tracks (world.sessions thread) (world.lock = some thread)
      world.database.intent.status progress) :
    Tracks ((world.flushed thread).sessions thread) ((world.flushed thread).lock = some thread)
      (world.flushed thread).database.intent.status progress := by
  rcases @World.flushed_cases world thread with ⟨_, same⟩ | same
  all_goals rw [same]
  · exact tracks.frame fun _ => ⟨rfl, rfl⟩
  · exact tracks

theorem Tracks.unsure (tracks : Tracks session owns committed progress) (calm : progress.Calm)
    {left : Session} (same : left = session ∨ left = .opened) :
    Tracks left owns' committed' { progress with held := .unsure, locked := false } where
  unread impossible := nomatch impossible
  read _ impossible := nomatch impossible
  assigned := by
    rcases same with rfl | rfl
    · exact tracks.assigned
    · exact calm.1.symm
  still _ := by
    rcases same with rfl | rfl
    · exact tracks.still calm.2
    · rfl
  moving moves := nomatch calm.2.symm.trans moves
  may := tracks.may
  locked impossible := nomatch impossible

end Tracks

end Intent
