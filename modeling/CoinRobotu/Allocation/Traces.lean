import CoinRobotu.Allocation.Service

/-!
# What a refused call leaves behind

A refusal inside of a `try` block takes the session back to the committed rows. A refusal before
it leaves whatever has been assigned, and the next commit writes it. So a refused call leaves no
trace exactly when it is refused before its `try` block with nothing new assigned, or inside of it
while the session has no other changes to lose.
-/

namespace Allocation

open Stateful

/-- The checks and assignments of a call before its `try` block. -/
def beforeTry : Call → Work PUnit
  | .create payload actorId changeReason =>
    (fun _ => ⟨⟩) <$> newAllocation actorId changeReason payload
  | .update strategyId payload _ _ => (fun _ => ⟨⟩) <$> assignedRow strategyId payload
  | .toggle strategyId payload _ _ => (fun _ => ⟨⟩) <$> toggledRow strategyId payload
  | .bulk updates autoNormalized _ _ => (fun _ => ⟨⟩) <$> updatedItems updates autoNormalized
  | .delete strategyId _ _ _ => (fun _ => ⟨⟩) <$> getExistingStrategyAllocation strategyId
  | .normalize _ _ => ensureRows
  | .getOrCreate strategyId => (fun _ => ⟨⟩) <$> validateNonEmptyStrategyId (some strategyId)
  | .list _ _ | .commit => pure ⟨⟩

/-- A refused call is refused before its `try` block with nothing new assigned, or inside of it on
a session without changes. -/
def Traceless (session : Session) (call : Call) : Prop :=
  Ends (beforeTry call) (fun _ _ => session.committed = session.rows)
    (fun _ left => left.rows = session.rows) session

/-- After every later call that succeeds, the committed rows are as if the call had not been
made. -/
def LeavesNoTrace (session : Session) (call : Call) : Prop :=
  ∀ later reply, (outcome (outcome session call).2 later).1 = .ok reply →
    (outcome (outcome session call).2 later).2.committed = (outcome session later).2.committed

section Refusals

variable {committed : List StrategyAllocation} {Result Other : Type}

def RefusesUncommitted (committed : List StrategyAllocation) (work : Work Result) : Prop :=
  ∀ session, session.committed = committed →
    Ends work (fun _ _ => True) (fun _ after => after.committed = committed) session

abbrev Uncommitted (committed : List StrategyAllocation) (work : Work Result) : Prop :=
  Keeps (fun session => session.committed = committed) work

theorem Uncommitted.andThen {work : Work Result} {next : Result → Work Other}
    (first : Uncommitted committed work)
    (rest : ∀ result, RefusesUncommitted committed (next result)) :
    RefusesUncommitted committed (work >>= next) := by
  intro session same
  rw [ends_bind]
  exact (first session same).mono (fun still => rest _ _ still) fun still => still

theorem refuses_of_total {work : Work Result} (total : Total work) :
    RefusesUncommitted committed work := by
  intro session _
  exact (total session).mono (fun _ => trivial) fun never => never.elim

end Refusals

section Pieces

variable {committed : List StrategyAllocation} {actorId changeReason : Option String}

theorem writeRows_uncommitted {change : List StrategyAllocation → List StrategyAllocation} :
    Uncommitted committed (writeRows change) := keeps_modify fun _ same => same

theorem onRow_uncommitted {Result : Type} {row : StrategyAllocation}
    {work : Refusing StrategyAllocation ValueError Result} :
    Uncommitted committed (onRow row work) := by
  intro session same
  unfold onRow
  rw [ends_within]
  unfold Ends
  cases work row with
  | ok | error => exact same

variable {State : Type}

variable {invariant : State → Prop}

theorem ensureWeightIsOne_keeps
    {rows : List StrategyAllocation} : Keeps invariant (ensureWeightIsOne rows) := keeps_refuseIf

theorem ensureCapitalLimit_keeps
    {rows : List StrategyAllocation} : Keeps invariant (ensureCapitalLimit rows) := by
  unfold ensureCapitalLimit
  split
  · exact keeps_pure
  · exact keeps_throw

variable {invariant : Session → Prop}

theorem ensureTable_keeps : Keeps invariant ensureTable := by
  apply keeps_get.bind
  intro session
  apply ensureCapitalLimit_keeps.bind
  exact fun _ => keeps_get.bind fun _ => ensureWeightIsOne_keeps

theorem reduceAndCheck_uncommitted : Uncommitted committed reduceAndCheck :=
  writeRows_uncommitted.bind fun _ => ensureTable_keeps

theorem validateNonEmptyStrategyId_keeps {strategyId : Option String} :
    Keeps invariant (validateNonEmptyStrategyId strategyId) :=
  keeps_refuseIf.bind fun _ => keeps_refuseIf.bind fun _ => keeps_pure

theorem assertNonNegativeNumeric_keeps {fieldName : String} {field : Field} :
    Keeps invariant (assertNonNegativeNumeric fieldName field) := by
  cases field with
  | number value => exact keeps_refuseIf.bind fun _ => keeps_pure
  | absent | null | notNumeric => exact keeps_throw

theorem existingRow_keeps {key : String} :
    Keeps invariant (existingRow key) := by
  apply keeps_get.bind
  intro session
  split
  · exact keeps_throw
  · exact keeps_pure

variable {strategyId : String}

theorem getExistingStrategyAllocation_keeps :
    Keeps invariant (getExistingStrategyAllocation strategyId) :=
  validateNonEmptyStrategyId_keeps.bind fun _ => existingRow_keeps

theorem newAllocation_keeps {payload : CreatePayload} :
    Keeps invariant (newAllocation actorId changeReason payload) := by
  apply validateNonEmptyStrategyId_keeps.bind
  intro strategyId
  apply keeps_get.bind
  intro session
  apply keeps_refuseIf.bind
  intro _
  apply assertNonNegativeNumeric_keeps.bind
  intro capitalWeight
  apply keeps_refuseIf.bind
  intro _
  apply assertNonNegativeNumeric_keeps.bind
  intro maxCapital
  apply assertNonNegativeNumeric_keeps.bind
  intro currentCapital
  exact keeps_refuseIf.bind fun _ => keeps_pure

theorem updateItems_uncommitted {items : List BulkItem} :
    Uncommitted committed (updateItems items) := by
  induction items with
  | nil => exact keeps_pure
  | cons item items ih =>
    apply validateNonEmptyStrategyId_keeps.bind
    intro strategyId
    apply existingRow_keeps.bind
    intro row
    apply onRow_uncommitted.bind
    exact fun _ => ih.bind fun _ => keeps_pure

theorem assignedRow_uncommitted {payload : RowPayload} :
    Uncommitted committed (assignedRow strategyId payload) := by
  apply getExistingStrategyAllocation_keeps.bind
  intro row
  exact onRow_uncommitted.bind fun _ => keeps_pure

theorem toggledRow_uncommitted {payload : Confirmation} :
    Uncommitted committed (toggledRow strategyId payload) := by
  apply getExistingStrategyAllocation_keeps.bind
  intro row
  apply keeps_refuseIf.bind
  intro _
  exact onRow_uncommitted.bind fun _ => keeps_pure

theorem updatedItems_uncommitted {updates : List BulkItem} {autoNormalized : Bool} :
    Uncommitted committed (updatedItems updates autoNormalized) := by
  apply keeps_refuseIf.bind
  intro _
  apply updateItems_uncommitted.bind
  intro updatedIds
  exact writeRows_uncommitted.bind fun _ => keeps_pure

theorem ensureRows_keeps : Keeps invariant ensureRows :=
  keeps_get.bind fun _ => keeps_refuseIf

theorem normalizeAll_uncommitted {reason : String} :
    Uncommitted committed (normalizeAll actorId changeReason reason) :=
  writeRows_uncommitted.bind fun _ => writeRows_uncommitted

end Pieces

section Laws

variable {session : Session}

def Left (session : Session) (call : Call) (after : Session) : Prop :=
  after.committed = session.committed ∧ (after.rows = session.rows ↔ Traceless session call)

theorem left_of_tryBlock {First Result : Type} {first : Work First} {rest : First → Work Result}
    (uncommitted : Uncommitted session.committed first)
    (refuses : ∀ result, RefusesUncommitted session.committed (rest result)) :
    Ends (first >>= fun result => tryBlock (rest result)) (fun _ _ => True)
      (fun _ after => after.committed = session.committed ∧ (after.rows = session.rows ↔
        Ends first (fun _ _ => session.committed = session.rows)
          (fun _ left => left.rows = session.rows) session)) session := by
  have kept := uncommitted session rfl
  rw [ends_bind]
  unfold Ends at kept
  cases found : first session with
  | error refusal left =>
    rw [found] at kept
    unfold Ends
    rw [found]
    exact ⟨kept, Iff.rfl⟩
  | ok result left =>
    rw [found] at kept
    have passed : Ends first (fun _ _ => session.committed = session.rows)
        (fun _ left => left.rows = session.rows) session ↔ session.committed = session.rows := by
      unfold Ends
      rw [found]
    simp only [passed]
    have rolledBack : Ends (tryBlock (rest result)) (fun _ _ => True) (fun _ after =>
        after.committed = session.committed ∧
          (after.rows = session.rows ↔ session.committed = session.rows)) left := by
      unfold tryBlock
      rw [ends_orUndo]
      apply (refuses result left kept).mono (fun _ => trivial)
      intro refusal after same
      refine ⟨same, ?_⟩
      show after.committed = session.rows ↔ _
      rw [same]
    unfold Ends
    rw [found]
    exact rolledBack

theorem left_of_total {First Result : Type} {first : Work First} {rest : First → Work Result}
    (same : Keeps (fun other => other = session) first) (total : ∀ result, Total (rest result)) :
    Ends (first >>= rest) (fun _ _ => True) (fun _ after => after.committed = session.committed ∧
      (after.rows = session.rows ↔ Ends first (fun _ _ => session.committed = session.rows)
        (fun _ left => left.rows = session.rows) session)) session := by
  have kept := same session rfl
  rw [ends_bind]
  unfold Ends at kept
  cases found : first session with
  | error refusal left =>
    rw [found] at kept
    unfold Ends
    rw [found, kept]
    exact ⟨rfl, Iff.rfl⟩
  | ok result left =>
    unfold Ends
    rw [found]
    exact (total result left).mono (fun _ => trivial) fun never => never.elim

/-- Whatever a call does, a refusal leaves the committed rows, and the rows of the session exactly
when the call is traceless. -/
theorem perform_left {call : Call} :
    Ends (perform call) (fun _ _ => True) (fun _ => Left session call) session := by
  cases call with
  | create payload actorId changeReason =>
    unfold Left Traceless beforeTry perform createStrategyAllocation
    simp only [ends_map]
    apply left_of_tryBlock newAllocation_keeps
    intro row
    apply Uncommitted.andThen writeRows_uncommitted
    intro _
    exact reduceAndCheck_uncommitted.andThen fun _ => refuses_of_total total_modify
  | update strategyId payload actorId changeReason =>
    unfold Left Traceless beforeTry perform updateStrategyAllocation
    simp only [ends_map]
    apply left_of_tryBlock assignedRow_uncommitted
    intro row
    apply reduceAndCheck_uncommitted.andThen
    intro _
    exact Uncommitted.andThen writeRows_uncommitted fun _ => refuses_of_total total_modify
  | toggle strategyId payload actorId changeReason =>
    unfold Left Traceless beforeTry perform toggleStrategyThrottle
    simp only [ends_map]
    apply left_of_tryBlock toggledRow_uncommitted
    intro row
    apply reduceAndCheck_uncommitted.andThen
    intro _
    exact Uncommitted.andThen writeRows_uncommitted fun _ => refuses_of_total total_modify
  | bulk updates autoNormalized actorId changeReason =>
    unfold Left Traceless beforeTry perform bulkUpdateStrategyAllocations
    simp only [ends_map]
    apply left_of_tryBlock updatedItems_uncommitted
    intro updatedIds
    apply Uncommitted.andThen keeps_get
    intro before
    apply reduceAndCheck_uncommitted.andThen
    intro _
    apply Uncommitted.andThen writeRows_uncommitted
    exact fun _ => refuses_of_total fun _ => trivial
  | delete strategyId autoNormalized actorId changeReason =>
    unfold Left Traceless beforeTry perform deleteStrategyAllocation
    simp only [ends_map]
    apply left_of_tryBlock getExistingStrategyAllocation_keeps
    intro row
    apply Uncommitted.andThen writeRows_uncommitted
    intro _
    apply Uncommitted.andThen keeps_get
    intro remaining
    apply Uncommitted.andThen (Keeps.onlyIf fun _ => normalizeAll_uncommitted)
    intro _
    apply Uncommitted.andThen (Keeps.onlyIf fun _ => ensureTable_keeps)
    exact fun _ => refuses_of_total fun _ => trivial
  | normalize actorId changeReason =>
    unfold Left Traceless beforeTry perform normalizeStrategyAllocations
    simp only [ends_map]
    apply left_of_tryBlock ensureRows_keeps
    intro _
    apply normalizeAll_uncommitted.andThen
    intro _
    apply Uncommitted.andThen ensureTable_keeps
    exact fun _ => refuses_of_total fun _ => trivial
  | getOrCreate strategyId =>
    unfold Left Traceless beforeTry perform getOrCreateStrategyAllocation
    simp only [ends_map]
    apply left_of_total validateNonEmptyStrategyId_keeps
    intro key
    apply total_get.bind
    intro before
    split
    · exact total_pure
    · exact total_modify.bind fun _ => total_pure
  | list activity limit =>
    have seeded : ∀ strategyId ∈ canonicalStrategies, Total (seed strategyId) := by
      intro strategyId _
      apply total_get.bind
      intro before
      split
      · exact total_modify
      · exact total_modify
    have total : Total (listStrategyAllocations activity limit) := by
      apply total_get.bind
      intro before
      apply (Total.forM seeded).bind
      intro _
      apply Total.bind total_modify
      intro _
      apply Total.bind total_modify
      exact fun _ => total_get.bind fun _ => total_pure
    unfold perform
    rw [ends_map]
    exact (total session).mono (fun _ => trivial) fun never => never.elim
  | commit => trivial

theorem outcome_left {call : Call} {error : ValueError}
    (refused : (outcome session call).1 = .error error) :
    Left session call (outcome session call).2 := by
  have left := @perform_left session call
  unfold Ends at left
  unfold outcome at refused ⊢
  cases result : perform call session with
  | ok reply after =>
    rw [result] at refused
    cases refused
  | error refusal after =>
    rw [result] at left
    exact left

end Laws

end Allocation
