import CoinRobotu.Signal.Services

/-!
# What a commit writes

Rows are found by a key that no two rows share, so a rewritten row is found in
the place of the old one and every other row is found as before. A session's
commit rewrites its job, inserts or rewrites its order, and does the same for a
position if it holds one.
-/

namespace Signal

section Keyed

variable {α κ : Type} [DecidableEq κ] {key : α → κ} {rows : List α} {target sought : κ}
  {change : α → α}

theorem find_key (distinct : (rows.map key).Nodup) {row : α} :
    rows.find? (fun row => decide (key row = sought)) = some row ↔ row ∈ rows ∧
      key row = sought := by
  constructor
  · intro found
    exact ⟨List.mem_of_find?_eq_some found, by simpa using List.find?_some found⟩
  · rintro ⟨inside, rfl⟩
    cases found : rows.find? (fun other => decide (key other = key row)) with
    | none =>
      have absent := List.find?_eq_none.mp found row inside
      simp at absent
    | some other =>
      have same : key other = key row := by simpa using List.find?_some found
      have equal := List.inj_on_of_nodup_map distinct (List.mem_of_find?_eq_some found) inside same
      rw [equal]

theorem find_rewrite (keeps : ∀ row, key (change row) = key row) :
    (rewrite key target change rows).find? (fun row => decide (key row = sought)) =
      (rows.find? fun row => decide (key row = sought)).map
        fun row => if key row = target then change row else row := by
  unfold rewrite
  rw [List.find?_map]
  have sameKey : ∀ row, key (if key row = target then change row else row) = key row := by
    intro row
    split
    · exact keeps row
    · rfl
  congr 2
  funext row
  simp only [Function.comp_apply, sameKey]

theorem rewrite_same (same : ∀ row ∈ rows, key row = target → change row = row) :
    rewrite key target change rows = rows := by
  unfold rewrite
  conv_rhs => rw [← List.map_id rows]
  apply List.map_congr_left
  intro row inside
  split
  · rename_i isTarget
    exact same row inside isTarget
  · rfl

theorem rewrite_absent (absent : target ∉ rows.map key) :
    rewrite key target change rows = rows := by
  apply rewrite_same
  rintro row inside rfl
  exact absurd (List.mem_map_of_mem inside) absent

/-- A sum over rewritten rows differs by what the one row differs. -/
theorem sum_rewrite (distinct : (rows.map key).Nodup) {row : α} (inside : row ∈ rows) (f : α → ℚ) :
    ((rewrite key (key row) change rows).map f).sum = (rows.map f).sum - f row +
      f (change row) := by
  induction rows with
  | nil => cases inside
  | cons first others ih =>
    obtain ⟨fresh, distinct⟩ := List.nodup_cons.mp distinct
    have split : rewrite key (key row) change (first :: others) =
        (if key first = key row then change first else first) ::
          rewrite key (key row) change others := rfl
    rw [split, List.map_cons, List.sum_cons, List.map_cons, List.sum_cons]
    rcases List.mem_cons.mp inside with rfl | inside
    · rw [if_pos rfl, rewrite_absent fresh]
      ring
    · have different : key first ≠ key row := by
        intro same
        exact fresh (same ▸ List.mem_map_of_mem inside)
      rw [if_neg different, ih distinct inside]
      ring

end Keyed

@[simp] theorem ExecutionJob.merge_id (stored current row : ExecutionJob) :
    (ExecutionJob.merge stored current row).id = row.id := rfl

@[simp] theorem Order.merge_id (stored current row : Order) :
    (Order.merge stored current row).id = row.id := rfl

@[simp] theorem ExecutionJob.merge_same (stored row : ExecutionJob) :
    ExecutionJob.merge stored stored row = row := by
  simp [ExecutionJob.merge]

@[simp] theorem Order.merge_same (stored row : Order) : Order.merge stored stored row = row := by
  simp [Order.merge]

namespace Tables

variable (tables : Tables)

theorem writeAll_append (first second : List Change) :
    tables.writeAll (first ++ second) = (tables.writeAll first).writeAll second :=
  List.foldl_append

theorem writeAll_job (stored current : ExecutionJob) :
    tables.writeAll (if current = stored then [] else [.updateJob stored current]) =
      { tables with
        jobs := rewrite ExecutionJob.id stored.id (ExecutionJob.merge stored current)
          tables.jobs } := by
  split
  · rename_i same
    have unchanged :
        rewrite ExecutionJob.id stored.id (ExecutionJob.merge stored current) tables.jobs =
        tables.jobs := rewrite_same fun row _ _ => by rw [same, ExecutionJob.merge_same]
    rw [unchanged]
    rfl
  · rfl

theorem writeAll_order (stored current : Order) :
    tables.writeAll (if current = stored then [] else [.updateOrder stored current]) =
      { tables with
        orders := rewrite Order.id stored.id (Order.merge stored current) tables.orders } := by
  split
  · rename_i same
    have unchanged : rewrite Order.id stored.id (Order.merge stored current) tables.orders =
        tables.orders := rewrite_same fun row _ _ => by rw [same, Order.merge_same]
    rw [unchanged]
    rfl
  · rfl

end Tables

def Change.correct (row : Order) : Change → Order
  | .updateOrder stored current =>
    if row.id = stored.id then Order.merge stored current row else row
  | _ => row

def correctAll (changes : List Change) (row : Order) : Order :=
  changes.foldl (fun row change => change.correct row) row

theorem Change.correct_id (row : Order) (change : Change) : (change.correct row).id = row.id := by
  cases change with
  | updateOrder stored current =>
    unfold correct
    dsimp only
    split <;> rfl
  | _ => rfl

theorem correctAll_id (changes : List Change) (row : Order) :
    (correctAll changes row).id = row.id := by
  induction changes generalizing row with
  | nil => rfl
  | cons change changes ih =>
    exact (ih (change.correct row)).trans (change.correct_id row)

theorem Tables.writeAll_orders (tables : Tables) {changes : List Change}
    (updates : ∀ order, .insertOrder order ∉ changes) :
    (tables.writeAll changes).orders = tables.orders.map (correctAll changes) := by
  induction changes generalizing tables with
  | nil => exact (List.map_id tables.orders).symm
  | cons change changes ih =>
    have rest := ih (tables.write change) fun order inside =>
      updates order (List.mem_cons_of_mem _ inside)
    have first : (tables.write change).orders = tables.orders.map change.correct := by
      cases change with
      | updateOrder stored current => rfl
      | insertOrder order => exact absurd List.mem_cons_self (updates order)
      | _ => exact (List.map_id tables.orders).symm
    have split : tables.writeAll (change :: changes) = (tables.write change).writeAll changes := rfl
    rw [split, rest, first, List.map_map]
    rfl

section Commits

variable (work : Work)

def Work.writtenOrders (orders : List Order) : List Order :=
  match work.storedOrder with
  | none => orders ++ [work.order]
  | some stored => rewrite Order.id stored.id (Order.merge stored work.order) orders

def Work.writtenPositions (positions : List Position) : List Position :=
  match work.position with
  | none => positions
  | some (none, position) => positions ++ [position]
  | some (some stored, position) =>
      rewrite Position.positionId stored.positionId (Position.merge stored position) positions

theorem Work.writeAll_changes (tables : Tables) :
    tables.writeAll work.changes =
      { jobs := rewrite ExecutionJob.id work.storedJob.id
          (ExecutionJob.merge work.storedJob work.job) tables.jobs
        orders := work.writtenOrders tables.orders
        positions := work.writtenPositions tables.positions } := by
  unfold Work.changes Work.writtenOrders Work.writtenPositions
  rw [Tables.writeAll_append, Tables.writeAll_append, Tables.writeAll_job]
  cases work.storedOrder with
  | none => rcases work.position with _ | ⟨_ | stored, position⟩ <;> rfl
  | some stored =>
    rw [Tables.writeAll_order]
    rcases work.position with _ | ⟨_ | stored, position⟩ <;> rfl

theorem Work.changes_fills :
    work.changes.filterMap Change.fillJob = if work.position.isSome then [work.job.id] else [] := by
  have jobs : (if work.job = work.storedJob then [] else
      [Change.updateJob work.storedJob work.job]).filterMap Change.fillJob = [] := by
    split <;> rfl
  unfold Work.changes
  rw [List.filterMap_append, List.filterMap_append, jobs, List.nil_append]
  cases work.storedOrder with
  | none => rcases work.position with _ | ⟨_ | stored, position⟩ <;> rfl
  | some stored =>
    have orders : (if work.order = stored then [] else
        [Change.updateOrder stored work.order]).filterMap Change.fillJob = [] := by
      split <;> rfl
    dsimp only
    rw [orders]
    rcases work.position with _ | ⟨_ | stored, position⟩ <;> rfl

end Commits

namespace Database

variable {database after : Database}

theorem commit_ok {changes : List Change} (committed : database.commit changes = .ok after) :
    after.toTables = database.toTables.writeAll changes := by
  unfold commit at committed
  split at committed
  · cases committed
    rfl
  · cases committed

theorem commit_nil : database.commit [] = .ok database := dif_pos database.consistent

theorem findJob_some {id : Id} {job : ExecutionJob} :
    database.findJob id = some job ↔ job ∈ database.jobs ∧ job.id = id :=
  find_key database.consistent.1

theorem findOrder_some {id : Id} {order : Order} :
    database.findOrder id = some order ↔ order ∈ database.orders ∧ order.id = id :=
  find_key database.consistent.2.2.1

theorem findPosition_some {positionId : String × String} {position : Position} :
    database.findPosition positionId = some position ↔
      position ∈ database.positions ∧ position.positionId = positionId :=
  find_key database.consistent.2.2.2.2

theorem orderOfJob_some {jobId : Id} {order : Order}
    (found : database.orderOfJob jobId = some order) :
    order ∈ database.orders ∧ order.executionJobId = jobId :=
  ⟨List.mem_of_find?_eq_some found, by simpa using List.find?_some found⟩

theorem newlyFilled_same : newlyFilled database database = [] := by
  unfold newlyFilled
  apply List.filter_eq_nil_iff.mpr
  intro order inside
  have found : database.findOrder order.id = some order := findOrder_some.mpr ⟨inside, rfl⟩
  simp [found]

end Database

end Signal
