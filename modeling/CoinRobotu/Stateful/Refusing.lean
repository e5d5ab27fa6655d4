import Mathlib.Logic.Basic

/-!
# Computations that may refuse

A computation on a state returns a result or refuses with a reason, and either way leaves a
state: what it has written before it refuses stays written. A judgment says what holds of the
result or the refusal and of the state that is left. Its rules follow the shape of a computation,
so that a proof walks through a `do` block once and cites one law for each function it calls.
-/

namespace Stateful

universe u

abbrev Refusing (State Refusal : Type u) := EStateM Refusal State

section Judgment

variable {State Refusal Result Other : Type u}

/-- From a state, the computation returns a result as `done` says, or refuses as `refused` says. -/
def Ends (work : Refusing State Refusal Result) (done : Result → State → Prop)
    (refused : Refusal → State → Prop) (state : State) : Prop :=
  match work state with
  | .ok result after => done result after
  | .error refusal after => refused refusal after

def refuseIf (condition : Prop) [Decidable condition] (refusal : Refusal) :
    Refusing State Refusal PUnit :=
  if condition then throw refusal else pure ⟨⟩

def onlyIf (condition : Prop) [Decidable condition] (work : Refusing State Refusal PUnit) :
    Refusing State Refusal PUnit :=
  if condition then work else pure ⟨⟩

def orUndo (undo : State → State) (work : Refusing State Refusal Result) :
    Refusing State Refusal Result := fun state =>
  match work state with
  | .ok result after => .ok result after
  | .error refusal after => .error refusal (undo after)

def within {Part : Type u} (part : State → Part) (write : Part → State → State)
    (work : Refusing Part Refusal Result) : Refusing State Refusal Result := fun state =>
  match work (part state) with
  | .ok result after => .ok result (write after state)
  | .error refusal after => .error refusal (write after state)

variable {work : Refusing State Refusal Result} {next : Result → Refusing State Refusal Other}
  {done : Result → State → Prop} {refused : Refusal → State → Prop} {state : State}

theorem ends_get {done : State → State → Prop} :
    Ends get done refused state ↔ done state state := Iff.rfl

theorem ends_bind {done : Other → State → Prop} :
    Ends (work >>= next) done refused state ↔
      Ends work (fun result => Ends (next result) done refused) refused state := by
  unfold Ends
  show (match EStateM.bind work next state with | .ok _ _ => _ | .error _ _ => _) ↔ _
  unfold EStateM.bind
  cases work state with
  | ok | error => rfl

theorem ends_map {result : Result → Other} {done : Other → State → Prop} :
    Ends (result <$> work) done refused state ↔
      Ends work (fun value => done (result value)) refused state := by
  unfold Ends
  show (match EStateM.map result work state with | .ok _ _ => _ | .error _ _ => _) ↔ _
  unfold EStateM.map
  cases work state with
  | ok | error => rfl

theorem ends_ite {condition : Prop} [Decidable condition]
    {other : Refusing State Refusal Result} :
    Ends (if condition then work else other) done refused state ↔
      if condition then Ends work done refused state else Ends other done refused state := by
  split <;> rfl

theorem ends_refuseIf {condition : Prop} [Decidable condition] {refusal : Refusal}
    {done : PUnit → State → Prop} :
    Ends (refuseIf condition refusal) done refused state ↔
      if condition then refused refusal state else done ⟨⟩ state := by
  unfold refuseIf
  split <;> rfl

theorem ends_orUndo {undo : State → State} : Ends (orUndo undo work) done refused state ↔
    Ends work done (fun refusal after => refused refusal (undo after)) state := by
  unfold Ends orUndo
  cases work state with
  | ok | error => rfl

theorem ends_within {Part : Type u} {part : State → Part} {write : Part → State → State}
    {work : Refusing Part Refusal Result} : Ends (within part write work) done refused state ↔
      Ends work (fun result after => done result (write after state))
        (fun refusal after => refused refusal (write after state)) (part state) := by
  unfold Ends within
  cases work (part state) with
  | ok | error => rfl

theorem Ends.mono (ends : Ends work done refused state) {done' : Result → State → Prop}
    {refused' : Refusal → State → Prop} (results : ∀ {result after}, done result after →
      done' result after) (refusals : ∀ {refusal after}, refused refusal after →
      refused' refusal after) : Ends work done' refused' state := by
  unfold Ends at *
  cases outcome : work state with
  | ok result after =>
    rw [outcome] at ends
    exact results ends
  | error refusal after =>
    rw [outcome] at ends
    exact refusals ends

end Judgment

section Invariants

variable {State Refusal Result Other : Type u} {invariant : State → Prop}

def Keeps (invariant : State → Prop) (work : Refusing State Refusal Result) : Prop :=
  ∀ state, invariant state → Ends work (fun _ => invariant) (fun _ => invariant) state

variable {work : Refusing State Refusal Result} {next : Result → Refusing State Refusal Other}

theorem keeps_pure {result : Result} :
    Keeps invariant (pure result : Refusing State Refusal Result) := fun _ held => held

variable {refusal : Refusal}

theorem keeps_throw :
    Keeps invariant (throw refusal : Refusing State Refusal Result) := fun _ held => held

theorem keeps_get : Keeps invariant (get : Refusing State Refusal State) := fun _ held => held

theorem keeps_modify {change : State → State}
    (kept : ∀ state, invariant state → invariant (change state)) :
    Keeps invariant (modify change : Refusing State Refusal PUnit) := kept

theorem Keeps.bind (first : Keeps invariant work) (rest : ∀ result, Keeps invariant (next result)) :
    Keeps invariant (work >>= next) := by
  intro state held
  rw [ends_bind]
  exact (first state held).mono (fun still => rest _ _ still) fun still => still

theorem Keeps.map (first : Keeps invariant work) {result : Result → Other} :
    Keeps invariant (result <$> work) := by
  intro state held
  rw [ends_map]
  exact first state held

variable {condition : Prop}

theorem Keeps.ite [Decidable condition]
    {other : Refusing State Refusal Result} (positive : condition → Keeps invariant work)
    (negative : ¬condition → Keeps invariant other) :
    Keeps invariant (if condition then work else other) := by
  split
  · exact positive ‹_›
  · exact negative ‹_›

theorem keeps_refuseIf [Decidable condition] :
    Keeps invariant (refuseIf condition refusal : Refusing State Refusal PUnit) :=
  .ite (fun _ => keeps_throw) fun _ => keeps_pure

theorem Keeps.unless [Decidable condition]
    {rest : PUnit → Refusing State Refusal Result}
    (otherwise : ¬condition → Keeps invariant (rest ⟨⟩)) :
    Keeps invariant (refuseIf condition refusal >>= rest) := by
  intro state held
  rw [ends_bind, ends_refuseIf]
  split
  · exact held
  · exact otherwise ‹_› state held

theorem Keeps.onlyIf [Decidable condition]
    {work : Refusing State Refusal PUnit} (keeps : condition → Keeps invariant work) :
    Keeps invariant (onlyIf condition work) := .ite keeps fun _ => keeps_pure

end Invariants

section Triples

variable {State Refusal Result Other : Type u} {before : State → Prop}

/-- From a state that satisfies the precondition, a computation that returns leaves its result and
the state as the postcondition says. -/
def Triple (before : State → Prop) (work : Refusing State Refusal Result)
    (after : Result → State → Prop) : Prop :=
  ∀ state, before state → Ends work after (fun _ _ => True) state

variable {work : Refusing State Refusal Result} {next : Result → Refusing State Refusal Other}
  {after : Result → State → Prop} {last : Other → State → Prop}

theorem Keeps.triple (keeps : Keeps before work) : Triple before work fun _ => before := by
  intro state held
  exact (keeps state held).mono (fun still => still) fun _ => trivial

theorem triple_pure {result : Result} (holds : ∀ state, before state → after result state) :
    Triple before (pure result : Refusing State Refusal Result) after := holds

theorem triple_throw {refusal : Refusal} :
    Triple before (throw refusal : Refusing State Refusal Result) after := fun _ _ => trivial

theorem triple_get : Triple before (get : Refusing State Refusal State)
    fun result state => before state ∧ result = state := fun _ held => ⟨held, rfl⟩

theorem triple_modify {change : State → State} {after : State → Prop}
    (changed : ∀ state, before state → after (change state)) :
    Triple before (modify change : Refusing State Refusal PUnit) fun _ => after := changed

theorem triple_refuseIf {condition : Prop} [Decidable condition] {refusal : Refusal} :
    Triple before (refuseIf condition refusal : Refusing State Refusal PUnit)
      fun _ state => before state ∧ ¬condition := by
  intro state held
  rw [ends_refuseIf]
  split
  · trivial
  · exact ⟨held, ‹_›⟩

theorem Triple.bind (first : Triple before work after)
    (rest : ∀ result, Triple (after result) (next result) last) :
    Triple before (work >>= next) last := by
  intro state held
  rw [ends_bind]
  exact (first state held).mono (fun reached => rest _ _ reached) fun _ => trivial

theorem Triple.map {result : Result → Other}
    (triple : Triple before work fun value => last (result value)) :
    Triple before (result <$> work) last := by
  intro state held
  rw [ends_map]
  exact triple state held

theorem Triple.weaken (triple : Triple before work after) {after' : Result → State → Prop}
    (implies : ∀ {result state}, after result state → after' result state) :
    Triple before work after' := by
  intro state held
  exact (triple state held).mono implies fun _ => trivial

theorem Triple.strengthen {before' : State → Prop} (triple : Triple before work after)
    (implies : ∀ {state}, before' state → before state) : Triple before' work after :=
  fun state held => triple state (implies held)

theorem Triple.onlyIf {condition : Prop} [Decidable condition]
    {work : Refusing State Refusal PUnit} {after : State → Prop}
    (positive : condition → Triple before work fun _ => after)
    (negative : ¬condition → ∀ state, before state → after state) :
    Triple before (onlyIf condition work) fun _ => after := by
  unfold Stateful.onlyIf
  split
  · exact positive ‹_›
  · exact negative ‹_›

theorem Triple.orUndo {undo : State → State} (triple : Triple before work after) :
    Triple before (orUndo undo work) after := by
  intro state held
  rw [ends_orUndo]
  exact (triple state held).mono (fun reached => reached) fun _ => trivial

end Triples

section Totality

variable {State Refusal Result Other : Type u}

def Total (work : Refusing State Refusal Result) : Prop :=
  ∀ state, Ends work (fun _ _ => True) (fun _ _ => False) state

variable {work : Refusing State Refusal Result} {next : Result → Refusing State Refusal Other}

theorem total_pure {result : Result} : Total (pure result : Refusing State Refusal Result) :=
  fun _ => trivial

theorem total_get : Total (get : Refusing State Refusal State) := fun _ => trivial

theorem total_modify {change : State → State} :
    Total (modify change : Refusing State Refusal PUnit) := fun _ => trivial

theorem Total.bind (first : Total work) (rest : ∀ result, Total (next result)) :
    Total (work >>= next) := by
  intro state
  rw [ends_bind]
  exact (first state).mono (fun _ => rest _ _) fun never => never

theorem Total.forM {Item : Type u} {items : List Item}
    {each : Item → Refusing State Refusal PUnit} (total : ∀ item ∈ items, Total (each item)) :
    Total (items.forM each) := by
  induction items with
  | nil => exact total_pure
  | cons item items ih =>
    apply (total item List.mem_cons_self).bind
    exact fun _ => ih fun other inside =>
      total other (List.mem_cons_of_mem _ inside)

end Totality

end Stateful
