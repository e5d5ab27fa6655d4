import Mathlib.Data.List.Basic

/-!
# Runs of atomic steps

Where calls do not overlap, a system is a relation between states, labelled by
what happened. A run records its labels; `admits` restricts the labels it may
take, judged by the state before the step.
-/

namespace Interleaving

universe u v

/-- The labels of a run of admitted steps, and the state it ends in. -/
inductive Path {State : Type u} {Label : Type v} (step : State → Label → State → Prop)
    (admits : State → Label → Prop) (before : State) : List Label → State → Prop where
  | rest : Path step admits before [] before
  | step {labels : List Label} {state after : State}
    (earlier : Path step admits before labels state)
      (label : Label) (admitted : admits state label) (stepped : step state label after) :
      Path step admits before (labels ++ [label]) after

namespace Path

variable {State : Type u} {Label : Type v} {step : State → Label → State → Prop}
  {admits : State → Label → Prop} {before after : State} {labels : List Label}

theorem invariant (Invariant : State → Prop)
    (preserved : ∀ state label next, Invariant state → admits state label → step state label next →
      Invariant next)
    (run : Path step admits before labels after) (initially : Invariant before) :
    Invariant after := by
  induction run with
  | rest => exact initially
  | step _ label admitted stepped ih =>
    exact preserved _ label _ ih admitted stepped

theorem single {label : Label} (admitted : admits before label)
    (stepped : step before label after) :
    Path step admits before [label] after :=
  Path.rest.step label admitted stepped

end Path

/-!
## Calls one after another

A system that is called one operation at a time is a function from the state and
the call to the next state.
-/

variable {State : Type u} {Call : Type v} {step : State → Call → State}
  {Holds : State → Prop} {Meets : State → Call → Prop} {state : State} {calls : List Call}

def afterAll (step : State → Call → State) (state : State) (calls : List Call) : State :=
  calls.foldl step state

def Throughout (step : State → Call → State) (Holds : State → Prop) (state : State)
    (calls : List Call) : Prop :=
  ∀ earlier later, calls = earlier ++ later → Holds (afterAll step state earlier)

def EachMeets (step : State → Call → State) (Meets : State → Call → Prop) (state : State)
    (calls : List Call) : Prop :=
  ∀ earlier call later, calls = earlier ++ call :: later → Meets (afterAll step state earlier) call

theorem afterAll_keeps (initially : Holds state)
    (kept : ∀ state call, Holds state → Holds (step state call)) :
    Holds (afterAll step state calls) := by
  induction calls generalizing state with
  | nil => exact initially
  | cons call calls ih =>
    exact ih (kept state call initially)

theorem throughout_nil : Throughout step Holds state [] ↔ Holds state := by
  constructor
  · exact fun throughout => throughout [] [] rfl
  · intro holds earlier later split
    obtain ⟨rfl, rfl⟩ := List.append_eq_nil_iff.mp split.symm
    exact holds

theorem throughout_cons {call : Call} :
    Throughout step Holds state (call :: calls) ↔
      Holds state ∧ Throughout step Holds (step state call) calls := by
  constructor
  · intro throughout
    refine ⟨throughout [] _ rfl, fun earlier later split => ?_⟩
    exact throughout (call :: earlier) later (by rw [split, List.cons_append])
  · rintro ⟨holds, throughout⟩ earlier later split
    cases earlier with
    | nil => exact holds
    | cons first earlier =>
      obtain ⟨rfl, rest⟩ := List.cons.inj split
      exact throughout earlier later rest

theorem eachMeets_nil : EachMeets step Meets state [] := by
  intro earlier call later split
  have nothing := List.append_eq_nil_iff.mp split.symm
  exact absurd nothing.2 (List.cons_ne_nil _ _)

theorem eachMeets_cons {call : Call} :
    EachMeets step Meets state (call :: calls) ↔
      Meets state call ∧ EachMeets step Meets (step state call) calls := by
  constructor
  · intro each
    refine ⟨each [] call calls rfl, fun earlier other later split => ?_⟩
    exact each (call :: earlier) other later (by rw [split, List.cons_append])
  · rintro ⟨meets, each⟩ earlier other later split
    cases earlier with
    | nil =>
      obtain ⟨rfl, _⟩ := List.cons.inj split
      exact meets
    | cons first earlier =>
      obtain ⟨rfl, rest⟩ := List.cons.inj split
      exact each earlier other later rest

section Keeping

variable {Invariant : State → Prop} (initially : Invariant state)
  (sound : ∀ state, Invariant state → Holds state)
  (kept : ∀ state call, Invariant state → Meets state call → Invariant (step state call))

include initially sound kept

/-- A law that an invariant implies holds throughout if every call meets a condition that keeps
the invariant. -/
theorem throughout_of_each
    (each : EachMeets step Meets state calls) : Throughout step Holds state calls := by
  induction calls generalizing state with
  | nil => exact throughout_nil.mpr (sound state initially)
  | cons call calls ih =>
    obtain ⟨meets, later⟩ := eachMeets_cons.mp each
    rw [throughout_cons]
    exact ⟨sound state initially, ih (kept state call initially meets) later⟩

/-- A law that an invariant implies holds throughout exactly when every call meets
the condition, if the condition keeps the invariant and a call that breaks it
breaks the law. -/
theorem throughout_iff_of
    (exact : ∀ state call, Invariant state → Holds (step state call) → Meets state call) :
    Throughout step Holds state calls ↔ EachMeets step Meets state calls := by
  induction calls generalizing state with
  | nil => exact iff_of_true (throughout_nil.mpr (sound state initially)) eachMeets_nil
  | cons call calls ih =>
    rw [throughout_cons, eachMeets_cons]
    constructor
    · rintro ⟨_, throughout⟩
      have meets := exact state call initially (throughout [] calls rfl)
      exact ⟨meets, (ih (kept state call initially meets)).mp throughout⟩
    · rintro ⟨meets, each⟩
      exact ⟨sound state initially,
        (ih (kept state call initially meets)).mpr each⟩

end Keeping

theorem throughout_iff (initially : Holds state)
    (kept : ∀ state call, Holds state → (Holds (step state call) ↔ Meets state call)) :
    Throughout step Holds state calls ↔ EachMeets step Meets state calls :=
  throughout_iff_of initially (fun _ holds => holds)
    (fun state call holds => (kept state call holds).mpr)
    (fun state call holds => (kept state call holds).mp)

end Interleaving
