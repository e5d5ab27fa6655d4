import Mathlib.Data.List.Basic

/-!
# Reading a log through a transition table

A reader has a table of the states that may follow each state, and reads each event as
the state it leads to, if any.
-/

namespace Automata

universe u v w

/-- A table of allowed transitions, how events are read, and how a violation is reported. -/
structure Reader (State : Type u) (Event : Type v) (Report : Type w) where
  allowed : State → List State
  target : Event → Option State
  report : State → State → Report

variable {State : Type u} {Event : Type v} {Report : Type w}

namespace Reader

variable (reader : Reader State Event Report)

def reads (state : State) (event : Event) : State := (reader.target event).getD state

def lastRead (state : State) (events : List Event) : State := events.foldl reader.reads state

/-- Every event is read as the state before it or as one that the table allows next. -/
def Follows : State → List Event → Prop
  | _, [] => True
  | state, event :: events =>
      (reader.reads state event = state ∨ reader.reads state event ∈ reader.allowed state) ∧
        Follows (reader.reads state event) events

section Following

variable {reader} {state : State} {event : Event} {events later : List Event}

theorem lastRead_append :
    reader.lastRead state (events ++ later) =
      reader.lastRead (reader.lastRead state events) later :=
  List.foldl_append

theorem follows_append :
    reader.Follows state (events ++ later) ↔
      reader.Follows state events ∧ reader.Follows (reader.lastRead state events) later := by
  induction events generalizing state with
  | nil => exact ⟨fun follows => ⟨trivial, follows⟩, And.right⟩
  | cons event events ih =>
    rw [List.cons_append, Follows, Follows, ih, and_assoc]
    rfl

theorem lastRead_of_terminal (terminal : reader.allowed state = [])
    (follows : reader.Follows state events) : reader.lastRead state events = state := by
  induction events with
  | nil => rfl
  | cons event events ih =>
    obtain ⟨allowed, rest⟩ := follows
    rw [terminal] at allowed
    have stays : reader.reads state event = state := by
      rcases allowed with same | inside
      · exact same
      · cases inside
    rw [stays] at rest
    have last := ih rest
    unfold lastRead at last ⊢
    rw [List.foldl_cons, stays, last]

end Following

variable [DecidableEq State]

def step (state : State) (event : Event) : State × Option Report :=
  if reader.reads state event ≠ state ∧ reader.reads state event ∉ reader.allowed state then
    (state, some (reader.report state (reader.reads state event)))
  else (reader.reads state event, none)

def run : State → List Event → State × List Report
  | state, [] => (state, [])
  | state, event :: events =>
      let next := reader.step state event
      let rest := run next.1 events
      (rest.1, next.2.toList ++ rest.2)

variable {reader} {state : State} {event : Event} {events : List Event}

theorem step_allowed
    (allowed : reader.reads state event = state ∨ reader.reads state event ∈ reader.allowed state) :
    reader.step state event = (reader.reads state event, none) := by
  unfold step
  rw [if_neg]
  rintro ⟨moved, refused⟩
  rcases allowed with same | inside
  · exact moved same
  · exact refused inside

theorem step_refused
    (refused : ¬(reader.reads state event = state ∨
      reader.reads state event ∈ reader.allowed state)) :
    reader.step state event =
      (state, some (reader.report state (reader.reads state event))) := by
  unfold step
  rw [if_pos (not_or.mp refused)]

theorem run_cons :
    reader.run state (event :: events) =
      ((reader.run (reader.step state event).1 events).1,
        (reader.step state event).2.toList ++ (reader.run (reader.step state event).1 events).2) :=
  rfl

/-- A log that follows the table ends in the state that was read last, without a
violation. -/
theorem run_of_follows (follows : reader.Follows state events) :
    reader.run state events = (reader.lastRead state events, []) := by
  induction events generalizing state with
  | nil => rfl
  | cons event events ih =>
    obtain ⟨allowed, rest⟩ := follows
    rw [run_cons, step_allowed allowed, ih rest]
    rfl

theorem run_violations_iff : (reader.run state events).2 = [] ↔ reader.Follows state events := by
  constructor
  · induction events generalizing state with
    | nil => exact fun _ => trivial
    | cons event events ih =>
      intro nothing
      by_cases allowed : reader.reads state event = state ∨
          reader.reads state event ∈ reader.allowed state
      · rw [run_cons, step_allowed allowed] at nothing
        exact ⟨allowed, ih nothing⟩
      · rw [run_cons, step_refused allowed] at nothing
        cases nothing
  · intro follows
    rw [run_of_follows follows]

/-- The state and the violations are as wanted exactly when the log follows the table
and what was read last is the wanted state. -/
theorem run_eq_iff {last : State} :
    reader.run state events = (last, []) ↔
      reader.Follows state events ∧ reader.lastRead state events = last := by
  constructor
  · intro same
    have follows := run_violations_iff.mp (congrArg Prod.snd same)
    rw [run_of_follows follows] at same
    exact ⟨follows, congrArg Prod.fst same⟩
  · rintro ⟨follows, rfl⟩
    exact run_of_follows follows

end Reader

end Automata
