import CoinRobotu.Interleaving.Machine

/-!
# One task at a time

A discipline may let a task start only while every thread is idle.
-/

namespace Interleaving

universe u

variable {S : Signature} {World Oracle Task : Type} {Phase : Type u}
  {system : System S World Oracle Task} {protocol : Protocol S Task Phase}
  {discipline : Discipline S World Oracle Task Phase}
  {returns : Phase → Prop} {raises : S.Failure → Phase → Prop}

/-- Tasks start one after another, an idle thread issues nothing, and starting or
ending a task does not touch the world. -/
structure Sequential (system : System S World Oracle Task) (protocol : Protocol S Task Phase)
    (discipline : Discipline S World Oracle Task Phase) : Prop where
  alone : ∀ view thread task, discipline.starts view thread task →
    ∀ other, view.phases other = protocol.idle
  silent : ∀ command, ¬protocol.allows protocol.idle command
  opens : ∀ thread world, system.opens thread world = world
  closes : ∀ thread world, system.closes thread world = world

def Solo (protocol : Protocol S Task Phase)
    (Invariant : World → List (Thread × S.Event) → Phase → Prop)
    (view : View S World Task Phase) : Prop :=
  ∃ thread, (∀ other, other ≠ thread → view.phases other = protocol.idle) ∧
    Invariant view.world view.trace (view.phases thread)

variable {Invariant : World → List (Thread × S.Event) → Phase → Prop}

theorem Solo.replace {view next : View S World Task Phase} {thread : Thread} {phase : Phase}
    (others : ∀ other, other ≠ thread → view.phases other = protocol.idle)
    (phases : next.phases = Function.update view.phases thread phase)
    (holds : Invariant next.world next.trace phase) : Solo protocol Invariant next := by
  refine ⟨thread, fun other different => ?_, ?_⟩
  · rw [phases, Function.update_of_ne different]
    exact others other different
  · rw [phases, Function.update_self]
    exact holds

section Alone

variable (governs : Governs system protocol discipline returns raises)
  (sequential : Sequential system protocol discipline)
  (started : ∀ view thread task, discipline.starts view thread task →
    Invariant view.world view.trace protocol.idle →
      Invariant view.world view.trace (protocol.initial task))
  (performed : ∀ view thread oracle command, protocol.allows (view.phases thread) command →
    discipline.runs view thread oracle command →
      Invariant view.world view.trace (view.phases thread) →
        Invariant (system.perform thread oracle command view.world).1
          (view.trace ++
            [(thread, ⟨command, (system.perform thread oracle command view.world).2⟩)])
          (protocol.next (view.phases thread) command
            (system.perform thread oracle command view.world).2))
  (stopped : ∀ world trace phase, Invariant world trace phase →
    Invariant world trace protocol.idle)
include sequential started performed stopped

/-- One step of the view keeps the invariant of the one thread at work. -/
theorem Solo.step
    (view next : View S World Task Phase) (solo : Solo protocol Invariant view)
    (step : View.Step system protocol discipline returns raises view next) :
    Solo protocol Invariant next := by
  obtain ⟨active, others, holds⟩ := solo
  have stops : ∀ thread, Solo protocol Invariant (view.stop system.toService protocol thread) := by
    intro thread
    have idle : Invariant (system.closes thread view.world) view.trace protocol.idle := by
      rw [sequential.closes]
      exact stopped _ _ _ holds
    by_cases isActive : thread = active
    · subst isActive
      exact Solo.replace others rfl idle
    · refine ⟨active, fun other different => ?_, ?_⟩
      · by_cases isThread : other = thread
        · subst isThread
          exact Function.update_self _ _ _
        · exact (Function.update_of_ne isThread _ _).trans (others other different)
      · have same : (view.stop system.toService protocol thread).phases active =
            view.phases active :=
          Function.update_of_ne (Ne.symm isActive) _ _
        have world : (view.stop system.toService protocol thread).world = view.world :=
          sequential.closes thread view.world
        rw [same, world]
        exact holds
  cases step with
  | started thread task idle permitted =>
    have alone := sequential.alone view thread task permitted
    rw [alone active] at holds
    apply Solo.replace (fun other _ => alone other) rfl
    have world : (view.start system.toService protocol thread task).world = view.world :=
      sequential.opens thread view.world
    rw [world]
    exact started view thread task permitted holds
  | performed thread oracle command allowed permitted =>
    have isActive : thread = active := by
      by_contra different
      rw [others thread different] at allowed
      exact sequential.silent command allowed
    subst isActive
    apply Solo.replace others rfl
    exact performed view thread oracle command allowed permitted holds
  | returned thread | raised thread | crashed thread => exact stops thread

include governs

theorem Run.solo
    {before after : Machine S World Task} {labels : List (Label Oracle Task)}
    (run : Run system (discipline.Permits system protocol) before labels after)
    (conforms : before.Conforms protocol returns raises)
    (initially : Solo protocol Invariant (before.view protocol)) :
    Solo protocol Invariant (after.view protocol) :=
  run.invariant governs (Solo protocol Invariant)
    (Solo.step sequential started performed stopped) conforms initially

end Alone

theorem solo_atRest {world : World} (holds : Invariant world [] protocol.idle) :
    Solo protocol Invariant ((Machine.atRest world : Machine S World Task).view protocol) :=
  ⟨0, fun _ _ => rfl, holds⟩

end Interleaving
