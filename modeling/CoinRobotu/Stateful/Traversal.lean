import Mathlib.Data.List.Forall2

/-!
# Walking a list with a state

A loop over a list that rewrites each item and carries a state from item to item.
-/

namespace Stateful

universe u v w

variable {State : Type u} {Item : Type v} {Result : Type w}

def traverse (step : State → Item → Result × State) : State → List Item → List Result × State
  | state, [] => ([], state)
  | state, item :: items =>
    ((step state item).1 :: (traverse step (step state item).2 items).1,
      (traverse step (step state item).2 items).2)

variable {step : State → Item → Result × State} {state : State} {item : Item} {items : List Item}

@[simp] theorem traverse_nil : traverse step state [] = ([], state) := rfl

theorem traverse_cons : traverse step state (item :: items) =
    ((step state item).1 :: (traverse step (step state item).2 items).1,
      (traverse step (step state item).2 items).2) := rfl

theorem mem_traverse {result : Result} (inside : result ∈ (traverse step state items).1) :
    ∃ before, ∃ item ∈ items, result = (step before item).1 := by
  induction items generalizing state with
  | nil => exact absurd inside List.not_mem_nil
  | cons item items ih =>
    rw [traverse_cons] at inside
    rcases List.mem_cons.mp inside with isFirst | later
    · exact ⟨state, item, List.mem_cons_self, isFirst⟩
    · obtain ⟨before, other, member, isResult⟩ := ih later
      exact ⟨before, other, List.mem_cons_of_mem _ member, isResult⟩

theorem traverse_related {invariant : State → Prop} {related : Item → Result → Prop}
    (initial : invariant state)
    (kept : ∀ {state item}, invariant state → item ∈ items → invariant (step state item).2)
    (each : ∀ {state item}, invariant state → item ∈ items → related item (step state item).1) :
    List.Forall₂ related items (traverse step state items).1 := by
  induction items generalizing state with
  | nil => exact .nil
  | cons item items ih =>
    rw [traverse_cons]
    apply List.Forall₂.cons (each initial List.mem_cons_self)
    apply ih (kept initial List.mem_cons_self)
    · exact fun held inside => kept held (List.mem_cons_of_mem _ inside)
    · exact fun held inside => each held (List.mem_cons_of_mem _ inside)

theorem traverse_related_always {related : Item → Result → Prop}
    (each : ∀ state item, related item (step state item).1) :
    List.Forall₂ related items (traverse step state items).1 := by
  apply @traverse_related _ _ _ _ _ _ (fun _ => True) _ trivial
  · exact fun _ _ => trivial
  · exact fun _ _ => each _ _

end Stateful
