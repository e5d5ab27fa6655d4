import Mathlib.Data.List.Induction
import Mathlib.Data.List.Nodup

/-!
# What happened since

A history is a list of events, the last one at its end.
-/

namespace Automata

universe u

variable {Event : Type u} {happens : List Event → Event → Prop} {ends : Event → Prop}
  {history : List Event} {last : Event}

theorem forall_splits_concat {property : List Event → Event → Prop} :
    (∀ before event after, history ++ [last] = before ++ event :: after → property before event) ↔
      (∀ before event after, history = before ++ event :: after → property before event) ∧
        property history last := by
  constructor
  · intro all
    constructor
    · rintro before event after rfl
      apply all before event (after ++ [last])
      rw [List.append_assoc, List.cons_append]
    · exact all history last [] rfl
  · rintro ⟨earlier, ofLast⟩ before event after same
    cases after using List.reverseRecOn with
    | nil =>
      obtain ⟨rfl, isLast⟩ := List.append_inj' same rfl
      rw [← List.head_eq_of_cons_eq isLast]
      exact ofLast
    | append_singleton after other =>
      rw [← List.cons_append, ← List.append_assoc] at same
      obtain ⟨isHistory, _⟩ := List.append_inj' same rfl
      exact earlier before event after isHistory

def Since (happens : List Event → Event → Prop) (ends : Event → Prop) (history : List Event) :
    Prop :=
  ∃ before event after, history = before ++ event :: after ∧ happens before event ∧
    ∀ other ∈ after, ¬ends other

theorem Since.mono (since : Since happens ends history) {happens' : List Event → Event → Prop}
    {ends' : Event → Prop} (weaker : ∀ before event, happens before event → happens' before event)
    (longer : ∀ event, ends' event → ends event) : Since happens' ends' history := by
  obtain ⟨before, event, after, same, happened, lasting⟩ := since
  exact ⟨before, event, after, same, weaker before event happened,
    fun other inside ended => lasting other inside (longer other ended)⟩

theorem not_since_nil : ¬Since happens ends [] := by
  rintro ⟨before, event, after, same, _⟩
  cases before <;> cases same

theorem since_concat : Since happens ends (history ++ [last]) ↔
    happens history last ∨ (Since happens ends history ∧ ¬ends last) := by
  constructor
  · rintro ⟨before, event, after, same, happened, lasting⟩
    cases after using List.reverseRecOn with
    | nil =>
      obtain ⟨rfl, isLast⟩ := List.append_inj' same rfl
      rw [List.head_eq_of_cons_eq isLast]
      exact .inl happened
    | append_singleton after other =>
      rw [← List.cons_append, ← List.append_assoc] at same
      obtain ⟨isHistory, isLast⟩ := List.append_inj' same rfl
      rw [List.head_eq_of_cons_eq isLast]
      have still : ∀ other ∈ after, ¬ends other := fun other inside =>
        lasting other (List.mem_append_left _ inside)
      exact .inr ⟨⟨before, event, after, isHistory, happened, still⟩,
        lasting other (List.mem_append_right _ List.mem_cons_self)⟩
  · rintro (happened | ⟨⟨before, event, after, rfl, happened, lasting⟩, still⟩)
    · exact ⟨history, last, [], rfl, happened, fun _ never => by cases never⟩
    · refine ⟨before, event, after ++ [last], by simp, happened, fun other inside => ?_⟩
      rcases List.mem_append.mp inside with among | isLast
      · exact lasting other among
      · rw [List.mem_singleton.mp isLast]
        exact still

def sinceReversed (happens : List Event → Event → Prop) (ends : Event → Prop)
    [∀ before, DecidablePred (happens before)] [DecidablePred ends] : List Event → Bool
  | [] => false
  | last :: history => decide (happens history.reverse last) ||
      (sinceReversed happens ends history && !decide (ends last))

instance [∀ before, DecidablePred (happens before)] [DecidablePred ends] :
    Decidable (Since happens ends history) := by
  apply decidable_of_iff (sinceReversed happens ends history.reverse = true)
  induction history using List.reverseRecOn with
  | nil => exact iff_of_false nofun not_since_nil
  | append_singleton history last ih =>
    rw [since_concat, ← ih, List.reverse_append, List.reverse_singleton,
      List.singleton_append]
    simp only [sinceReversed, List.reverse_reverse, Bool.or_eq_true, Bool.and_eq_true,
      Bool.not_eq_true', decide_eq_true_eq, decide_eq_false_iff_not]

end Automata

/-!
## Accepting every kind at most once

Inputs arrive one by one.
-/

namespace Automata

universe u v w

/-- How the state changes, the kind that an input is offered as, and when it is refused. -/
structure Gatekeeper (State : Type u) (Input : Type v) (Kind : Type w) where
  next : State → Input → State
  offers : State → Input → Option Kind
  refuses : State → Input → Bool

variable {State : Type u} {Input : Type v} {Kind : Type w}

namespace Gatekeeper

variable (gate : Gatekeeper State Input Kind)

def accepts (state : State) (input : Input) : Option Kind :=
  if gate.refuses state input then none else gate.offers state input

def after (state : State) (inputs : List Input) : State := inputs.foldl gate.next state

def accepted : State → List Input → List Kind
  | _, [] => []
  | state, input :: inputs => (gate.accepts state input).toList ++ accepted (gate.next state input)
      inputs

variable {gate} {state : State} {inputs : List Input} {input : Input}

theorem accepted_concat : gate.accepted state (inputs ++ [input]) =
    gate.accepted state inputs ++ (gate.accepts (gate.after state inputs) input).toList := by
  induction inputs generalizing state with
  | nil => exact List.append_nil _
  | cons first inputs ih =>
    rw [List.cons_append, accepted, ih, accepted, List.append_assoc]
    rfl

/-- What is offered anew of an accepted kind is refused. -/
def Guarded (gate : Gatekeeper State Input Kind) (state : State) (inputs : List Input) : Prop :=
  ∀ before input after, inputs = before ++ input :: after →
    ∀ kind, gate.offers (gate.after state before) input = some kind →
      kind ∈ gate.accepted state before → gate.refuses (gate.after state before) input = true

theorem nodup_accepted_iff : (gate.accepted state inputs).Nodup ↔ gate.Guarded state inputs := by
  induction inputs using List.reverseRecOn with
  | nil =>
    constructor
    · intro _ before input after same
      cases before <;> cases same
    · exact fun _ => List.nodup_nil
  | append_singleton inputs input ih =>
    unfold Guarded
    rw [forall_splits_concat, accepted_concat, List.nodup_append, ih]
    apply and_congr_right
    intro _
    cases refused : gate.refuses (gate.after state inputs) input with
    | true => simp [accepts, refused]
    | false =>
      cases offered : gate.offers (gate.after state inputs) input with
      | none => simp [accepts, offered]
      | some kind =>
        have single : (gate.accepts (gate.after state inputs) input).toList = [kind] := by
          simp [accepts, refused, offered]
        rw [single]
        constructor
        · rintro ⟨_, apart⟩ other isKind inside
          rw [← Option.some.inj isKind] at inside
          exact absurd rfl (apart kind inside kind List.mem_cons_self)
        · intro caught
          constructor
          · exact List.nodup_singleton kind
          · rintro other inside last isLast rfl
            rw [List.mem_singleton.mp isLast] at inside
            exact Bool.false_ne_true (caught kind rfl inside)

end Gatekeeper

end Automata
