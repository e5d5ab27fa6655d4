import Mathlib.Data.List.Perm.Basic

/-!
# Greedy selection

A pass over a list takes every item that fits to what has been taken before it.
-/

namespace Selection

universe u

variable {Item : Type u} (fits : List Item → Item → Bool)

def select : List Item → List Item → List Item × List Item
  | _, [] => ([], [])
  | taken, item :: items =>
      if fits taken item then
        (item :: (select (taken ++ [item]) items).1, (select (taken ++ [item]) items).2)
      else ((select taken items).1, item :: (select taken items).2)

variable {fits} {taken items : List Item}

/-- Nothing is lost and nothing is added, by induction on the items. -/
theorem select_perm :
    ((select fits taken items).1 ++ (select fits taken items).2).Perm items := by
  induction items generalizing taken with
  | nil => simp [select]
  | cons item items ih =>
    rw [select]
    split
    · simpa using ih
    · exact List.perm_middle.trans (ih.cons item)

/-- What holds of a selection and is kept by every item that fits holds of what is taken. -/
theorem select_keeps {invariant : List Item → Prop} (initial : invariant taken)
    (kept : ∀ chosen, ∀ item ∈ items, invariant chosen → fits chosen item = true →
      invariant (chosen ++ [item])) : invariant (taken ++ (select fits taken items).1) := by
  induction items generalizing taken with
  | nil => simpa [select] using initial
  | cons item items ih =>
    have later : ∀ chosen, ∀ other ∈ items, invariant chosen → fits chosen other = true →
        invariant (chosen ++ [other]) :=
      fun chosen other inside => kept chosen other (List.mem_cons_of_mem _ inside)
    rw [select]
    split
    case isTrue fit =>
      simpa using ih (kept taken item List.mem_cons_self initial fit) later
    case isFalse => exact ih initial later

theorem exists_of_left {item : Item} (left : item ∈ (select fits taken items).2) :
    ∃ before later chosen, items = before ++ item :: later ∧ chosen.Sublist before ∧
      chosen <+: (select fits taken items).1 ∧ fits (taken ++ chosen) item = false := by
  induction items generalizing taken with
  | nil => simp [select] at left
  | cons first items ih =>
    rw [select] at left ⊢
    split at left
    case isTrue fit =>
      obtain ⟨before, later, chosen, rfl, part, start, refused⟩ := ih left
      have start' : first :: chosen <+: first :: (select fits (taken ++ [first]) _).1 :=
        List.prefix_cons_inj first |>.mpr start
      exact ⟨first :: before, later, first :: chosen, rfl, part.cons_cons first,
        by simpa [fit] using start', by simpa using refused⟩
    case isFalse refused =>
      rcases List.mem_cons.mp left with rfl | inside
      · exact ⟨[], items, [], rfl, .slnil, by simp, by simpa using refused⟩
      · obtain ⟨before, later, chosen, rfl, part, start, unfit⟩ := ih inside
        exact ⟨first :: before, later, chosen, rfl, part.cons first, by simpa [refused] using start,
          unfit⟩

theorem select_all (all : ∀ before item later, items = before ++ item :: later →
    fits (taken ++ before) item = true) : select fits taken items = (items, []) := by
  induction items generalizing taken with
  | nil => rfl
  | cons first items ih =>
    have fit : fits taken first = true := by simpa using all [] first items rfl
    have rest : select fits (taken ++ [first]) items = (items, []) :=
      ih fun before item later split => by
        simpa using all (first :: before) item later (by rw [split]; rfl)
    rw [select, if_pos fit, rest]

end Selection
