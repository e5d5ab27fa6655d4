import Mathlib.Data.List.Count
import Mathlib.Data.List.Induction
import Mathlib.Data.List.Nodup

/-!
# Two lists matched by key

Two lists of entries are matched by their keys. The matching is a bijection between them when no
key occurs twice in one list and both have the same keys.
-/

namespace Keyed

universe u v w

section Indices

variable {Key : Type u} {Row : Type v} [DecidableEq Key] (key : Row → Key)

def groups (rows : List Row) : Key → List Row :=
  rows.foldl (fun index row => Function.update index (key row) (index (key row) ++ [row]))
    fun _ => []

def latest (rows : List Row) : Key → Option Row :=
  rows.foldl (fun index row => Function.update index (key row) (some row)) fun _ => none

variable {key} {rows : List Row} {name : Key}

theorem groups_concat {row : Row} : groups key (rows ++ [row]) =
    Function.update (groups key rows) (key row) (groups key rows (key row) ++ [row]) :=
  List.foldl_concat _ _ _ _

theorem latest_concat {row : Row} : latest key (rows ++ [row]) =
    Function.update (latest key rows) (key row) (some row) := List.foldl_concat _ _ _ _

/-- A group is what a filter by its key leaves. -/
theorem groups_eq_filter : groups key rows name = rows.filter fun row => key row = name := by
  induction rows using List.reverseRecOn with
  | nil => rfl
  | append_singleton rows row ih =>
    rw [groups_concat, List.filter_append, List.filter_singleton]
    by_cases same : key row = name
    · rw [← same, Function.update_self, same, ih, decide_eq_true rfl, cond_true]
    · rw [Function.update_of_ne (Ne.symm same), ih, decide_eq_false same,
        cond_false, List.append_nil]

theorem latest_eq_getLast? : latest key rows name = (groups key rows name).getLast? := by
  induction rows using List.reverseRecOn with
  | nil => rfl
  | append_singleton rows row ih =>
    rw [latest_concat, groups_concat]
    by_cases same : key row = name
    · rw [← same, Function.update_self, Function.update_self, List.getLast?_concat]
    · rw [Function.update_of_ne (Ne.symm same), Function.update_of_ne (Ne.symm same),
        ih]

theorem length_groups : (groups key rows name).length = (rows.map key).count name := by
  rw [groups_eq_filter, ← List.countP_eq_length_filter, List.count, List.countP_map]
  apply List.countP_congr
  intro row _
  simp

theorem mem_of_latest {row : Row} (found : latest key rows name = some row) :
    row ∈ rows ∧ key row = name := by
  rw [latest_eq_getLast?, groups_eq_filter] at found
  obtain ⟨inside, named⟩ := List.mem_filter.mp (List.mem_of_getLast? found)
  exact ⟨inside, of_decide_eq_true named⟩

end Indices

section Matchings

variable {Key : Type u} {Left : Type v} {Right : Type w} (leftKey : Left → Key)
  (rightKey : Right → Key) (left : List Left) (right : List Right)

/-- Matching by key is a bijection, and what is matched agrees. -/
structure Matched (Agree : Left → Right → Prop) : Prop where
  leftOnce : (left.map leftKey).Nodup
  rightOnce : (right.map rightKey).Nodup
  sameKeys : ∀ name, name ∈ left.map leftKey ↔ name ∈ right.map rightKey
  agrees : ∀ item ∈ left, ∀ other ∈ right, leftKey item = rightKey other → Agree item other

def Stray (name : Key) : Prop := name ∈ right.map rightKey ∧ name ∉ left.map leftKey

/-- The key of an entry of one list that two entries of the other one match. -/
def Crowded [DecidableEq Key] (name : Key) : Prop :=
  name ∈ left.map leftKey ∧ name ∈ right.map rightKey ∧
    (1 < (left.map leftKey).count name ∨ 1 < (right.map rightKey).count name)

variable {leftKey rightKey left right} [DecidableEq Key]

theorem Matched.of_partners {Agree : Left → Right → Prop}
    (noStray : ∀ name, ¬Stray leftKey rightKey left right name)
    (notCrowded : ∀ name, ¬Crowded leftKey rightKey left right name)
    (partners : ∀ item ∈ left, leftKey item ∈ right.map rightKey)
    (agrees : ∀ item ∈ left, ∀ other ∈ right, leftKey item = rightKey other → Agree item other) :
    Matched leftKey rightKey left right Agree := by
  have sameKeys : ∀ name, name ∈ left.map leftKey ↔ name ∈ right.map rightKey := by
    intro name
    constructor
    · intro isLeft
      obtain ⟨item, inside, rfl⟩ := List.mem_map.mp isLeft
      exact partners item inside
    · intro isRight
      by_contra notLeft
      exact noStray name ⟨isRight, notLeft⟩
  refine ⟨?_, ?_, sameKeys, agrees⟩
  · apply List.nodup_iff_count_le_one.mpr
    intro name
    by_contra twice
    have inside : name ∈ left.map leftKey := List.count_pos_iff.mp (by omega)
    exact notCrowded name ⟨inside, (sameKeys name).mp inside, Or.inl (by omega)⟩
  · apply List.nodup_iff_count_le_one.mpr
    intro name
    by_contra twice
    have inside : name ∈ right.map rightKey := List.count_pos_iff.mp (by omega)
    exact notCrowded name ⟨(sameKeys name).mpr inside, inside, Or.inr (by omega)⟩

end Matchings

end Keyed
