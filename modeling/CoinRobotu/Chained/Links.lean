import Mathlib.Data.List.Induction

/-!
# Chained records

A record is linked to what stands before it when it fits a position: the number of the record, the
hash of the one before, or both.
-/

namespace Chained

universe u v

variable {Position : Type u} {Record : Type v} (Fits : Position → Record → Prop)
  (after : Position → Record → Position)

def positionAfter (position : Position) (records : List Record) : Position :=
  records.foldl after position

def Linked (position : Position) : List Record → Prop
  | [] => True
  | record :: records => Fits position record ∧ Linked (after position record) records

variable {Fits after} {position : Position} {record : Record} {records others : List Record}

theorem linked_append :
    Linked Fits after position (records ++ others) ↔
      Linked Fits after position records ∧
        Linked Fits after (positionAfter after position records) others := by
  induction records generalizing position with
  | nil => exact iff_of_eq (true_and _).symm
  | cons record records ih =>
    show Fits position record ∧ Linked Fits after _ (records ++ others) ↔
      (Fits position record ∧ _) ∧ _
    rw [ih, and_assoc]
    rfl

theorem positionAfter_append :
    positionAfter after position (records ++ others) =
      positionAfter after (positionAfter after position records) others :=
  List.foldl_append

theorem linked_concat :
    Linked Fits after position (records ++ [record]) ↔
      Linked Fits after position records ∧ Fits (positionAfter after position records) record := by
  rw [linked_append]
  exact and_congr_right fun _ => iff_of_eq (and_true _)

section Pinning

variable (pinned : ∀ first second record, Fits first record → Fits second record → first = second)

include pinned

theorem position_unique {first second : Position} (some : records ≠ [])
    (linked : Linked Fits after first records) (otherLinked : Linked Fits after second records) :
    first = second := by
  cases records with
  | nil => exact absurd rfl some
  | cons record records => exact pinned first second record linked.1 otherLinked.1

/-- The records are still linked with one of them changed, not the last one, exactly if the changed
record fits and leads to the same position. -/
theorem linked_change {changed : Record} {earlier later : List Record} (notLast : later ≠ [])
    (linked : Linked Fits after position (earlier ++ record :: later)) :
    Linked Fits after position (earlier ++ changed :: later) ↔
      Fits (positionAfter after position earlier) changed ∧
        after (positionAfter after position earlier) changed =
          after (positionAfter after position earlier) record := by
  obtain ⟨before, fits, behind⟩ := linked_append.mp linked
  rw [linked_append]
  constructor
  · rintro ⟨_, changedFits, changedBehind⟩
    exact ⟨changedFits, position_unique pinned notLast changedBehind behind⟩
  · rintro ⟨changedFits, samePosition⟩
    refine ⟨before, changedFits, ?_⟩
    rw [samePosition]
    exact behind

/-- The records are still linked with one of them removed, not the last one, exactly if it had not
moved the position. -/
theorem linked_remove {earlier later : List Record} (notLast : later ≠ [])
    (linked : Linked Fits after position (earlier ++ record :: later)) :
    Linked Fits after position (earlier ++ later) ↔
      positionAfter after position earlier =
        after (positionAfter after position earlier) record := by
  obtain ⟨before, _, behind⟩ := linked_append.mp linked
  rw [linked_append]
  constructor
  · rintro ⟨_, otherBehind⟩
    exact position_unique pinned notLast otherBehind behind
  · intro unmoved
    refine ⟨before, ?_⟩
    rw [unmoved]
    exact behind

end Pinning

/-- What holds of the first position, and of the position after each record that fits, may be
asked of every position. -/
theorem linked_known {Known : Position → Prop} (known : Known position)
    (kept : ∀ position record, Known position → Fits position record →
      Known (after position record)) (linked : Linked Fits after position records) :
    Linked (fun position record => Known position ∧ Fits position record) after position
      records := by
  induction records generalizing position with
  | nil => trivial
  | cons record records ih =>
    exact ⟨⟨known, linked.1⟩, ih (kept position record known linked.1) linked.2⟩

/-- Where a position commits to the record before it and to its position, and nothing leads to the
first position, linked records that lead to the same position have the same contents. -/
theorem linked_commit {Content : Type*} {content : Record → Content} {start : Position}
    (binding : ∀ first second record other, Fits first record → Fits second other →
      after first record = after second other → first = second ∧ content record = content other)
    (unreached : ∀ position record, Fits position record → after position record ≠ start)
    (linked : Linked Fits after start records) (otherLinked : Linked Fits after start others)
    (same : positionAfter after start records = positionAfter after start others) :
    records.map content = others.map content := by
  induction records using List.reverseRecOn generalizing others with
  | nil =>
    cases others using List.reverseRecOn with
    | nil => rfl
    | append_singleton others other =>
      rw [positionAfter_append] at same
      exact absurd same.symm (unreached _ _ (linked_concat.mp otherLinked).2)
  | append_singleton records record ih =>
    obtain ⟨before, fits⟩ := linked_concat.mp linked
    cases others using List.reverseRecOn with
    | nil =>
      rw [positionAfter_append] at same
      exact absurd same (unreached _ _ fits)
    | append_singleton others other =>
      obtain ⟨otherBefore, otherFits⟩ := linked_concat.mp otherLinked
      rw [positionAfter_append, positionAfter_append] at same
      obtain ⟨samePosition, sameContent⟩ := binding _ _ record other fits otherFits same
      rw [List.map_append, List.map_append, ih before otherBefore samePosition]
      exact congrArg (_ ++ [·]) sameContent

end Chained
