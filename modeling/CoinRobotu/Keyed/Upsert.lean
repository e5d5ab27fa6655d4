import Mathlib.Data.List.Nodup
import Mathlib.Data.List.Perm.Basic

/-!
# Adding what is not there yet

Rows are added to a list one after the other, each only if its key is not in the list.
-/

namespace Keyed

universe u v

variable {Key : Type u} {Row : Type v} [DecidableEq Key] (key : Row → Key)

def addRow (rows : List Row) (row : Row) : List Row :=
  if key row ∈ rows.map key then rows else rows ++ [row]

def addNew (rows batch : List Row) : List Row := batch.foldl (addRow key) rows

variable {key} {rows batch : List Row} {row : Row}

theorem addNew_cons : addNew key rows (row :: batch) = addNew key (addRow key rows row) batch := rfl

theorem nodup_addRow (nodup : (rows.map key).Nodup) : ((addRow key rows row).map key).Nodup := by
  unfold addRow
  split
  · exact nodup
  · rename_i fresh
    rw [List.map_append, List.map_singleton]
    exact nodup.append (List.nodup_singleton _) (by simpa using fresh)

theorem nodup_addNew (nodup : (rows.map key).Nodup) :
    ((addNew key rows batch).map key).Nodup := by
  induction batch generalizing rows with
  | nil => exact nodup
  | cons row batch ih => exact ih (nodup_addRow nodup)

section Determined

variable {Universe : Row → Prop}

def Determined (key : Row → Key) (Universe : Row → Prop) : Prop :=
  ∀ row other, Universe row → Universe other → key row = key other → row = other

section Adding

variable {name : Row} (determined : Determined key Universe) (inside : ∀ row ∈ rows, Universe row)

include determined inside

theorem mem_addRow (isRow : Universe row) :
    name ∈ addRow key rows row ↔ name ∈ rows ∨ name = row := by
  unfold addRow
  split
  · rename_i present
    obtain ⟨other, isOther, same⟩ := List.mem_map.mp present
    have isThere := determined other row (inside other isOther) isRow same
    constructor
    · exact Or.inl
    · rintro (old | rfl)
      · exact old
      · exact isThere ▸ isOther
  · rw [List.mem_append, List.mem_singleton]

theorem mem_addNew (offered : ∀ row ∈ batch, Universe row) :
    name ∈ addNew key rows batch ↔ name ∈ rows ∨ name ∈ batch := by
  induction batch generalizing rows with
  | nil => simp [addNew]
  | cons row batch ih =>
    have isRow := offered row List.mem_cons_self
    have stillInside : ∀ other ∈ addRow key rows row, Universe other := by
      intro other isThere
      rcases (mem_addRow determined inside isRow).mp isThere with old | rfl
      · exact inside other old
      · exact isRow
    rw [addNew_cons, ih stillInside
      (fun other later => offered other (List.mem_cons_of_mem _ later)),
      mem_addRow determined inside isRow, List.mem_cons, or_assoc]

theorem mem_foldl_addNew {batches : List (List Row)}
    (offered : ∀ batch ∈ batches, ∀ row ∈ batch, Universe row) :
    name ∈ batches.foldl (addNew key) rows ↔
      name ∈ rows ∨ ∃ batch ∈ batches, name ∈ batch := by
  induction batches generalizing rows with
  | nil => simp
  | cons batch batches ih =>
    have isBatch := offered batch List.mem_cons_self
    have stillInside : ∀ other ∈ addNew key rows batch, Universe other := by
      intro other isThere
      rcases (mem_addNew determined inside isBatch).mp isThere with old | new
      · exact inside other old
      · exact isBatch other new
    rw [List.foldl_cons, ih stillInside
      (fun other later => offered other (List.mem_cons_of_mem _ later)),
      mem_addNew determined inside isBatch]
    simp [or_assoc]

end Adding

theorem nodup_foldl_addNew {batches : List (List Row)} (nodup : (rows.map key).Nodup) :
    ((batches.foldl (addNew key) rows).map key).Nodup := by
  induction batches generalizing rows with
  | nil => exact nodup
  | cons batch batches ih => exact ih (nodup_addNew nodup)

theorem foldl_addNew_perm {batches : List (List Row)} {all : List Row}
    (determined : Determined key Universe)
    (offered : ∀ batch ∈ batches, ∀ row ∈ batch, Universe row)
    (union : ∀ row, row ∈ all ↔ ∃ batch ∈ batches, row ∈ batch) :
    (batches.foldl (addNew key) []).Perm (addNew key [] all) := by
  have allInside : ∀ row ∈ all, Universe row := by
    intro row inside
    obtain ⟨batch, isBatch, isRow⟩ := (union row).mp inside
    exact offered batch isBatch row isRow
  have nothing : ∀ row ∈ ([] : List Row), Universe row :=
    fun row inside => absurd inside List.not_mem_nil
  have empty : (([] : List Row).map key).Nodup := List.nodup_nil
  have batched : ((batches.foldl (addNew key) []).map key).Nodup := nodup_foldl_addNew empty
  have atOnce : ((addNew key [] all).map key).Nodup := nodup_addNew empty
  apply (List.perm_ext_iff_of_nodup batched.of_map atOnce.of_map).mpr
  intro row
  rw [mem_foldl_addNew determined nothing offered, mem_addNew determined nothing allInside,
    union row]

theorem addNew_of_nodup (nodup : ((rows ++ batch).map key).Nodup) :
    addNew key rows batch = rows ++ batch := by
  induction batch generalizing rows with
  | nil => rw [List.append_nil]; rfl
  | cons row batch ih =>
    have regrouped : rows ++ row :: batch = (rows ++ [row]) ++ batch := by simp
    rw [regrouped] at nodup
    have fresh : key row ∉ rows.map key := by
      rw [List.map_append, List.map_append] at nodup
      have apart := List.nodup_append.mp (List.nodup_append.mp nodup).1
      intro present
      exact apart.2.2 _ present _ (List.mem_singleton_self _) rfl
    rw [addNew_cons, addRow, if_neg fresh, ih nodup, regrouped]

theorem addNew_nil_of_nodup (nodup : (batch.map key).Nodup) : addNew key [] batch = batch :=
  addNew_of_nodup nodup

end Determined

end Keyed
