import Mathlib.Data.List.Nodup

/-!
# Tables with a primary key

A table is a list of rows no two of which have the same key.
-/

namespace Keyed

universe u v

structure Table (Key : Type u) (Row : Type v) (key : Row → Key) where
  rows : List Row
  keys_nodup : (rows.map key).Nodup

namespace Table

variable {Key : Type u} {Row : Type v} {key : Row → Key} [DecidableEq Key]
  (table : Table Key Row key)

def first (test : Row → Bool) : Option Row := table.rows.find? test

def find (name : Key) : Option Row := table.first fun row => key row = name

/-- Change the row under a key. -/
def modify (name : Key) (change : Row → Row) (keeps : ∀ row, key (change row) = key row) :
    Table Key Row key where
  rows := table.rows.map fun row => if key row = name then change row else row
  keys_nodup := by
    have same : (key ∘ fun row => if key row = name then change row else row) = key := by
      funext row
      by_cases named : key row = name
      · simp [named, keeps]
      · simp [named]
    rw [List.map_map, same]
    exact table.keys_nodup

def mapRows (change : Row → Row) (keeps : ∀ row, key (change row) = key row) :
    Table Key Row key where
  rows := table.rows.map change
  keys_nodup := by
    have same : key ∘ change = key := funext keeps
    rw [List.map_map, same]
    exact table.keys_nodup

def insert (row : Row) (fresh : key row ∉ table.rows.map key) : Table Key Row key where
  rows := table.rows ++ [row]
  keys_nodup := by
    rw [List.map_append, List.map_singleton]
    exact table.keys_nodup.append (List.nodup_singleton _) (by simpa using fresh)

variable {table}

variable {row : Row}

theorem find_of_mem (inside : row ∈ table.rows) : table.find (key row) = some row := by
  unfold find first
  have found : (table.rows.find? fun other => key other = key row).isSome := by
    rw [List.find?_isSome]
    exact ⟨row, inside, by simp⟩
  obtain ⟨other, found⟩ := Option.isSome_iff_exists.mp found
  have named : key other = key row := by simpa using List.find?_some found
  have same : other = row :=
    List.inj_on_of_nodup_map table.keys_nodup (List.mem_of_find?_eq_some found) inside named
  rw [found, same]

variable {name : Key}

theorem key_of_find (found : table.find name = some row) :
    key row = name := by
  have passed := List.find?_some found
  simpa using passed

theorem find_of_first {test : Row → Bool} (taken : table.first test = some row) :
    table.find (key row) = some row :=
  find_of_mem (List.mem_of_find?_eq_some taken)

section Changing

variable {change : Row → Row} {keeps : ∀ row, key (change row) = key row}

theorem first_modify {test : Row → Bool}
    (unseen : ∀ row, key row = name → test (change row) = test row) :
    (table.modify name change keeps).first test =
      (table.first test).map fun row => if key row = name then change row else row := by
  have tested : (test ∘ fun row => if key row = name then change row else row) = test := by
    funext row
    by_cases named : key row = name
    · simp [named, unseen row named]
    · simp [named]
  unfold first modify
  rw [List.find?_map, tested]

theorem find_modify {name other : Key} :
    (table.modify name change keeps).find other =
      if other = name then (table.find other).map change else table.find other := by
  have moved := @first_modify Key Row key _ table name change keeps
    (fun row => key row = other) fun row _ => by rw [keeps]
  unfold find at moved ⊢
  rw [moved]
  by_cases same : other = name
  · rw [if_pos same]
    cases found : table.first fun row => key row = other with
    | none => rfl
    | some row =>
      have named : key row = name := (key_of_find found).trans same
      simp [named]
  · rw [if_neg same]
    cases found : table.first fun row => key row = other with
    | none => rfl
    | some row =>
      have elsewhere : key row ≠ name := fun named => same ((key_of_find found).symm.trans named)
      simp [elsewhere]

theorem find_mapRows :
    (table.mapRows change keeps).find name = (table.find name).map change := by
  have tested : (fun row => decide (key row = name)) ∘ change =
      fun row => decide (key row = name) := by
    funext row
    simp [keeps]
  unfold find first mapRows
  rw [List.find?_map, tested]

end Changing

omit [DecidableEq Key] in
theorem first_insert {fresh : key row ∉ table.rows.map key} {test : Row → Bool} :
    (table.insert row fresh).first test =
      (table.first test).or (if test row then some row else none) := by
  unfold first insert
  rw [List.find?_append]
  congr 1
  cases passed : test row <;> simp [passed]

theorem find_insert {fresh : key row ∉ table.rows.map key} :
    (table.insert row fresh).find name =
      if key row = name then some row else table.find name := by
  unfold find
  rw [first_insert]
  by_cases named : key row = name
  · have missing : (table.first fun other => key other = name) = none := by
      rw [first, List.find?_eq_none]
      intro other inside
      have different : key other ≠ key row := fun same =>
        fresh (same ▸ List.mem_map_of_mem inside)
      simpa [← named] using different
    simp [named, missing]
  · simp [named]

end Table

end Keyed
