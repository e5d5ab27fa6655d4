import Mathlib.Data.List.Sort
import CoinRobotu.Encoding.Value

/-!
# The members of a JSON object

The members are a list of pairs. What sorts them by their keys sorts the list; where no key stands
there twice, a value is looked up exactly if it is in the list, so that sorted members are
determined by what is looked up in them. A reader sets the key of each member that it reads, at
every level: the value that is read last stays.
-/

namespace Encoding

namespace Json

variable {part : Part}

def entries : {part : Part} → Json part → List (String × Json .value)
  | _, .member key value rest => (key, value) :: rest.entries
  | _, _ => []

def ofEntries : List (String × Json .value) → Json .members
  | [] => .noMembers
  | (key, value) :: rest => .member key value (ofEntries rest)

def keys (members : Json part) : List String := members.entries.map Prod.fst

attribute [local simp] entries ofEntries get set insertMember sortKeys

section Lists

variable {key other : String} {value : Json .value} {members : Json .members}
  {listed : List (String × Json .value)}

theorem entries_ofEntries : (ofEntries listed).entries = listed := by
  induction listed with
  | nil => rfl
  | cons entry listed ih =>
    rw [ofEntries, entries, ih]

theorem ofEntries_entries : ofEntries members.entries = members := by
  induction members using members_induction with
  | noMembers => rfl
  | member key value rest ih => rw [entries, ofEntries, ih]

theorem keys_member : (member key value members).keys = key :: members.keys := rfl

theorem get_eq_none : get key members = none ↔ key ∉ members.keys := by
  induction members using members_induction with
  | noMembers => exact iff_of_true rfl List.not_mem_nil
  | member first old rest ih =>
    rw [get, keys_member, List.mem_cons, not_or]
    by_cases isFirst : first = key
    · rw [if_pos isFirst]
      exact iff_of_false nofun fun absent => absent.1 isFirst.symm
    · rw [if_neg isFirst, ih]
      exact (and_iff_right (Ne.symm isFirst)).symm

theorem get_eq_some (distinct : members.keys.Nodup) :
    get key members = some value ↔ (key, value) ∈ members.entries := by
  induction members using members_induction with
  | noMembers => exact iff_of_false nofun List.not_mem_nil
  | member first old rest ih =>
    obtain ⟨absent, restDistinct⟩ := List.nodup_cons.mp distinct
    unfold get entries
    rw [List.mem_cons, Prod.mk.injEq]
    by_cases isFirst : first = key
    · rw [if_pos isFirst, Option.some_inj]
      constructor
      · exact fun same => .inl ⟨isFirst.symm, same.symm⟩
      · rintro (⟨_, same⟩ | inside)
        · exact same.symm
        · have listed : key ∈ rest.keys := List.mem_map_of_mem inside
          exact absurd (isFirst ▸ listed) absent
    · rw [if_neg isFirst, ih restDistinct]
      constructor
      · exact .inr
      · rintro (⟨same, _⟩ | inside)
        · exact absurd same.symm isFirst
        · exact inside

theorem keys_set :
    (set key value members).keys =
      if key ∈ members.keys then members.keys else members.keys ++ [key] := by
  induction members using members_induction with
  | noMembers => rfl
  | member first old rest ih =>
    rw [set, keys_member]
    by_cases isFirst : first = key
    · rw [if_pos isFirst, if_pos (isFirst ▸ List.mem_cons_self), keys_member]
    · rw [if_neg isFirst, keys_member, ih]
      by_cases inside : key ∈ rest.keys
      · rw [if_pos inside, if_pos (List.mem_cons_of_mem _ inside)]
      · have absent : key ∉ first :: rest.keys :=
          List.not_mem_cons_of_ne_of_not_mem (Ne.symm isFirst) inside
        rw [if_neg inside, if_neg absent, List.cons_append]

theorem set_distinct (distinct : members.keys.Nodup) : (set key value members).keys.Nodup := by
  rw [keys_set]
  by_cases inside : key ∈ members.keys
  · rw [if_pos inside]
    exact distinct
  · rw [if_neg inside]
    apply List.Nodup.append distinct (List.nodup_singleton key)
    exact List.disjoint_singleton.mpr inside

end Lists

section Sorting

variable {key : String} {value : Json .value} {members : Json .members}
  {listed : List (String × Json .value)}

def keyOrder (first second : String × Json .value) : Prop := first.1 ≤ second.1

instance : DecidableRel keyOrder := fun first second =>
  inferInstanceAs (Decidable (first.1 ≤ second.1))

instance : Std.Total keyOrder := ⟨fun first second => le_total first.1 second.1⟩

instance : IsTrans (String × Json .value) keyOrder := ⟨fun _ _ _ => le_trans⟩

theorem entries_insertMember :
    (insertMember key value members).entries =
      members.entries.orderedInsert keyOrder (key, value) := by
  induction members using members_induction with
  | noMembers => rfl
  | member first old rest ih =>
    rw [insertMember, entries, List.orderedInsert_cons]
    by_cases smaller : key ≤ first
    · rw [if_pos smaller, if_pos (show keyOrder (key, value) (first, old) from smaller)]
      rfl
    · rw [if_neg smaller, if_neg (show ¬keyOrder (key, value) (first, old) from smaller), entries,
        ih]

theorem entries_sortKeys :
    members.sortKeys.entries =
      (members.entries.map (Prod.map id sortKeys)).insertionSort keyOrder := by
  induction members using members_induction with
  | noMembers => rfl
  | member first old rest ih =>
    rw [sortKeys, entries_insertMember, ih]
    rfl

theorem keys_sortKeys_perm : members.sortKeys.keys.Perm members.keys := by
  unfold keys
  rw [entries_sortKeys]
  refine ((List.perm_insertionSort keyOrder _).map Prod.fst).trans (List.Perm.of_eq ?_)
  rw [List.map_map]
  rfl

theorem keys_sortKeys_increase (distinct : members.keys.Nodup) :
    members.sortKeys.keys.Pairwise (· < ·) := by
  have increase : members.sortKeys.keys.Pairwise (· ≤ ·) := by
    unfold keys
    rw [entries_sortKeys, List.pairwise_map]
    exact List.pairwise_insertionSort keyOrder _
  have apart := keys_sortKeys_perm.nodup_iff.mpr distinct
  exact increase.imp₂ (fun _ _ smaller other => lt_of_le_of_ne smaller other) apart

/-- Members are those of an object that has been sorted exactly if their keys increase and they
are what is looked up in it. -/
theorem ofEntries_eq_sortKeys (distinct : members.keys.Nodup) :
    ofEntries listed = members.sortKeys ↔
      (listed.map Prod.fst).Pairwise (· < ·) ∧
        ∀ key value, (key, value) ∈ listed ↔ (get key members).map sortKeys = some value := by
  have increase := keys_sortKeys_increase distinct
  have looked : ∀ key value, (key, value) ∈ members.sortKeys.entries ↔
      (get key members).map sortKeys = some value := by
    intro key value
    rw [← get_sortKeys, get_eq_some (keys_sortKeys_perm.nodup_iff.mpr distinct)]
  constructor
  · intro same
    have isListed : listed = members.sortKeys.entries := by rw [← same, entries_ofEntries]
    rw [isListed]
    exact ⟨increase, looked⟩
  · rintro ⟨listedIncrease, each⟩
    have same : listed = members.sortKeys.entries := by
      have irreflexive : Std.Irrefl fun first second : String × Json .value =>
          first.1 < second.1 := ⟨fun _ => lt_irrefl _⟩
      have antisymmetric : Std.Antisymm fun first second : String × Json .value =>
          first.1 < second.1 := ⟨fun _ _ smaller larger => absurd larger (lt_asymm smaller)⟩
      apply List.Pairwise.eq_of_mem_iff (List.pairwise_map.mp listedIncrease)
        (List.pairwise_map.mp increase)
      exact fun entry => (each entry.1 entry.2).trans (looked entry.1 entry.2).symm
    rw [same, ofEntries_entries]

end Sorting

section Loading

variable {key : String} {made members : Json .members}

/-- The members that were there, with the keys of others set one after the other. -/
def loadInto (made : Json .members) : {part : Part} → Json part → Json .members
  | _, .member key value rest => loadInto (set key value made) rest
  | _, _ => made

/-- `json.loads`: of the members with the same key the last one stays. -/
def loaded : {part : Part} → Json part → Json part
  | _, .array items => .array items.loaded
  | _, .object members => .object (loadInto .noMembers members.loaded)
  | _, .item value rest => .item value.loaded rest.loaded
  | _, .member key value rest => .member key value.loaded rest.loaded
  | _, .null => .null
  | _, .bool truth => .bool truth
  | _, .number figure => .number figure
  | _, .string text => .string text
  | _, .noItems => .noItems
  | _, .noMembers => .noMembers

attribute [local simp] loadInto loaded

theorem get_loaded : get key members.loaded = (get key members).map loaded := by
  induction members using members_induction with
  | noMembers => rfl
  | member first old rest ih =>
    rw [loaded, get, get, ih]
    split <;> rfl

theorem keys_loaded : members.loaded.keys = members.keys := by
  induction members using members_induction with
  | noMembers => rfl
  | member first old rest ih => rw [loaded, keys_member, keys_member, ih]

theorem loadInto_distinct (distinct : made.keys.Nodup) : (loadInto made members).keys.Nodup := by
  induction members using members_induction generalizing made with
  | noMembers => exact distinct
  | member first old rest ih => exact ih (set_distinct distinct)

theorem get_loadInto (distinct : members.keys.Nodup) :
    get key (loadInto made members) = (get key members).or (get key made) := by
  induction members using members_induction generalizing made with
  | noMembers => rfl
  | member first old rest ih =>
    obtain ⟨absent, restDistinct⟩ := List.nodup_cons.mp distinct
    rw [loadInto, ih restDistinct, get_set, get]
    by_cases isFirst : first = key
    · rw [if_pos isFirst, if_pos isFirst, get_eq_none.mpr (isFirst ▸ absent)]
      rfl
    · rw [if_neg isFirst, if_neg isFirst]

/-- Every object has no key twice. -/
def wellFormed : {part : Part} → Json part → Prop
  | _, .array items => items.wellFormed
  | _, .object members => members.keys.Nodup ∧ members.wellFormed
  | _, .item value rest => value.wellFormed ∧ rest.wellFormed
  | _, .member _ value rest => value.wellFormed ∧ rest.wellFormed
  | _, _ => True

end Loading

end Json

end Encoding
