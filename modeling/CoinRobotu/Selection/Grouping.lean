import Mathlib.Data.List.Nodup

/-!
# Grouping

A list is put into groups by a key, in the order in which the keys occur. Groups with distinct
keys are found again when they are put together.
-/

namespace Selection

universe u v

variable {Key : Type u} {Item : Type v} [DecidableEq Key] (key : Item → Key)

/-- The item goes to the end of the group of its key, or begins a group at the end. -/
def addTo (item : Item) : List (Key × List Item) → List (Key × List Item)
  | [] => [(key item, [item])]
  | group :: groups =>
      if group.1 = key item then (group.1, group.2 ++ [item]) :: groups
      else group :: addTo item groups

def groupsFrom : List (Key × List Item) → List Item → List (Key × List Item) :=
  List.foldl fun groups item => addTo key item groups

def groupBy (items : List Item) : List (Key × List Item) := groupsFrom key [] items

/-- The groups have distinct keys, and each holds items of its key. -/
structure Lawful (groups : List (Key × List Item)) : Prop where
  keys : (groups.map Prod.fst).Nodup
  held : ∀ group ∈ groups, group.2 ≠ [] ∧ ∀ item ∈ group.2, key item = group.1

variable {key} {item : Item} {items : List Item} {groups others : List (Key × List Item)}

theorem addTo_perm :
    ((addTo key item groups).flatMap Prod.snd).Perm (groups.flatMap Prod.snd ++ [item]) := by
  induction groups with
  | nil => simp [addTo]
  | cons group groups ih =>
    rw [addTo]
    split
    · simpa using (List.perm_append_singleton item _).symm.append_left group.2
    · simpa using ih.append_left group.2

theorem addTo_keys : (addTo key item groups).map Prod.fst = groups.map Prod.fst ∨
    key item ∉ groups.map Prod.fst ∧
      (addTo key item groups).map Prod.fst = groups.map Prod.fst ++ [key item] := by
  induction groups with
  | nil => simp [addTo]
  | cons group groups ih =>
    rw [addTo]
    split
    case isTrue => exact .inl rfl
    case isFalse differs =>
      rw [List.map_cons, List.map_cons]
      refine ih.imp (fun old => by rw [old]) fun ⟨absent, new⟩ => ⟨?_, by rw [new]; rfl⟩
      rw [List.mem_cons, not_or]
      exact ⟨Ne.symm differs, absent⟩

theorem addTo_held (held : ∀ group ∈ groups, group.2 ≠ [] ∧ ∀ item ∈ group.2, key item = group.1) :
    ∀ group ∈ addTo key item groups, group.2 ≠ [] ∧ ∀ item ∈ group.2, key item = group.1 := by
  induction groups with
  | nil => simp [addTo]
  | cons group groups ih =>
    obtain ⟨first, rest⟩ := List.forall_mem_cons.mp held
    rw [addTo]
    split
    case isTrue same =>
      refine List.forall_mem_cons.mpr ⟨⟨by simp, fun item inside => ?_⟩, rest⟩
      rcases List.mem_append.mp inside with old | new
      · exact first.2 item old
      · rw [List.mem_singleton.mp new, same]
    case isFalse => exact List.forall_mem_cons.mpr ⟨first, ih rest⟩

theorem Lawful.addTo (lawful : Lawful key groups) (item : Item) :
    Lawful key (addTo key item groups) where
  keys := by
    rcases @addTo_keys _ _ _ key item groups with old | ⟨absent, new⟩
    · exact old ▸ lawful.keys
    · rw [new, List.nodup_append_comm]
      exact lawful.keys.cons absent
  held := addTo_held lawful.held

/-- Nothing is lost and nothing is added, by induction on the items. -/
theorem groupsFrom_perm : ((groupsFrom key groups items).flatMap Prod.snd).Perm
    (groups.flatMap Prod.snd ++ items) := by
  induction items generalizing groups with
  | nil => simp [groupsFrom]
  | cons item items ih =>
    have rest : ((groupsFrom key groups (item :: items)).flatMap Prod.snd).Perm _ := ih
    simpa using rest.trans (addTo_perm.append_right items)

theorem Lawful.groupsFrom (lawful : Lawful key groups) :
    Lawful key (groupsFrom key groups items) := by
  induction items generalizing groups with
  | nil => exact lawful
  | cons item items ih => exact ih (lawful.addTo item)

theorem groupBy_perm : ((groupBy key items).flatMap Prod.snd).Perm items :=
  groupsFrom_perm

theorem groupBy_lawful : Lawful key (groupBy key items) :=
  Lawful.groupsFrom ⟨List.nodup_nil, by simp⟩

theorem addTo_append (absent : key item ∉ groups.map Prod.fst) :
    addTo key item (groups ++ others) = groups ++ addTo key item others := by
  induction groups with
  | nil => rfl
  | cons group groups ih =>
    rw [List.map_cons, List.mem_cons, not_or] at absent
    rw [List.cons_append, addTo, if_neg (Ne.symm absent.1), ih absent.2, List.cons_append]

theorem groupsFrom_group {name : Key} (fresh : name ∉ groups.map Prod.fst)
    (named : ∀ item ∈ items, key item = name) (before : List Item) :
    groupsFrom key (groups ++ [(name, before)]) items = groups ++ [(name, before ++ items)] := by
  induction items generalizing before with
  | nil => simp [groupsFrom]
  | cons item items ih =>
    obtain ⟨first, rest⟩ := List.forall_mem_cons.mp named
    have filled : addTo key item (groups ++ [(name, before)]) =
        groups ++ [(name, before ++ [item])] := by
      rw [addTo_append (first ▸ fresh), addTo, if_pos first.symm]
    have later := ih rest (before ++ [item])
    rw [← filled, List.append_assoc] at later
    exact later

/-- Lawful groups are found again, by induction on the groups that are still to be found. -/
theorem groupsFrom_lawful (lawful : Lawful key (groups ++ others)) :
    groupsFrom key groups (others.flatMap Prod.snd) = groups ++ others := by
  induction others generalizing groups with
  | nil => simp [groupsFrom]
  | cons group others ih =>
    obtain ⟨filled, named⟩ := lawful.held group (by simp)
    obtain ⟨item, items, split⟩ := List.exists_cons_of_ne_nil filled
    have fresh : group.1 ∉ groups.map Prod.fst := by
      have distinct := lawful.keys
      rw [List.map_append, List.map_cons, List.nodup_append] at distinct
      exact fun inside => distinct.2.2 _ inside _ List.mem_cons_self rfl
    rw [split] at named
    obtain ⟨first, rest⟩ := List.forall_mem_cons.mp named
    have begun : addTo key item groups = groups ++ [(group.1, [item])] := by
      have appended : addTo key item (groups ++ []) = groups ++ addTo key item [] :=
        addTo_append (first ▸ fresh)
      rwa [List.append_nil, addTo, first] at appended
    have whole : groupsFrom key groups (item :: items) = groups ++ [group] := by
      have later := groupsFrom_group fresh rest [item]
      rw [← begun] at later
      exact later.trans (by rw [List.singleton_append, ← split])
    rw [List.flatMap_cons, split, groupsFrom, List.foldl_append]
    exact (congrArg (groupsFrom key · _) whole).trans
      ((ih (by simpa using lawful)).trans (by simp))

theorem groupBy_flatMap (lawful : Lawful key groups) :
    groupBy key (groups.flatMap Prod.snd) = groups :=
  groupsFrom_lawful lawful

theorem Lawful.filter_key (lawful : Lawful key groups) (name : Key) :
    (groups.flatMap Prod.snd).filter (fun item => key item = name) = [] ∨
      ∃ group ∈ groups,
        (groups.flatMap Prod.snd).filter (fun item => key item = name) = group.2 := by
  induction groups with
  | nil => exact .inl rfl
  | cons group groups ih =>
    obtain ⟨first, rest⟩ := List.forall_mem_cons.mp lawful.held
    obtain ⟨absent, distinct⟩ := List.nodup_cons.mp lawful.keys
    rw [List.flatMap_cons, List.filter_append]
    by_cases same : group.1 = name
    · have whole : group.2.filter (fun item => key item = name) = group.2 :=
        List.filter_eq_self.mpr fun item inside => decide_eq_true ((first.2 item inside).trans same)
      have none : (groups.flatMap Prod.snd).filter (fun item => key item = name) = [] := by
        refine List.filter_eq_nil_iff.mpr fun item inside named => absent ?_
        obtain ⟨other, among, held⟩ := List.mem_flatMap.mp inside
        rw [same, ← of_decide_eq_true named, (rest other among).2 item held]
        exact List.mem_map_of_mem among
      exact .inr ⟨group, List.mem_cons_self, by rw [whole, none, List.append_nil]⟩
    · have none : group.2.filter (fun item => key item = name) = [] :=
        List.filter_eq_nil_iff.mpr fun item inside named =>
          same ((first.2 item inside).symm.trans (of_decide_eq_true named))
      rw [none, List.nil_append]
      exact (ih ⟨distinct, rest⟩).imp_right fun ⟨other, among, equal⟩ =>
        ⟨other, List.mem_cons_of_mem _ among, equal⟩

end Selection
