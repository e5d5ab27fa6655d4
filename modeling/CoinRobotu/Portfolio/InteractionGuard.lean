import Mathlib.Data.List.MinMax
import CoinRobotu.Portfolio.Rows
import CoinRobotu.Selection.Grouping

/-!
# The interaction guard of the strategies

The rows are put into groups by their symbol.
-/

namespace Portfolio

open Futures (Decision Verdict)
open Selection (Lawful groupBy)

abbrev Fate := Decision × Option String

def Fate.blocked (fate : Fate) : Option Decision := fate.2.map (fate.1.rejectedBy "GATE")

def Fate.row (fate : Fate) : Decision := fate.blocked.getD fate.1

structure Guarded where
  output : List Decision
  blocked : List Decision

section Guard

variable (limit : ℕ) (rows : List Decision)

def candidates (side : String) : List (Decision × ℕ) := (allowed rows).filter (·.1.side = side)

def contested : Prop := candidates rows "LONG" ≠ [] ∧ candidates rows "SHORT" ≠ []

instance : Decidable (contested rows) := inferInstanceAs (Decidable (_ ∧ _))

def winner : Option (Decision × ℕ) := (allowed rows).argmax fun item => confidence item.1

def sameSide : List (Decision × ℕ) :=
  if candidates rows "LONG" ≠ [] then candidates rows "LONG" else candidates rows "SHORT"

def keepRefs : List (Decision × ℕ) :=
  if contested rows then (winner rows).toList else (byConfidence (sameSide rows)).take limit

/-- One symbol in the loop of `apply`. -/
def resolve : List Fate :=
  if allowed rows = [] then rows.map fun row => (row, none)
  else rows.zipIdx.map fun item =>
    (item.1, if item.1.decision ≠ .allow ∨ item ∈ keepRefs limit rows then none
      else if contested rows then some "STRATEGY_INTERACTION_CONFLICT"
      else some "STRATEGY_INTERACTION_STACKED")

def bySymbol : List (String × List Decision) := groupBy symbolKey rows

/-- `StrategyInteractionGuard.apply`, with the constructor's bound. -/
def StrategyInteractionGuard.apply (maxSameSidePerSymbol : ℤ) : Guarded :=
  let fates := (bySymbol rows).flatMap fun group =>
    resolve (max 1 maxSameSidePerSymbol).toNat group.2
  ⟨fates.map Fate.row, fates.filterMap Fate.blocked⟩

end Guard

/-- No symbol is allowed on both sides, at most `stack` rows of a symbol and side are, each row is
in the output once, unchanged or rejected and blocked, and no symbol loses all of its rows. -/
structure ConflictFree (stack : ℤ) (rows : List Decision) (guarded : Guarded) : Prop where
  sides : ∀ row ∈ stillAllowed guarded.output, ∀ other ∈ stillAllowed guarded.output,
    symbolKey row = symbolKey other → row.side = "LONG" → other.side ≠ "SHORT"
  stacked : ∀ symbol, ∀ side ∈ ["LONG", "SHORT"],
    ((stillAllowed guarded.output).countP fun row => symbolKey row = symbol ∧ row.side = side) ≤
      stack
  accounted : ∃ fates : List Fate, (fates.map Prod.fst).Perm rows ∧
    guarded = ⟨fates.map Fate.row, fates.filterMap Fate.blocked⟩ ∧
      ∀ fate ∈ fates, fate.2 ≠ none → fate.1.decision = .allow
  surviving : ∀ row ∈ stillAllowed rows, row.side ∈ ["LONG", "SHORT"] →
    ∃ other ∈ stillAllowed guarded.output, symbolKey other = symbolKey row

section Symbol

variable {limit : ℕ} {rows : List Decision} {item : Decision × ℕ} {side : String}

def results (limit : ℕ) (rows : List Decision) : List Decision := (resolve limit rows).map Fate.row

theorem keepRefs_allowed (kept : item ∈ keepRefs limit rows) : item ∈ allowed rows := by
  unfold keepRefs at kept
  split at kept
  case isTrue => exact List.argmax_mem (Option.mem_toList.mp kept)
  case isFalse =>
    have among := (List.mergeSort_perm _ _).subset (List.mem_of_mem_take kept)
    unfold sameSide candidates at among
    split at among <;> exact List.mem_of_mem_filter among

theorem keepRefs_nodup : (keepRefs limit rows).Nodup := by
  unfold keepRefs
  split
  · cases winner rows <;> simp
  · have sorted : (byConfidence (sameSide rows)).Nodup := by
      rw [byConfidence, (List.mergeSort_perm _ _).nodup_iff, sameSide]
      split <;> exact nodup_allowed.filter _
    exact sorted.sublist (List.take_sublist _ _)

theorem resolve_fst : (resolve limit rows).map Prod.fst = rows := by
  unfold resolve
  split
  · rw [List.map_map]
    exact List.map_id rows
  · rw [List.map_map]
    exact List.zipIdx_map_fst 0 rows

theorem getElem?_results (index : ℕ) : (results limit rows)[index]? =
    rows[index]?.map fun row => if row.decision = .allow ∧ (row, index) ∉ keepRefs limit rows then
      row.rejectedBy "GATE" (if contested rows then "STRATEGY_INTERACTION_CONFLICT"
        else "STRATEGY_INTERACTION_STACKED") else row := by
  unfold results resolve
  split
  case isTrue none =>
    rw [List.map_map, List.getElem?_map]
    refine Option.map_congr fun row present => ?_
    rw [if_neg]
    · rfl
    · intro refused
      have member : (row, index) ∈ allowed rows := mem_allowed.mpr ⟨present, refused.1⟩
      exact List.ne_nil_of_mem member none
  case isFalse =>
    rw [List.map_map, List.getElem?_map, List.getElem?_zipIdx, Option.map_map]
    refine Option.map_congr fun row _ => ?_
    by_cases allows : row.decision = .allow <;>
      by_cases kept : (row, index) ∈ keepRefs limit rows <;>
      by_cases both : contested rows <;> simp [Fate.row, Fate.blocked, allows, kept, both]

theorem allowed_results : (allowed (results limit rows)).Perm (keepRefs limit rows) :=
  allowed_perm keepRefs_nodup (fun _ => keepRefs_allowed) (fun _ => rfl) getElem?_results

theorem length_keepRefs (positive : 1 ≤ limit) : (keepRefs limit rows).length ≤ limit := by
  unfold keepRefs
  split
  · cases winner rows <;> simp [positive]
  · exact List.length_take_le _ _

def Decisive (rows : List Decision) : Prop :=
  contested rows → ∀ item ∈ winner rows, item.1.side ∈ ["LONG", "SHORT"]

theorem keepRefs_side (limit : ℕ) (rows : List Decision) :
    ∃ side, (∀ item ∈ keepRefs limit rows, item.1.side = side) ∧
      (Decisive rows → side ∈ ["LONG", "SHORT"]) := by
  by_cases both : contested rows
  · cases found : winner rows with
    | none => exact ⟨"LONG", by simp [keepRefs, both, found], fun _ => by simp⟩
    | some item =>
      exact ⟨item.1.side, by simp [keepRefs, both, found], fun decisive => decisive both item found⟩
  · have sides : ∀ side, ∀ item ∈ (byConfidence (candidates rows side)).take limit,
        item.1.side = side := by
      intro side item kept
      have among := (List.mergeSort_perm _ _).subset (List.mem_of_mem_take kept)
      exact of_decide_eq_true (List.mem_filter.mp among).2
    rw [keepRefs, if_neg both, sameSide]
    split
    · exact ⟨"LONG", sides "LONG", fun _ => by simp⟩
    · exact ⟨"SHORT", sides "SHORT", fun _ => by simp⟩

theorem keepRefs_ne_nil (positive : 1 ≤ limit) (allows : item ∈ allowed rows)
    (sided : item.1.side ∈ ["LONG", "SHORT"]) : keepRefs limit rows ≠ [] := by
  have candidate : item ∈ candidates rows item.1.side :=
    List.mem_filter.mpr ⟨allows, decide_eq_true rfl⟩
  unfold keepRefs
  split
  case isTrue =>
    have found : winner rows ≠ none := fun none =>
      List.ne_nil_of_mem allows (List.argmax_eq_none.mp none)
    obtain ⟨best, found⟩ := Option.ne_none_iff_exists'.mp found
    simp [found]
  case isFalse =>
    have filled : sameSide rows ≠ [] := by
      unfold sameSide
      split
      case isTrue longs => exact longs
      case isFalse noLongs =>
        rw [not_not] at noLongs
        rcases List.mem_pair.mp sided with long | short
        · rw [long, noLongs] at candidate
          cases candidate
        · exact List.ne_nil_of_mem (short ▸ candidate)
    have sorted : 0 < (byConfidence (sameSide rows)).length := by
      rw [byConfidence, List.length_mergeSort]
      exact List.length_pos_iff.mpr filled
    rw [← List.length_pos_iff, List.length_take]
    omega

theorem results_settled (side : String) (sided : side ∈ ["LONG", "SHORT"])
    (only : ∀ item ∈ allowed rows, item.1.side = side) (few : (allowed rows).length ≤ limit) :
    results limit rows = rows := by
  have all : candidates rows side = allowed rows :=
    List.filter_eq_self.mpr fun item inside => decide_eq_true (only item inside)
  have none : ∀ other, other ≠ side → candidates rows other = [] := fun other differs =>
    List.filter_eq_nil_iff.mpr fun item inside same =>
      differs ((of_decide_eq_true same).symm.trans (only item inside))
  have kept : ∀ item ∈ allowed rows, item ∈ keepRefs limit rows := by
    intro item inside
    have whole : keepRefs limit rows = byConfidence (allowed rows) := by
      rw [keepRefs, if_neg]
      · have same : sameSide rows = allowed rows := by
          rcases List.mem_pair.mp sided with rfl | rfl
          · rw [sameSide, all, if_pos (List.ne_nil_of_mem inside)]
          · rw [sameSide, none "LONG" (by simp), if_neg (by simp), all]
        rw [same, List.take_of_length_le]
        rwa [byConfidence, List.length_mergeSort]
      · rintro ⟨longs, shorts⟩
        rcases List.mem_pair.mp sided with rfl | rfl
        · exact shorts (none "SHORT" (by simp))
        · exact longs (none "LONG" (by simp))
    rw [whole]
    exact (List.mergeSort_perm _ _).symm.subset inside
  refine List.ext_getElem? fun index => ?_
  rw [getElem?_results]
  refine (Option.map_congr fun row present => ?_).trans Option.map_id'
  exact if_neg fun refused => refused.2 (kept _ (mem_allowed.mpr ⟨present, refused.1⟩))

theorem results_results (positive : 1 ≤ limit) (decisive : Decisive rows) :
    results limit (results limit rows) = results limit rows := by
  obtain ⟨side, same, sided⟩ := keepRefs_side limit rows
  refine results_settled side (sided decisive) (fun item inside => ?_) ?_
  · exact same item (allowed_results.subset inside)
  · exact allowed_results.length_eq.trans_le (length_keepRefs positive)

end Symbol

section Symbols

open StrategyInteractionGuard (apply)

variable {stack : ℤ} {rows : List Decision} {row : Decision} {limit : ℕ}

def settled (limit : ℕ) (rows : List Decision) : List (String × List Decision) :=
  (bySymbol rows).map fun group => (group.1, results limit group.2)

theorem output_eq :
    (apply rows stack).output = (settled (max 1 stack).toNat rows).flatMap Prod.snd := by
  simp only [apply, settled, List.map_flatMap, List.flatMap_map]
  rfl

theorem symbolKey_results {group : List Decision} {name : String}
    (named : ∀ row ∈ group, symbolKey row = name) :
    ∀ row ∈ results limit group, symbolKey row = name := by
  intro row inside
  obtain ⟨index, present⟩ := List.mem_iff_getElem?.mp inside
  rw [getElem?_results, Option.map_eq_some_iff] at present
  obtain ⟨source, found, rfl⟩ := present
  split <;> exact named source (List.mem_of_getElem? found)

theorem settled_lawful : Lawful symbolKey (settled limit rows) where
  keys := by
    rw [settled, List.map_map]
    exact Selection.groupBy_lawful.keys
  held := by
    intro group inside
    obtain ⟨source, among, rfl⟩ := List.mem_map.mp inside
    obtain ⟨filled, named⟩ := Selection.groupBy_lawful.held source among
    refine ⟨fun empty => filled ?_, symbolKey_results named⟩
    rw [← @resolve_fst limit source.2, List.map_eq_nil_iff]
    exact List.map_eq_nil_iff.mp empty

theorem mem_stillAllowed_output : row ∈ stillAllowed (apply rows stack).output ↔
    ∃ group ∈ bySymbol rows, ∃ item ∈ keepRefs (max 1 stack).toNat group.2, item.1 = row := by
  have kept : ∀ group : List Decision, row ∈ stillAllowed (results (max 1 stack).toNat group) ↔
      ∃ item ∈ keepRefs (max 1 stack).toNat group, item.1 = row := by
    intro group
    rw [stillAllowed_eq, (allowed_results.map Prod.fst).mem_iff, List.mem_map]
  simp only [← kept, output_eq, settled, stillAllowed, List.flatMap_map, List.filter_flatMap,
    List.mem_flatMap]

theorem symbolKey_kept {group : String × List Decision} (inside : group ∈ bySymbol rows)
    {item : Decision × ℕ} (kept : item ∈ keepRefs limit group.2) : symbolKey item.1 = group.1 :=
  (Selection.groupBy_lawful.held group inside).2 item.1
    (List.mem_of_getElem? (mem_allowed.mp (keepRefs_allowed kept)).1)

theorem apply_sides : ∀ row ∈ stillAllowed (apply rows stack).output,
    ∀ other ∈ stillAllowed (apply rows stack).output,
      symbolKey row = symbolKey other → row.side = "LONG" → other.side ≠ "SHORT" := by
  intro row inside other among same long short
  obtain ⟨group, listed, item, kept, rfl⟩ := mem_stillAllowed_output.mp inside
  obtain ⟨group', listed', item', kept', rfl⟩ := mem_stillAllowed_output.mp among
  rw [symbolKey_kept listed kept, symbolKey_kept listed' kept'] at same
  have equal : group = group' :=
    List.inj_on_of_nodup_map Selection.groupBy_lawful.keys listed listed' same
  obtain ⟨side, one, -⟩ := keepRefs_side (max 1 stack).toNat group.2
  rw [one item kept] at long
  rw [one item' (equal ▸ kept'), long] at short
  simp at short

theorem apply_stacked (symbol side : String) :
    ((stillAllowed (apply rows stack).output).countP fun row =>
      symbolKey row = symbol ∧ row.side = side : ℕ) ≤ max 1 stack := by
  have positive : 1 ≤ (max 1 stack).toNat := by omega
  have within : (stillAllowed ((apply rows stack).output.filter fun row =>
      symbolKey row = symbol)).length ≤ (max 1 stack).toNat := by
    rw [output_eq]
    have lawful := @settled_lawful rows (max 1 stack).toNat
    rcases lawful.filter_key symbol with none | ⟨group, inside, whole⟩
    · rw [none]
      exact Nat.zero_le _
    · obtain ⟨source, -, rfl⟩ := List.mem_map.mp inside
      rw [whole, stillAllowed_eq, List.length_map, allowed_results.length_eq]
      exact length_keepRefs positive
  have counted : (stillAllowed (apply rows stack).output).countP (fun row =>
      symbolKey row = symbol ∧ row.side = side) ≤ (stillAllowed ((apply rows stack).output.filter
        fun row => symbolKey row = symbol)).length := by
    rw [stillAllowed, stillAllowed, List.filter_comm, ← List.countP_eq_length_filter]
    exact List.countP_mono_left fun row _ both => by simpa using (of_decide_eq_true both).1
  omega

theorem apply_accounted : ∃ fates : List Fate, (fates.map Prod.fst).Perm rows ∧
    apply rows stack = ⟨fates.map Fate.row, fates.filterMap Fate.blocked⟩ ∧
      ∀ fate ∈ fates, fate.2 ≠ none → fate.1.decision = .allow := by
  refine ⟨_, ?_, rfl, fun fate inside rejected => ?_⟩
  · simp only [List.map_flatMap, resolve_fst]
    exact Selection.groupBy_perm
  · obtain ⟨group, -, among⟩ := List.mem_flatMap.mp inside
    unfold resolve at among
    split at among
    · obtain ⟨row, -, rfl⟩ := List.mem_map.mp among
      exact absurd rfl rejected
    · obtain ⟨item, -, rfl⟩ := List.mem_map.mp among
      by_contra refused
      simp [refused] at rejected

theorem apply_surviving : ∀ row ∈ stillAllowed rows, row.side ∈ ["LONG", "SHORT"] →
    ∃ other ∈ stillAllowed (apply rows stack).output, symbolKey other = symbolKey row := by
  intro row inside sided
  obtain ⟨present, allows⟩ := List.mem_filter.mp inside
  obtain ⟨group, listed, among⟩ :=
    List.mem_flatMap.mp ((@Selection.groupBy_perm _ _ _ symbolKey rows).symm.subset present)
  obtain ⟨index, found⟩ := List.mem_iff_getElem?.mp among
  have member : (row, index) ∈ allowed group.2 :=
    mem_allowed.mpr ⟨found, of_decide_eq_true allows⟩
  have positive : 1 ≤ (max 1 stack).toNat := by omega
  obtain ⟨item, kept⟩ := List.exists_mem_of_ne_nil _ (keepRefs_ne_nil positive member sided)
  refine ⟨item.1, mem_stillAllowed_output.mpr ⟨group, listed, item, kept, rfl⟩, ?_⟩
  rw [symbolKey_kept listed kept, (Selection.groupBy_lawful.held group listed).2 row among]

theorem output_output : (apply (apply rows stack).output stack).output =
    (bySymbol rows).flatMap fun group =>
      results (max 1 stack).toNat (results (max 1 stack).toNat group.2) := by
  have again : bySymbol (apply rows stack).output = settled (max 1 stack).toNat rows := by
    rw [output_eq]
    exact Selection.groupBy_flatMap settled_lawful
  rw [output_eq, settled, again, settled, List.map_map, List.flatMap_map]
  rfl

theorem apply_apply (decisive : ∀ group ∈ bySymbol rows, Decisive group.2) :
    (apply (apply rows stack).output stack).output = (apply rows stack).output := by
  have positive : 1 ≤ (max 1 stack).toNat := by omega
  rw [output_output, output_eq, settled, List.flatMap_map]
  exact List.flatMap_congr fun group inside => results_results positive (decisive group inside)

/-- The guard leaves no conflict and no more than the limit, which is at least 1, and is
idempotent where the winners of the conflicts have one of the two sides. -/
theorem interaction_conflict_free (stack : ℤ) (rows : List Decision) :
    ConflictFree (max 1 stack) rows (apply rows stack) ∧
      ((∀ group ∈ bySymbol rows, Decisive group.2) →
        (apply (apply rows stack).output stack).output = (apply rows stack).output) :=
  ⟨⟨apply_sides, fun symbol side _ => apply_stacked symbol side, apply_accounted,
    apply_surviving⟩, apply_apply⟩

/-- With no room one row stays; and where the most confident row is on neither side, it wins the
conflict and is rejected by the next pass. -/
theorem interaction_guard_keeps_one :
    let row : String → ℚ → Decision := fun side confidence => ⟨"BTCUSDT", side, some "trend", none,
      some confidence, none, ⟨some 4, some 1⟩, .allow, none, none, [], none, none⟩
    let rows := [row "LONG" (5 / 10), row "SHORT" (6 / 10), row "FLAT" (9 / 10)]
    ¬ConflictFree 0 [row "LONG" 1] (apply [row "LONG" 1] 0) ∧
      (apply (apply rows 2).output 2).output ≠ (apply rows 2).output := by
  intro row rows
  constructor
  · intro free
    have kept : (apply [row "LONG" 1] 0).output = [row "LONG" 1] := by
      rw [output_eq]
      exact (List.append_nil _).trans (results_settled "LONG" (by simp) (by decide) (by decide))
    have few := free.stacked "BTCUSDT" "LONG" (by simp)
    rw [kept] at few
    revert few
    decide +kernel
  · intro same
    have one : bySymbol rows = [("BTCUSDT", rows)] := by decide +kernel
    have winner : keepRefs 2 rows = [(row "FLAT" (9 / 10), 2)] := by decide +kernel
    have whole : results 2 (results 2 rows) = results 2 rows := by
      rw [output_output, output_eq, settled, one] at same
      simpa using same
    have once : (allowed (results 2 rows)).Perm [(row "FLAT" (9 / 10), 2)] :=
      winner ▸ allowed_results
    have noSide : ∀ side ≠ "FLAT", candidates (results 2 rows) side = [] := by
      intro side differs
      refine List.filter_eq_nil_iff.mpr fun item inside sided => differs ?_
      rw [List.mem_singleton.mp (once.subset inside)] at sided
      exact (of_decide_eq_true sided).symm
    have twice : keepRefs 2 (results 2 rows) = [] := by
      simp [keepRefs, contested, sameSide, noSide, byConfidence]
    have none := (@allowed_results 2 (results 2 rows)).length_eq
    rw [whole, once.length_eq, twice] at none
    cases none

end Symbols

end Portfolio
