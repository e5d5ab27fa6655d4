import CoinRobotu.Futures.Decisions

/-!
# The rows that the portfolio guards pass over

A guard knows the allowed rows by their places in the list.
-/

namespace Portfolio

open Futures (Decision Verdict)
open Runtime (upper)

/-- `str(row.get("symbol") or "UNKNOWN").upper()`. -/
def symbolKey (row : Decision) : String := upper (if row.symbol = "" then "UNKNOWN" else row.symbol)

def confidence (row : Decision) : ℚ := row.confidence.getD 0

def allowed (rows : List Decision) : List (Decision × ℕ) :=
  rows.zipIdx.filter (·.1.decision = .allow)

def byConfidence (items : List (Decision × ℕ)) : List (Decision × ℕ) :=
  items.mergeSort fun item other => decide (confidence other.1 ≤ confidence item.1)

def stillAllowed (rows : List Decision) : List Decision := rows.filter (·.decision = .allow)

variable {rows results : List Decision} {item : Decision × ℕ} {kept : List (Decision × ℕ)}
  {rejected : Decision → Decision}

theorem nodup_allowed : (allowed rows).Nodup := by
  have indices : (rows.zipIdx.map Prod.snd).Nodup := by
    rw [List.zipIdx_map_snd]
    exact List.nodup_range'
  exact (indices.of_map _).filter _

theorem mem_allowed : item ∈ allowed rows ↔
    rows[item.2]? = some item.1 ∧ item.1.decision = .allow := by
  simp [allowed, List.mem_zipIdx_iff_getElem?]

theorem stillAllowed_eq : stillAllowed rows = (allowed rows).map Prod.fst := by
  have walked : ∀ start, (rows.zipIdx start).map Prod.fst = rows := fun _ => List.zipIdx_map_fst _ _
  rw [allowed, stillAllowed]
  conv_lhs => rw [← walked 0, List.filter_map]
  rfl

theorem allowed_perm (distinct : kept.Nodup) (inside : ∀ item ∈ kept, item ∈ allowed rows)
    (rejects : ∀ row, (rejected row).decision = .reject)
    (each : ∀ index, results[index]? = rows[index]?.map fun row =>
      if row.decision = .allow ∧ (row, index) ∉ kept then rejected row else row) :
    (allowed results).Perm kept := by
  refine (List.perm_ext_iff_of_nodup nodup_allowed distinct).mpr fun item => ?_
  rw [mem_allowed, each, Option.map_eq_some_iff]
  constructor
  · rintro ⟨⟨row, present, changed⟩, allows⟩
    split at changed
    case isTrue =>
      rw [← changed, rejects] at allows
      cases allows
    case isFalse free =>
      subst changed
      exact not_not.mp fun absent => free ⟨allows, absent⟩
  · intro member
    obtain ⟨present, allows⟩ := mem_allowed.mp (inside item member)
    exact ⟨⟨item.1, present, if_neg fun refused => refused.2 member⟩, allows⟩

theorem byConfidence_sorted (items : List (Decision × ℕ)) : (byConfidence items).Pairwise
    fun item other => confidence other.1 ≤ confidence item.1 := by
  have sorted : (byConfidence items).Pairwise fun item other =>
      decide (confidence other.1 ≤ confidence item.1) :=
    List.pairwise_mergeSort
      (fun first second third => by simpa using fun low high => high.trans low)
      (fun first second => by simpa using le_total (confidence second.1) (confidence first.1)) _
  exact sorted.imp of_decide_eq_true

end Portfolio
