import Mathlib.Tactic.GCongr
import CoinRobotu.Spot.Capital

/-!
# The drawdown of the portfolio

The drawdown is meant to be the drop from the highest equity so far to the current one.
-/

namespace Spot

open Numeric

/-- The highest point of a curve that starts at the capital and moves by the given profits. -/
def peakFrom (capital : ℚ) : List ℚ → ℚ
  | [] => capital
  | pnl :: later => max capital (peakFrom (capital + pnl) later)

def dropPct (peak current : ℚ) : ℚ := (peak - current) / peak * 100

def Store.closedPnls (store : Store) : List ℚ :=
  (store.closedRows.mergeSort fun row other =>
    decide (row.closedAt.getD 0 ≤ other.closedAt.getD 0)).map (·.position.realizedPnl)

/-- The drop from the running maximum of the realized equity, the current one included. -/
def Store.peakToCurrent (store : Store) (equity : ℚ) : ℚ :=
  dropPct (max (peakFrom 10000 store.closedPnls) equity) equity

/-- The curve ends at its highest point or has never been above the capital; otherwise nothing is
left of the peak to be seen, or nothing is lost. -/
def Unbroken (pnls : List ℚ) (equity : ℚ) : Prop :=
  0 ≤ equity ∧ (peakFrom 10000 pnls ≤ equity ∨
    pnls ≠ [] ∧ (equity = 0 ∨ peakFrom 10000 pnls = max 10000 (10000 + pnls.sum)))

section Curves

variable {capital : ℚ} {pnls : List ℚ}

theorem capital_le_peakFrom : capital ≤ peakFrom capital pnls := by
  cases pnls with
  | nil => exact le_rfl
  | cons pnl later => exact le_max_left _ _

/-- The end of a curve is not above its peak, by induction on the profits. -/
theorem end_le_peakFrom : capital + pnls.sum ≤ peakFrom capital pnls := by
  induction pnls generalizing capital with
  | nil => simp [peakFrom]
  | cons pnl later ih =>
    rw [List.sum_cons, ← add_assoc]
    exact ih.trans (le_max_right _ _)

theorem peakFrom_concat {lost : ℚ} (loss : lost < 0) :
    peakFrom capital (pnls ++ [lost]) = peakFrom capital pnls := by
  induction pnls generalizing capital with
  | nil => simp [peakFrom, loss.le]
  | cons pnl later ih => rw [List.cons_append, peakFrom, ih, peakFrom]

end Curves

theorem dropPct_eq {peak current : ℚ} (positive : 0 < peak) :
    dropPct peak current = (1 - current / peak) * 100 := by
  rw [dropPct, sub_div, div_self positive.ne']

theorem dropPct_mono {peak higher current lower : ℚ} (positive : 0 < peak) (up : peak ≤ higher)
    (down : lower ≤ current) (nonneg : 0 ≤ current) :
    dropPct peak current ≤ dropPct higher lower := by
  rw [dropPct_eq positive, dropPct_eq (positive.trans_le up)]
  have divided : lower / higher ≤ current / peak :=
    (div_le_div_of_nonneg_right down (positive.trans_le up).le).trans
      (div_le_div_of_nonneg_left nonneg positive up)
  linarith

section Reports

variable {store : Store} {equity : ℚ}

theorem closedPnls_sum : store.closedPnls.sum = store.closedPnl :=
  ((List.mergeSort_perm _ _).map _).sum_eq

theorem closedPnls_eq_nil : store.closedPnls = [] ↔ store.closedRows = [] := by
  rw [Store.closedPnls, List.map_eq_nil_iff, ← List.length_eq_zero_iff, List.length_mergeSort,
    List.length_eq_zero_iff]

def reportedPeak (pnls : List ℚ) : ℚ := max 10000 (10000 + pnls.sum)

theorem reportedPeak_pos {pnls : List ℚ} : 0 < reportedPeak pnls :=
  lt_of_lt_of_le (by norm_num) (le_max_left _ _)

theorem reportedPeak_le {pnls : List ℚ} : reportedPeak pnls ≤ peakFrom 10000 pnls :=
  max_le capital_le_peakFrom end_le_peakFrom

theorem portfolioDrawdownPct_eq : portfolioDrawdownPct equity store =
    if store.closedPnls = [] then 0
    else max (dropPct (reportedPeak store.closedPnls) (max equity 0)) 0 := by
  have peak : max 10000 (10000 + max store.closedPnl 0) = reportedPeak store.closedPnls := by
    rw [reportedPeak, closedPnls_sum, ← max_add_add_left, add_zero]
    exact max_left_comm _ _ _ |>.trans (by simp [max_comm])
  simp only [portfolioDrawdownPct, peak, closedPnls_eq_nil, dropPct]

theorem peakToCurrent_nonneg : 0 ≤ store.peakToCurrent equity := by
  have positive : 0 < max (peakFrom 10000 store.closedPnls) equity :=
    lt_max_of_lt_left (reportedPeak_pos.trans_le reportedPeak_le)
  exact mul_nonneg (div_nonneg (sub_nonneg.mpr (le_max_right _ _)) positive.le) (by norm_num)

theorem portfolioDrawdownPct_le :
    portfolioDrawdownPct equity store ≤ store.peakToCurrent equity := by
  rw [portfolioDrawdownPct_eq]
  split
  · exact peakToCurrent_nonneg
  · refine max_le (dropPct_mono reportedPeak_pos ?_ (le_max_left _ _) (le_max_right _ _))
      peakToCurrent_nonneg
    exact reportedPeak_le.trans (le_max_left _ _)

theorem reported_of_unbroken (unbroken : Unbroken store.closedPnls equity) :
    portfolioDrawdownPct equity store = store.peakToCurrent equity := by
  obtain ⟨nonneg, above | ⟨traded, lost | level⟩⟩ := unbroken
  · refine le_antisymm portfolioDrawdownPct_le ?_
    have none_lost : store.peakToCurrent equity = 0 := by
      rw [Store.peakToCurrent, max_eq_right above, dropPct, sub_self, zero_div, zero_mul]
    rw [none_lost, portfolioDrawdownPct_eq]
    split
    · exact le_rfl
    · exact le_max_right _ _
  · have all_lost : ∀ {peak : ℚ}, 0 < peak → dropPct peak 0 = 100 := fun positive => by
      rw [dropPct_eq positive, zero_div, sub_zero, one_mul]
    have peak_pos : 0 < peakFrom 10000 store.closedPnls := reportedPeak_pos.trans_le reportedPeak_le
    rw [portfolioDrawdownPct_eq, if_neg traded, Store.peakToCurrent, lost, max_self,
      max_eq_left peak_pos.le, all_lost reportedPeak_pos, all_lost peak_pos]
    norm_num
  · refine le_antisymm portfolioDrawdownPct_le ?_
    rw [portfolioDrawdownPct_eq, if_neg traded, max_eq_left nonneg, Store.peakToCurrent, level]
    rcases le_total equity (reportedPeak store.closedPnls) with below | above
    · exact (max_eq_left below).symm ▸ le_max_left _ _
    · refine le_trans (le_of_eq ?_) (le_max_right _ _)
      rw [show max (max 10000 (10000 + store.closedPnls.sum)) equity = equity from
        max_eq_right above, dropPct, sub_self, zero_div, zero_mul]

theorem unbroken_of_reported
    (same : portfolioDrawdownPct equity store = store.peakToCurrent equity) :
    Unbroken store.closedPnls equity := by
  have peak_pos : 0 < peakFrom 10000 store.closedPnls := reportedPeak_pos.trans_le reportedPeak_le
  rw [portfolioDrawdownPct_eq, Store.peakToCurrent] at same
  by_cases above : peakFrom 10000 store.closedPnls ≤ equity
  · exact ⟨peak_pos.le.trans above, .inl above⟩
  rw [max_eq_left (not_le.mp above).le, dropPct_eq peak_pos] at same
  have ratio : equity / peakFrom 10000 store.closedPnls < 1 :=
    (div_lt_one peak_pos).mpr (not_le.mp above)
  by_cases traded : store.closedPnls = []
  · rw [if_pos traded] at same
    linarith
  rw [if_neg traded, dropPct_eq reportedPeak_pos] at same
  have equal : max equity 0 / reportedPeak store.closedPnls =
      equity / peakFrom 10000 store.closedPnls := by
    rcases max_choice ((1 - max equity 0 / reportedPeak store.closedPnls) * 100) 0
      with side | side <;>
      rw [side] at same <;> linarith
  have nonneg : 0 ≤ equity := by
    by_contra negative
    rw [max_eq_right (not_le.mp negative).le, zero_div] at equal
    exact absurd equal (div_neg_of_neg_of_pos (not_le.mp negative) peak_pos).ne'
  refine ⟨nonneg, .inr ⟨traded, ?_⟩⟩
  rw [max_eq_left nonneg, div_eq_div_iff reportedPeak_pos.ne' peak_pos.ne'] at equal
  exact (mul_eq_mul_left_iff.mp equal).symm

def closedRow (pnl : ℚ) (closedAt : ℤ) : Row :=
  ⟨⟨"position", "user-1", "BTCUSDT", "spot", "long", 1, 1, 100, 90, 120, "closed", pnl, pnl⟩, none,
    some closedAt⟩

def lostAgain : Store := ⟨none, [closedRow 10000 1, closedRow (-10000) 2], []⟩

end Reports

end Spot
