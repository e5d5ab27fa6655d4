import Mathlib.Algebra.BigOperators.Group.List.Basic
import Mathlib.Algebra.Order.Field.Basic
import Mathlib.Tactic.Linarith
import Mathlib.Tactic.Ring
import CoinRobotu.Stateful.Traversal

/-!
# Drawing down budgets

A charge is admitted when the amount booked on its account so far and the charge together stay
within the limit of the account; then it is booked, up to a slack such as a rounding. However
many charges are admitted, in whatever order of accounts, the charges on an account exceed its
limit by no more than the slack of the bookings before the last of them.
-/

namespace Budget

universe u v w

structure Charge (Account : Type u) (K : Type v) where
  account : Account
  amount : K

variable {Account : Type u} {K : Type v}

section Charges

variable [DecidableEq Account]

def on (charges : List (Charge Account K)) (account : Account) : List (Charge Account K) :=
  charges.filter fun charge => charge.account = account

variable {charge : Charge Account K} {charges : List (Charge Account K)} {account : Account}

theorem on_cons_self :
    on (charge :: charges) charge.account = charge :: on charges charge.account := by
  simp [on]

theorem on_cons_other (other : charge.account ≠ account) :
    on (charge :: charges) account = on charges account := by
  simp [on, other]

section Loops

variable {Item Result : Type w}

/-- The charges that a loop over a list admits, read off its items and its results. -/
def chargesOf (charge? : Item → Result → Option (Charge Account K)) (items : List Item)
    (results : List Result) : List (Charge Account K) :=
  (items.zip results).filterMap fun pair => charge? pair.1 pair.2

theorem on_chargesOf {charge? : Item → Result → Option (Charge Account K)}
    {amount : Item → K} {items : List Item} {results : List Result}
    {test : Item × Result → Bool}
    (each : ∀ pair, (charge? pair.1 pair.2).filter (·.account = account) =
      if test pair then some ⟨account, amount pair.1⟩ else none) :
    on (chargesOf charge? items results) account =
      ((items.zip results).filter test).map fun pair => ⟨account, amount pair.1⟩ := by
  unfold on chargesOf
  rw [List.filter_filterMap, ← List.filterMap_eq_map, List.filterMap_filter]
  congr 1
  funext pair
  exact each pair

end Loops

variable [AddCommMonoid K]

def charged (charges : List (Charge Account K)) (account : Account) : K :=
  ((on charges account).map Charge.amount).sum

theorem charged_cons_self : charged (charge :: charges) charge.account =
    charge.amount + charged charges charge.account := by
  simp [charged, on_cons_self]

theorem charged_cons_other (other : charge.account ≠ account) :
    charged (charge :: charges) account = charged charges account := by
  simp [charged, on_cons_other other]

theorem charged_of_none (none : on charges account = []) : charged charges account = 0 := by
  simp [charged, none]

end Charges

variable [Field K] [LinearOrder K]

/-- Charges that are admitted one after the other, with what is booked on the accounts before
the first and after the last of them. -/
inductive Drawn (limit : Account → K) (slack : K) :
    (Account → K) → List (Charge Account K) → (Account → K) → Prop where
  | done (booked : Account → K) : Drawn limit slack booked [] booked
  | charge {booked next last : Account → K} {charge : Charge Account K}
      {charges : List (Charge Account K)}
      (within : booked charge.account + charge.amount ≤ limit charge.account)
      (near : |next charge.account - (booked charge.account + charge.amount)| ≤ slack)
      (others : ∀ other, other ≠ charge.account → next other = booked other)
      (rest : Drawn limit slack next charges last) :
      Drawn limit slack booked (charge :: charges) last

variable {limit booked last : Account → K} {slack : K} {charges : List (Charge Account K)}

section Traversal

variable {State Item Result : Type w}

/-- What a step of the loop does to the accounts: nothing, or one admitted charge. -/
def Admits (limit : Account → K) (slack : K) (booked next : Account → K) :
    Option (Charge Account K) → Prop
  | none => next = booked
  | some charge => booked charge.account + charge.amount ≤ limit charge.account ∧
      |next charge.account - (booked charge.account + charge.amount)| ≤ slack ∧
      ∀ other, other ≠ charge.account → next other = booked other

variable {step : State → Item → Result × State} {state : State} {items : List Item}
  {charge? : Item → Result → Option (Charge Account K)} {invariant : State → Prop}
  {accounts : State → Account → K}

theorem drawn_traverse (initial : invariant state)
    (kept : ∀ {state item}, invariant state → item ∈ items → invariant (step state item).2)
    (each : ∀ {state item}, invariant state → item ∈ items →
      Admits limit slack (accounts state) (accounts (step state item).2)
        (charge? item (step state item).1)) :
    Drawn limit slack (accounts state)
      (chargesOf charge? items (Stateful.traverse step state items).1)
      (accounts (Stateful.traverse step state items).2) := by
  induction items generalizing state with
  | nil => exact .done _
  | cons item items ih =>
    have later := ih (kept initial List.mem_cons_self)
      (fun held inside => kept held (List.mem_cons_of_mem _ inside))
      (fun held inside => each held (List.mem_cons_of_mem _ inside))
    have admitted := each initial List.mem_cons_self
    rw [Stateful.traverse_cons]
    unfold chargesOf at later ⊢
    rw [List.zip_cons_cons, List.filterMap_cons]
    cases charges : charge? item (step state item).1 with
    | none =>
      rw [charges] at admitted
      have unchanged : accounts (step state item).2 = accounts state := admitted
      rw [unchanged] at later
      exact later
    | some charge =>
      rw [charges] at admitted
      obtain ⟨within, near, others⟩ := admitted
      exact .charge within near others later

end Traversal

variable [DecidableEq Account] [IsStrictOrderedRing K]

variable (drawn : Drawn limit slack booked charges last)

include drawn

/-- The charges on an account stay within its limit, up to the slack of all bookings but the
last one. -/
theorem Drawn.charged_le {account : Account} (some : on charges account ≠ []) :
    booked account + charged charges account + slack ≤
      limit account + (on charges account).length * slack := by
  induction drawn with
  | done booked => exact absurd rfl some
  | @charge booked next last charge charges within near others rest ih =>
    by_cases same : charge.account = account
    · subst same
      rw [charged_cons_self, on_cons_self, List.length_cons]
      push_cast
      by_cases final : on charges charge.account = []
      · rw [charged_of_none final, final]
        simp only [List.length_nil, Nat.cast_zero]
        linarith
      · have later := ih final
        have booking := (abs_le.mp near).1
        linarith
    · rw [on_cons_other same] at some ⊢
      rw [charged_cons_other same]
      have later := ih some
      rwa [others account (fun isAccount => same isAccount.symm)] at later

theorem Drawn.charged_le_max (account : Account) :
    booked account + charged charges account ≤
      max (booked account)
        (limit account + ((on charges account).length - 1 : ℕ) * slack) := by
  by_cases none : on charges account = []
  · rw [charged_of_none none, add_zero]
    exact le_max_left _ _
  · have bounded := drawn.charged_le none
    have positive : 1 ≤ (on charges account).length := List.length_pos_iff.mpr none
    apply le_max_of_le_right
    push_cast [positive]
    linarith

end Budget
