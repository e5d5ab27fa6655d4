import CoinRobotu.Interleaving.Machine

/-!
# One program on its own

When no other thread interferes, a program maps a world and a supply of oracles
to a world and an outcome. An endless supply answers every command, so the
program always ends. A finite supply answers the commands in order, and a
program that outlives it is cut off there.
-/

namespace Interleaving

universe u

/-- How a program ended: it returned, it raised, or its oracles ran out. -/
inductive Outcome (S : Signature) (α : Type) where
  | returned (value : α)
  | raised (failure : S.Failure)
  | cut

namespace Program

variable {S : Signature} {World Oracle Task : Type} {Phase : Type u} {α : Type}
  (service : Service S World Oracle) (thread : Thread)

def execute : Program S α → List Oracle → World → World × Outcome S α × List Oracle
  | .done value, oracles, world => (world, .returned value, oracles)
  | .fail failure, oracles, world => (world, .raised failure, oracles)
  | .issue _ _, [], world => (world, .cut, [])
  | .issue command next, oracle :: oracles, world =>
      let result := service.perform thread oracle command world
      (next result.2).execute oracles result.1

/-- The program cut short once a command of the kind was answered with a reply. -/
def upTo (stop : S.Command → Bool) : Program S α → Program S Unit
  | .done _ => .done ()
  | .fail failure => .fail failure
  | .issue command next => .issue command fun
      | .ok reply => if stop command then .done () else (next (.ok reply)).upTo stop
      | .error failure => (next (.error failure)).upTo stop

def play : Program S α → (Nat → Oracle) → World → World × Except S.Failure α
  | .done value, _, world => (world, .ok value)
  | .fail failure, _, world => (world, .error failure)
  | .issue command next, oracles, world =>
      let result := service.perform thread (oracles 0) command world
      (next result.2).play (fun index => oracles (index + 1)) result.1

variable {protocol : Protocol S Task Phase} {returns : α → Phase → Prop}
  {raises : S.Failure → Phase → Prop} {program : Program S α} {phase : Phase}
  (follows : program.Follows protocol returns raises phase) (Invariant : World → Phase → Prop)

include follows

/-- The invariant rule for one program: a relation between the world and the
phase that every allowed command preserves holds wherever the program stops,
and together with what the protocol says of that stop. -/
theorem execute_invariant (answers : ∀ oracle command world,
      protocol.possible command (service.perform thread oracle command world).2)
    (preserved : ∀ oracle command world phase, protocol.allows phase command →
      Invariant world phase →
      Invariant (service.perform thread oracle command world).1
        (protocol.next phase command (service.perform thread oracle command world).2))
    (oracles : List Oracle) (world : World) (initially : Invariant world phase) :
    ∃ reached, Invariant (program.execute service thread oracles world).1 reached ∧
      match (program.execute service thread oracles world).2.1 with
      | .returned value => returns value reached
      | .raised failure => raises failure reached
      | .cut => True := by
  induction program generalizing phase oracles world with
  | done | fail => exact ⟨phase, initially, follows⟩
  | issue command next ih =>
    cases oracles with
    | nil => exact ⟨phase, initially, trivial⟩
    | cons oracle oracles =>
      exact ih _ (follows.2 _ (answers oracle command world)) _ _
        (preserved oracle command world phase follows.1 initially)

/-- The same rule for a program that runs to its end. The invariant may also
justify what the protocol promises about answers, and every oracle is good. -/
theorem play_invariant (Good : Oracle → Prop)
    (preserved : ∀ oracle command world phase, Good oracle → protocol.allows phase command →
      Invariant world phase →
      protocol.possible command (service.perform thread oracle command world).2 ∧
      Invariant (service.perform thread oracle command world).1
        (protocol.next phase command (service.perform thread oracle command world).2))
    (oracles : Nat → Oracle) (good : ∀ index, Good (oracles index)) (world : World)
    (initially : Invariant world phase) :
    ∃ reached, Invariant (program.play service thread oracles world).1 reached ∧
      match (program.play service thread oracles world).2 with
      | .ok value => returns value reached
      | .error failure => raises failure reached := by
  induction program generalizing phase oracles world with
  | done | fail => exact ⟨phase, initially, follows⟩
  | issue command next ih =>
    obtain ⟨possible, kept⟩ :=
      preserved (oracles 0) command world phase (good 0) follows.1 initially
    exact ih _ (follows.2 _ possible) (fun index => oracles (index + 1))
      (fun index => good (index + 1)) _ kept

end Program

end Interleaving
