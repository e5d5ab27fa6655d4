import Mathlib.Tactic.Linarith

/-!
# Cooldowns

A cooldown is a record in the cache with the time it expires at. It is active while
at least one whole second remains; a reader that finds it expired writes it back as
inactive. Times are in microseconds. User identifiers contain no colon, so a key of
the cache is its scope, user and name.
-/

namespace Risk

def second : ℤ := 1000000

def minute : ℤ := 60 * second

inductive Scope where
  | global
  | symbol
  | strategy
deriving DecidableEq

structure CooldownKey where
  scope : Scope
  userId : String
  key : String
deriving DecidableEq

structure Cooldown where
  active : Bool
  expiresAt : ℤ
deriving DecidableEq

abbrev Cooldowns := CooldownKey → Option Cooldown

/-- `int((expires_at - now).total_seconds())`. -/
def Cooldown.remaining (cooldown : Cooldown) (now : ℤ) : ℤ :=
  (cooldown.expiresAt - now).tdiv second

/-- Whether `cooldown_state` finds it active. -/
def Cooldown.activeAt (cooldown : Cooldown) (now : ℤ) : Bool :=
  cooldown.active && decide (0 < cooldown.remaining now)

namespace Cooldowns

variable (cooldowns : Cooldowns)

def activeAt (key : CooldownKey) (now : ℤ) : Bool :=
  (cooldowns key).elim false (·.activeAt now)

/-- What `cooldown_state` writes back. -/
def settle (key : CooldownKey) (now : ℤ) : Cooldowns :=
  match cooldowns key with
  | none => cooldowns
  | some cooldown =>
      if cooldown.active ∧ cooldown.remaining now ≤ 0 then
        Function.update cooldowns key (some { cooldown with active := false })
      else cooldowns

/-- `activate_cooldown`. -/
def activate (key : CooldownKey) (minutes : ℤ) (now : ℤ) : Cooldowns :=
  Function.update cooldowns key
    (some { active := 0 < minutes, expiresAt := now + max minutes 0 * minute })

end Cooldowns

section Activity

variable {cooldowns : Cooldowns} {key : CooldownKey} {now later : ℤ}

theorem Cooldown.activeAt_iff {cooldown : Cooldown} :
    cooldown.activeAt now = true ↔
      cooldown.active = true ∧ second ≤ cooldown.expiresAt - now := by
  have whole : 0 < cooldown.remaining now ↔ second ≤ cooldown.expiresAt - now := by
    unfold Cooldown.remaining second
    rcases le_or_gt 0 (cooldown.expiresAt - now) with ahead | past
    · rw [Int.tdiv_eq_ediv_of_nonneg ahead]
      omega
    · have opposite := Int.neg_tdiv (cooldown.expiresAt - now) 1000000
      rw [Int.tdiv_eq_ediv_of_nonneg (by omega)] at opposite
      omega
  unfold activeAt
  rw [Bool.and_eq_true, decide_eq_true_eq, whole]

theorem Cooldown.activeAt_earlier {cooldown : Cooldown} (active : cooldown.activeAt later = true)
    (le : now ≤ later) : cooldown.activeAt now = true := by
  rw [Cooldown.activeAt_iff] at active ⊢
  refine ⟨active.1, ?_⟩
  have remains := active.2
  omega

theorem Cooldowns.settle_activeAt (other : CooldownKey) (le : now ≤ later) :
    (cooldowns.settle other now).activeAt key later = cooldowns.activeAt key later := by
  unfold Cooldowns.settle
  cases found : cooldowns other with
  | none => rfl
  | some cooldown =>
    dsimp only
    split
    · rename_i expired
      by_cases same : key = other
      · subst same
        have inactive : cooldown.activeAt later = false := by
          rw [Bool.eq_false_iff]
          intro active
          have before := Cooldown.activeAt_earlier active le
          unfold Cooldown.activeAt at before
          rw [Bool.and_eq_true, decide_eq_true_eq] at before
          exact absurd before.2 (not_lt.mpr expired.2)
        have before : cooldowns.activeAt key later = false := by
          unfold Cooldowns.activeAt
          rw [found]
          exact inactive
        rw [before]
        simp [Cooldowns.activeAt, Cooldown.activeAt]
      · simp [Cooldowns.activeAt, Function.update_of_ne same]
    · rfl

theorem Cooldowns.activate_activeAt (minutes : ℤ) (positive : 0 < minutes) :
    (cooldowns.activate key minutes now).activeAt key later = true ↔
      later + second ≤ now + minutes * minute := by
  have stored : (cooldowns.activate key minutes now).activeAt key later =
      (⟨true, now + minutes * minute⟩ : Cooldown).activeAt later := by
    simp [Cooldowns.activeAt, Cooldowns.activate, positive, max_eq_left positive.le]
  rw [stored, Cooldown.activeAt_iff]
  constructor
  · rintro ⟨_, remains⟩
    exact le_sub_iff_add_le'.mp remains
  · intro remains
    exact ⟨rfl, le_sub_iff_add_le'.mpr remains⟩

theorem Cooldowns.activate_other {other : CooldownKey} (ne : key ≠ other) (minutes : ℤ) :
    (cooldowns.activate other minutes now).activeAt key later = cooldowns.activeAt key later := by
  simp [Cooldowns.activeAt, Cooldowns.activate, Function.update_of_ne ne]

end Activity

end Risk
