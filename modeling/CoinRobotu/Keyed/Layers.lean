import Mathlib.Data.Option.Basic

/-!
# Records in layers

A record gives some of its keys a value. A record laid over another one decides the keys that it
gives a value, and leaves the others to the one below.
-/

namespace Keyed

universe u v

variable {Key : Type u} {Value : Type v}

def overlay (upper under : Key → Option Value) : Key → Option Value := fun key =>
  (upper key).or (under key)

def Each (asked : Key → Value → Prop) (record : Key → Option Value) : Prop :=
  ∀ key value, record key = some value → asked key value

variable {upper under : Key → Option Value} {key : Key} {value : Value} {asked : Key → Value → Prop}

theorem overlay_of_some (given : upper key = some value) : overlay upper under key = some value := by
  rw [overlay, given, Option.some_or]

theorem overlay_of_none (absent : upper key = none) : overlay upper under key = under key := by
  rw [overlay, absent, Option.none_or]

theorem each_overlay (above : Each asked upper) (below : Each asked under) :
    Each asked (overlay upper under) := by
  intro key value found
  cases given : upper key with
  | none => exact below key value (by rwa [overlay_of_none given] at found)
  | some decided =>
    rw [overlay_of_some given] at found
    exact above key value (given.trans found)

theorem each_overlay_iff (below : Each asked under) :
    Each asked (overlay upper under) ↔ Each asked upper := by
  constructor
  · intro both key value given
    exact both key value (overlay_of_some given)
  · intro above
    exact each_overlay above below

theorem each_empty : Each asked fun _ => none := nofun

end Keyed
