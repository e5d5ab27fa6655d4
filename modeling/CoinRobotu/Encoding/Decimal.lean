import Mathlib.Tactic.Ring

/-!
# Numbers in fixed-point notation

A number of units of the last decimal is written with its whole part, a point and as
many digits as there are decimals.
-/

namespace Encoding

def fixedPoint (decimals units : ℕ) : List Char :=
  Nat.toDigits 10 (units / 10 ^ decimals) ++
    '.' :: (Nat.toDigits 10 (units % 10 ^ decimals)).leftpad decimals '0'

theorem digit_ne {number : ℕ} {character : Char} (inside : character ∈ Nat.toDigits 10 number) :
    character ≠ '.' ∧ character ≠ '-' := by
  have isDigit := Nat.isDigit_of_mem_toDigits (by decide) (by decide) inside
  constructor
  · rintro rfl
    exact absurd isDigit (by decide)
  · rintro rfl
    exact absurd isDigit (by decide)

/-- Two texts without a separator are the same when they are followed by it in the same text. -/
theorem append_separator_inj {separator : Char} {first other rest others : List Char}
    (apart : separator ∉ first) (otherApart : separator ∉ other)
    (same : first ++ separator :: rest = other ++ separator :: others) :
    first = other ∧ rest = others := by
  induction first generalizing other with
  | nil =>
    cases other with
    | nil => exact ⟨rfl, (List.cons.inj same).2⟩
    | cons character other =>
      have isSeparator := (List.cons.inj same).1
      exact absurd (isSeparator ▸ List.mem_cons_self) otherApart
  | cons character first ih =>
    cases other with
    | nil =>
      have isSeparator := (List.cons.inj same).1
      exact absurd (isSeparator ▸ List.mem_cons_self) apart
    | cons another other =>
      obtain ⟨isCharacter, tails⟩ := List.cons.inj same
      obtain ⟨isFirst, isRest⟩ := ih
        (fun inside => apart (List.mem_cons_of_mem _ inside))
        (fun inside => otherApart (List.mem_cons_of_mem _ inside)) tails
      exact ⟨by rw [isCharacter, isFirst], isRest⟩

theorem ofDigitChars_leftpad (decimals number : ℕ) :
    Nat.ofDigitChars 10 ((Nat.toDigits 10 number).leftpad decimals '0') 0 = number := by
  unfold List.leftpad
  rw [Nat.ofDigitChars_append, Nat.ofDigitChars_replicate_zero, mul_zero,
    Nat.ofDigitChars_ten_toDigits]

theorem fixedPoint_injective (decimals : ℕ) : Function.Injective (fixedPoint decimals) := by
  intro units others same
  obtain ⟨wholes, fractions⟩ := append_separator_inj (fun inside => (digit_ne inside).1 rfl)
    (fun inside => (digit_ne inside).1 rfl) same
  have whole : units / 10 ^ decimals = others / 10 ^ decimals := by
    rw [← @Nat.ofDigitChars_ten_toDigits (units / 10 ^ decimals), wholes,
      Nat.ofDigitChars_ten_toDigits]
  have fraction : units % 10 ^ decimals = others % 10 ^ decimals := by
    rw [← ofDigitChars_leftpad decimals (units % 10 ^ decimals), fractions, ofDigitChars_leftpad]
  rw [← Nat.div_add_mod units (10 ^ decimals), whole, fraction, Nat.div_add_mod]

theorem fixedPoint_unsigned (decimals units : ℕ) (rest : List Char) :
    fixedPoint decimals units ≠ '-' :: rest := by
  intro same
  cases digits : Nat.toDigits 10 (units / 10 ^ decimals) with
  | nil => exact Nat.toDigits_ne_nil digits
  | cons first others =>
    unfold fixedPoint at same
    rw [digits, List.cons_append] at same
    have isSign := (List.cons.inj same).1
    have inside : first ∈ Nat.toDigits 10 (units / 10 ^ decimals) := by
      rw [digits]
      exact List.mem_cons_self
    exact (digit_ne inside).2 isSign

end Encoding
