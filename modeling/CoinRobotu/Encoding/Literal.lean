import CoinRobotu.Encoding.Decimal
import CoinRobotu.Numeric.Significant

/-!
# Unsigned literals

A literal has some digits and, behind a point, some more.
-/

namespace Encoding

/-- The decimal digits of a character set, which in ASCII are the usual ones. -/
structure Decimals where
  digit : Char → Option ℕ
  digit_ascii : ∀ character : Char, character.isDigit → digit character =
    some (character.toNat - '0'.toNat)
  digit_other : ∀ character : Char, character.toNat < 128 → character.isDigit = false →
    digit character = none

namespace Decimals

variable (decimals : Decimals)

def isDigit (character : Char) : Bool := (decimals.digit character).isSome

def number (digits : List Char) : ℕ :=
  digits.foldl (fun number character => 10 * number + (decimals.digit character).getD 0) 0

/-- The literal at the front of a text, and what follows it. -/
def takeLiteral (text : List Char) : Option (List Char × List Char) :=
  let whole := text.takeWhile decimals.isDigit
  if whole = [] then none
  else
    match text.dropWhile decimals.isDigit with
    | '.' :: more =>
      let fraction := more.takeWhile decimals.isDigit
      if fraction = [] then some (whole, '.' :: more)
      else some (whole ++ '.' :: fraction, more.dropWhile decimals.isDigit)
    | rest => some (whole, rest)

/-- The value of a literal that reaches to the end of a text. -/
def literalValue (text : List Char) : Option ℚ :=
  let whole := text.takeWhile decimals.isDigit
  if whole = [] then none
  else
    match text.dropWhile decimals.isDigit with
    | [] => some (decimals.number whole)
    | '.' :: fraction =>
      if fraction ≠ [] ∧ fraction.all decimals.isDigit then
        some (decimals.number (whole ++ fraction) / 10 ^ fraction.length)
      else none
    | _ => none

/-- A text that is a literal as a whole. -/
inductive IsLiteral : List Char → Prop
  | whole {digits : List Char} : digits ≠ [] → digits.all decimals.isDigit → IsLiteral digits
  | fraction {digits more : List Char} : digits ≠ [] → digits.all decimals.isDigit →
      more ≠ [] → more.all decimals.isDigit → IsLiteral (digits ++ '.' :: more)

variable {decimals}

theorem not_isDigit_point : decimals.isDigit '.' = false := by
  unfold isDigit
  rw [decimals.digit_other '.' (by decide) (by decide)]
  rfl

theorem isDigit_ascii {character : Char} (isDigit : character.isDigit) :
    decimals.isDigit character := by
  unfold Decimals.isDigit
  rw [decimals.digit_ascii character isDigit]
  rfl

theorem takeWhile_digits {digits rest : List Char} (all : digits.all decimals.isDigit)
    (ends : ∀ character ∈ rest.head?, decimals.isDigit character = false) :
    (digits ++ rest).takeWhile decimals.isDigit = digits ∧
      (digits ++ rest).dropWhile decimals.isDigit = rest := by
  rw [List.all_eq_true] at all
  have none : rest.takeWhile decimals.isDigit = [] ∧ rest.dropWhile decimals.isDigit = rest := by
    cases rest with
    | nil => exact ⟨rfl, rfl⟩
    | cons character others =>
      have other := ends character rfl
      rw [List.takeWhile_cons, List.dropWhile_cons, other]
      exact ⟨rfl, rfl⟩
  rw [List.takeWhile_append_of_pos all, List.dropWhile_append_of_pos all, none.1, none.2,
    List.append_nil]
  exact ⟨rfl, rfl⟩

variable {digits : List Char}

theorem takeWhile_all (all : digits.all decimals.isDigit) :
    digits.takeWhile decimals.isDigit = digits ∧ digits.dropWhile decimals.isDigit = [] := by
  have split := @takeWhile_digits decimals digits [] all (by rintro character ⟨⟩)
  rwa [List.append_nil] at split

theorem takeWhile_point (all : digits.all decimals.isDigit)
    (more : List Char) :
    (digits ++ '.' :: more).takeWhile decimals.isDigit = digits ∧
      (digits ++ '.' :: more).dropWhile decimals.isDigit = '.' :: more :=
  takeWhile_digits all (by
    rintro character ⟨⟩
    exact not_isDigit_point)

def EndsLiteral (decimals : Decimals) (rest : List Char) : Prop :=
  ∀ character ∈ rest.head?, decimals.isDigit character = false ∧ character ≠ '.'

theorem IsLiteral.take {text rest : List Char} (isLiteral : IsLiteral decimals text)
    (ends : EndsLiteral decimals rest) :
    decimals.takeLiteral (text ++ rest) = some (text, rest) := by
  have endsDigits := fun character head => (ends character head).1
  unfold takeLiteral
  dsimp only
  cases isLiteral with
  | whole nonempty all =>
    obtain ⟨taken, dropped⟩ := takeWhile_digits all endsDigits
    rw [taken, dropped, if_neg nonempty]
    split
    · next point more => exact absurd rfl (ends '.' rfl).2
    · rfl
  | @fraction digits more nonempty all more_ne allMore =>
    obtain ⟨taken, dropped⟩ := takeWhile_point all (more ++ rest)
    obtain ⟨takenMore, droppedMore⟩ := takeWhile_digits allMore endsDigits
    rw [List.append_assoc, List.cons_append, taken, dropped, if_neg nonempty]
    change (if (more ++ rest).takeWhile decimals.isDigit = [] then _ else _) = _
    rw [takenMore, droppedMore, if_neg more_ne]

theorem takeLiteral_sound {text token rest : List Char}
    (takes : decimals.takeLiteral text = some (token, rest)) :
    text = token ++ rest ∧ IsLiteral decimals token := by
  have split := List.takeWhile_append_dropWhile (p := decimals.isDigit) (l := text)
  have all := List.all_takeWhile (p := decimals.isDigit) (l := text)
  unfold takeLiteral at takes
  dsimp only at takes
  split at takes
  · cases takes
  · next nonempty =>
    split at takes
    · next more isRest =>
      have splitMore := List.takeWhile_append_dropWhile (p := decimals.isDigit) (l := more)
      have allMore := List.all_takeWhile (p := decimals.isDigit) (l := more)
      split at takes
      · cases takes
        rw [← isRest]
        exact ⟨split.symm, .whole nonempty all⟩
      · next more_ne =>
        cases takes
        refine ⟨?_, .fraction nonempty all more_ne allMore⟩
        rw [List.append_assoc, List.cons_append, splitMore, ← isRest, split]
    · cases takes
      exact ⟨split.symm, .whole nonempty all⟩

variable {text : List Char}

theorem IsLiteral.first (isLiteral : IsLiteral decimals text) :
    ∃ first others, text = first :: others ∧ decimals.isDigit first := by
  cases isLiteral with
  | whole nonempty all =>
    obtain ⟨first, others, rfl⟩ := List.exists_cons_of_ne_nil nonempty
    exact ⟨first, others, rfl, List.all_eq_true.mp all first List.mem_cons_self⟩
  | fraction nonempty all =>
    obtain ⟨first, others, rfl⟩ := List.exists_cons_of_ne_nil nonempty
    exact ⟨first, _, rfl, List.all_eq_true.mp all first List.mem_cons_self⟩

theorem IsLiteral.parts (isLiteral : IsLiteral decimals text) {character : Char}
    (inside : character ∈ text) : decimals.isDigit character ∨ character = '.' := by
  cases isLiteral with
  | whole nonempty all => exact .inl (List.all_eq_true.mp all character inside)
  | fraction nonempty all more_ne allMore =>
    rcases List.mem_append.mp inside with first | further
    · exact .inl (List.all_eq_true.mp all character first)
    · exact (List.mem_cons.mp further).elim .inr fun last =>
        .inl (List.all_eq_true.mp allMore character last)

theorem IsLiteral.value (isLiteral : IsLiteral decimals text) :
    ∃ value, decimals.literalValue text = some value := by
  unfold literalValue
  dsimp only
  cases isLiteral with
  | whole nonempty all =>
    obtain ⟨taken, dropped⟩ := takeWhile_all all
    rw [taken, dropped, if_neg nonempty]
    exact ⟨_, rfl⟩
  | @fraction digits more nonempty all more_ne allMore =>
    obtain ⟨taken, dropped⟩ := takeWhile_point all more
    rw [taken, dropped, if_neg nonempty]
    exact ⟨_, if_pos ⟨more_ne, allMore⟩⟩

theorem literalValue_nonneg {value : ℚ}
    (isValue : decimals.literalValue text = some value) : 0 ≤ value := by
  unfold literalValue at isValue
  dsimp only at isValue
  split at isValue
  · cases isValue
  · split at isValue
    · cases isValue
      exact Nat.cast_nonneg _
    · split at isValue
      · cases isValue
        exact div_nonneg (Nat.cast_nonneg _) (pow_nonneg (by norm_num) _)
      · cases isValue
    · cases isValue

theorem number_ascii (all : ∀ character ∈ digits, character.isDigit) :
    decimals.number digits = Nat.ofDigitChars 10 digits 0 := by
  unfold number
  rw [Nat.ofDigitChars_eq_foldl]
  apply List.foldl_ext
  intro number character inside
  rw [decimals.digit_ascii character (all character inside)]
  rfl

end Decimals

/-- So many units of the last decimal, without zeros at the end of the fraction. -/
def stripZeros : ℕ → ℕ → ℕ × ℕ
  | 0, units => (0, units)
  | decimals + 1, units =>
    if units % 10 = 0 then stripZeros decimals (units / 10) else (decimals + 1, units)

theorem stripZeros_value (decimals units : ℕ) :
    ((stripZeros decimals units).2 : ℚ) / 10 ^ (stripZeros decimals units).1 =
      units / 10 ^ decimals := by
  induction decimals generalizing units with
  | zero => rfl
  | succ decimals ih =>
    rw [stripZeros]
    split
    · next zero =>
      have tenfold : (units : ℚ) = 10 * (units / 10 : ℕ) := by
        exact_mod_cast (Nat.mul_div_cancel' (Nat.dvd_of_mod_eq_zero zero)).symm
      rw [ih, tenfold, pow_succ]
      field_simp
    · rfl

/-- So many units of the last decimal, with a fraction only where there are decimals. -/
def writeUnits (decimals units : ℕ) : List Char :=
  if decimals = 0 then Nat.toDigits 10 units else fixedPoint decimals units

theorem isDigit_leftpad {decimals number : ℕ} {character : Char}
    (inside : character ∈ (Nat.toDigits 10 number).leftpad decimals '0') : character.isDigit := by
  rw [List.leftpad, List.mem_append] at inside
  rcases inside with zero | digit
  · rw [List.eq_of_mem_replicate zero]
    rfl
  · exact Nat.isDigit_of_mem_toDigits (by decide) (by decide) digit

theorem isDigit_toDigits {number : ℕ} {character : Char}
    (inside : character ∈ Nat.toDigits 10 number) : character.isDigit :=
  Nat.isDigit_of_mem_toDigits (by decide) (by decide) inside

theorem length_leftpad {decimals number : ℕ} (few : number < 10 ^ decimals)
    (some : decimals ≠ 0) : ((Nat.toDigits 10 number).leftpad decimals '0').length = decimals := by
  rw [List.length_leftpad]
  exact max_eq_left ((Nat.length_toDigits_le_iff (by decide) (Nat.pos_of_ne_zero some)).mpr few)

variable {decimals : Decimals}

theorem all_isDigit_toDigits (decimals : Decimals) (number : ℕ) :
    (Nat.toDigits 10 number).all decimals.isDigit :=
  List.all_eq_true.mpr fun _ inside => Decimals.isDigit_ascii (isDigit_toDigits inside)

theorem isLiteral_writeUnits (places units : ℕ) : decimals.IsLiteral (writeUnits places units) := by
  unfold writeUnits
  split
  · exact .whole Nat.toDigits_ne_nil (all_isDigit_toDigits decimals _)
  · refine .fraction Nat.toDigits_ne_nil (all_isDigit_toDigits decimals _) ?_
      (List.all_eq_true.mpr fun _ inside => Decimals.isDigit_ascii (isDigit_leftpad inside))
    exact List.append_ne_nil_of_right_ne_nil _ Nat.toDigits_ne_nil

theorem literalValue_writeUnits (places units : ℕ) :
    decimals.literalValue (writeUnits places units) = some ((units : ℚ) / 10 ^ places) := by
  unfold writeUnits
  split
  · next none =>
    subst none
    obtain ⟨taken, dropped⟩ := Decimals.takeWhile_all (all_isDigit_toDigits decimals units)
    unfold Decimals.literalValue
    dsimp only
    rw [taken, dropped, if_neg Nat.toDigits_ne_nil, Decimals.number_ascii fun _ =>
      isDigit_toDigits, Nat.ofDigitChars_ten_toDigits, pow_zero, div_one]
  · next some =>
    have few : units % 10 ^ places < 10 ^ places := Nat.mod_lt _ (Nat.pow_pos (by decide))
    have allMore : ((Nat.toDigits 10 (units % 10 ^ places)).leftpad places '0').all
        decimals.isDigit :=
      List.all_eq_true.mpr fun _ inside => Decimals.isDigit_ascii (isDigit_leftpad inside)
    obtain ⟨taken, dropped⟩ := Decimals.takeWhile_point
      (all_isDigit_toDigits decimals (units / 10 ^ places))
      ((Nat.toDigits 10 (units % 10 ^ places)).leftpad places '0')
    have isNumber : decimals.number (Nat.toDigits 10 (units / 10 ^ places) ++
        (Nat.toDigits 10 (units % 10 ^ places)).leftpad places '0') = units := by
      have isDigit : ∀ character ∈ Nat.toDigits 10 (units / 10 ^ places) ++
          (Nat.toDigits 10 (units % 10 ^ places)).leftpad places '0', character.isDigit := by
        intro character inside
        exact (List.mem_append.mp inside).elim isDigit_toDigits isDigit_leftpad
      rw [Decimals.number_ascii isDigit, Nat.ofDigitChars_append, Nat.ofDigitChars_ten_toDigits,
        Nat.ofDigitChars_eq_ofDigitChars_zero, ofDigitChars_leftpad, length_leftpad few some,
        Nat.div_add_mod]
    unfold Decimals.literalValue fixedPoint
    dsimp only
    rw [taken, dropped, if_neg Nat.toDigits_ne_nil]
    change (if _ then _ else _) = _
    rw [if_pos ⟨List.append_ne_nil_of_right_ne_nil _ Nat.toDigits_ne_nil, allMore⟩, isNumber,
      length_leftpad few some]

/-!
## The general format

A double is written with six significant digits and without zeros at the end, behind a power of
ten where the first digit is far from the point. The text is read as a literal just when it has no
power of ten, and then it is the literal of the rounded value.
-/

open Numeric (Double significant significant_range)

def writePower (exponent : ℤ) : List Char :=
  'e' :: (if 0 ≤ exponent then '+' else '-') :: (Nat.toDigits 10 exponent.natAbs).leftpad 2 '0'

def writeStripped (decimals units : ℕ) : List Char :=
  writeUnits (stripZeros decimals units).1 (stripZeros decimals units).2

/-- `format(value, "g")`. -/
def writeGeneral : Double → List Char
  | .infinity => ['i', 'n', 'f']
  | .nan => ['n', 'a', 'n']
  | .finite value =>
    if value = 0 then ['0']
    else
      let (units, exponent) := significant 5 value
      if -4 ≤ exponent ∧ exponent < 6 then writeStripped (5 - exponent).toNat units.toNat
      else writeStripped 5 units.toNat ++ writePower exponent

variable {decimals : Decimals} {value : ℚ}

theorem literalValue_writeStripped (places units : ℕ) :
    decimals.literalValue (writeStripped places units) = some ((units : ℚ) / 10 ^ places) := by
  rw [writeStripped, literalValue_writeUnits, stripZeros_value]

theorem writeGeneral_near (positive : 0 < value) {units : ℕ} {exponent : ℤ}
    (rounded : significant 5 value = ((units : ℤ), exponent)) (small : -4 ≤ exponent)
    (large : exponent < 6) :
    writeGeneral (.finite value) = writeStripped (5 - exponent).toNat units := by
  unfold writeGeneral
  dsimp only
  rw [if_neg positive.ne', rounded]
  exact if_pos ⟨small, large⟩

theorem writeGeneral_far (positive : 0 < value) {units : ℤ} {exponent : ℤ}
    (rounded : significant 5 value = (units, exponent)) (far : ¬(-4 ≤ exponent ∧ exponent < 6)) :
    writeGeneral (.finite value) = writeStripped 5 units.toNat ++ writePower exponent := by
  unfold writeGeneral
  dsimp only
  rw [if_neg positive.ne', rounded]
  exact if_neg far

theorem units_div_decimals {exponent : ℤ} (large : exponent < 6) (units : ℕ) :
    (units : ℚ) / 10 ^ (5 - exponent).toNat = units * 10 ^ (exponent - (5 : ℕ)) := by
  have places : ((5 - exponent).toNat : ℤ) = 5 - exponent := Int.toNat_of_nonneg (by omega)
  rw [div_eq_mul_inv, ← zpow_natCast, places, ← zpow_neg]
  congr 2
  push_cast
  ring

end Encoding
