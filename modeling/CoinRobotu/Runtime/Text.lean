import Mathlib.Data.List.DropRight

/-!
# Python text

The status words of the repository are compared after `strip`, `upper` and
`lower`. The results are only ever compared with ASCII words, so a character
whose other case is not ASCII is left as it is; the few characters outside
ASCII whose other case is ASCII are mapped as Python maps them.
-/

namespace Runtime

/-- The characters `str.strip` removes. -/
def isSpace (character : Char) : Bool :=
  let code := character.toNat
  (9 ≤ code && code ≤ 13) || (28 ≤ code && code ≤ 32) || code == 0x85 || code == 0xA0 ||
    code == 0x1680 || (0x2000 ≤ code && code ≤ 0x200A) || code == 0x2028 || code == 0x2029 ||
    code == 0x202F || code == 0x205F || code == 0x3000

def upperChar (character : Char) : List Char :=
  match character.toNat with
  | 0xDF => ['S', 'S']
  | 0x131 => ['I']
  | 0x17F => ['S']
  | 0xFB00 => ['F', 'F']
  | 0xFB01 => ['F', 'I']
  | 0xFB02 => ['F', 'L']
  | 0xFB03 => ['F', 'F', 'I']
  | 0xFB04 => ['F', 'F', 'L']
  | 0xFB05 => ['S', 'T']
  | 0xFB06 => ['S', 'T']
  | _ => [character.toUpper]

def lowerChar (character : Char) : Char :=
  if character.toNat = 0x212A then 'k' else character.toLower

/-- `str.strip()`. -/
@[irreducible] def strip (text : String) : String :=
  String.ofList ((text.toList.dropWhile isSpace).reverse.dropWhile isSpace).reverse

/-- `str.upper()`. -/
@[irreducible] def upper (text : String) : String := String.ofList (text.toList.flatMap upperChar)

/-- `str.lower()`. -/
@[irreducible] def lower (text : String) : String := String.ofList (text.toList.map lowerChar)

theorem dropWhile_eq_nil_of_all {α : Type} {matching : α → Bool} {values : List α}
    (all : ∀ value ∈ values.dropWhile matching, matching value) :
    values.dropWhile matching = [] := by
  have again := List.dropWhile_eq_nil_iff.mpr all
  rwa [List.dropWhile_idempotent] at again

theorem strip_eq_empty {text : String} :
    strip text = "" ↔ ∀ character ∈ text.toList, isSpace character := by
  unfold strip
  rw [← String.toList_inj, String.toList_ofList]
  simp only [String.toList_empty, List.reverse_eq_nil_iff, List.dropWhile_eq_nil_iff,
    List.mem_reverse]
  constructor
  · exact fun all => List.dropWhile_eq_nil_iff.mp (dropWhile_eq_nil_of_all all)
  · intro all
    rw [List.dropWhile_eq_nil_iff.mpr all]
    exact nofun

theorem strip_strip_eq_empty {text : String} (empty : strip (strip text) = "") :
    strip text = "" := by
  have all := strip_eq_empty.mp empty
  unfold strip at all ⊢
  rw [String.toList_ofList] at all
  rw [← String.toList_inj, String.toList_ofList, String.toList_empty, List.reverse_eq_nil_iff]
  exact dropWhile_eq_nil_of_all fun character inside =>
    all character (List.mem_reverse.mpr inside)

theorem dropWhile_of_head {α : Type} {matching : α → Bool} {values : List α}
    (other : ∀ value ∈ values.head?, matching value = false) :
    values.dropWhile matching = values := by
  cases values with
  | nil => rfl
  | cons value rest =>
    rw [List.dropWhile_cons, other value rfl]
    exact if_neg Bool.false_ne_true

theorem strip_eq_self {text : String} (first : ∀ character ∈ text.toList.head?,
      isSpace character = false)
    (last : ∀ character ∈ text.toList.getLast?, isSpace character = false) :
    strip text = text := by
  unfold strip
  rw [dropWhile_of_head first, dropWhile_of_head (by rwa [List.head?_reverse]),
    List.reverse_reverse, String.ofList_toList]

theorem toUpper_cases (character : Char) :
    character.toUpper = character ∨
      65 ≤ character.toUpper.toNat ∧ character.toUpper.toNat ≤ 90 := by
  unfold Char.toUpper
  split
  · rename_i lowercase
    right
    have low : 97 ≤ character.val.toNat := lowercase.1
    have high : character.val.toNat ≤ 122 := lowercase.2
    have shift : ('A'.val - 'a'.val).toNat = 2 ^ 32 - 32 := by decide
    have moved : (character.val + ('A'.val - 'a'.val)).toNat = character.val.toNat - 32 := by
      rw [UInt32.toNat_add, shift]
      omega
    simp only [Char.toNat, moved]
    omega
  · exact .inl rfl

theorem upperChar_capital {character : Char} (low : 65 ≤ character.toNat)
    (high : character.toNat ≤ 90) : upperChar character = [character] := by
  have fixed : character.toUpper = character := by
    unfold Char.toUpper
    rw [dif_neg]
    rintro ⟨lowercase, _⟩
    have above : 97 ≤ character.toNat := lowercase
    omega
  unfold upperChar
  split
  all_goals first | omega | rw [fixed]

/-- Upper case is left alone by `upper`. -/
theorem upperChar_upper {character other : Char} (inside : other ∈ upperChar character) :
    upperChar other = [other] := by
  unfold upperChar at inside
  split at inside
  all_goals try
    simp only [List.mem_cons, List.not_mem_nil, or_false] at inside
    rcases inside with rfl | rfl | rfl <;> decide
  have isUpper := List.mem_singleton.mp inside
  rcases toUpper_cases character with same | ⟨low, high⟩
  · rw [isUpper, same]
    unfold upperChar
    split
    all_goals first | contradiction | rw [same]
  · rw [isUpper]
    exact upperChar_capital low high

theorem upper_upper (text : String) : upper (upper text) = upper text := by
  unfold upper
  rw [String.toList_ofList, List.flatMap_assoc]
  congr 1
  apply List.flatMap_congr
  intro character _
  have fixed : (upperChar character).flatMap upperChar =
      (upperChar character).flatMap fun other => [other] := by
    apply List.flatMap_congr
    intro other inside
    exact upperChar_upper inside
  rw [fixed, List.flatMap_singleton']

theorem lowerChar_cases (character : Char) : lowerChar character = character ∨
    97 ≤ (lowerChar character).toNat ∧ (lowerChar character).toNat ≤ 122 := by
  unfold lowerChar
  split
  · exact .inr (by decide)
  · unfold Char.toLower
    split
    · rename_i capital
      right
      have low : 65 ≤ character.val.toNat := capital.1
      have high : character.val.toNat ≤ 90 := capital.2
      have shift : ('a'.val - 'A'.val).toNat = 32 := by decide
      have moved : (character.val + ('a'.val - 'A'.val)).toNat = character.val.toNat + 32 := by
        rw [UInt32.toNat_add, shift]
        omega
      simp only [Char.toNat, moved]
      omega
    · exact .inl rfl

theorem lowerChar_small {character : Char} (low : 97 ≤ character.toNat)
    (high : character.toNat ≤ 122) : lowerChar character = character := by
  unfold lowerChar
  rw [if_neg (by omega)]
  unfold Char.toLower
  rw [dif_neg]
  rintro ⟨_, capital⟩
  have below : character.toNat ≤ 90 := capital
  omega

theorem lower_lower (text : String) : lower (lower text) = lower text := by
  unfold lower
  rw [String.toList_ofList, List.map_map]
  congr 1
  apply List.map_congr_left
  intro character _
  rcases lowerChar_cases character with same | ⟨low, high⟩
  · rw [Function.comp_apply, same, same]
  · exact lowerChar_small low high

/-- `not value` for an optional text: absent or empty. -/
def blank (value : Option String) : Bool := value.getD "" == ""

/-- `value or other` for texts. -/
def orElse (value : Option String) (other : String) : String :=
  if blank value then other else value.getD ""

end Runtime
