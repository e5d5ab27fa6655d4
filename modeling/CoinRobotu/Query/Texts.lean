import CoinRobotu.Query.Rendering

/-!
# Texts of comparisons

A comparison carries a text that shows its number in the general format.
-/

namespace Query

open Encoding (writeGeneral writeStripped writePower)
open Numeric (Double toDouble roundBinary significant HasSignificant)
open Parsing (Chained)
open Runtime (lower upper strip isSpace)

def Node.comparisons : Node → List Comparison
  | .comparison leaf => [leaf]
  | .logical _ left right => left.comparisons ++ right.comparisons

/-- The text of a comparison is read as a comparison of the same field, operator and value. -/
def Comparison.RoundTrips (unicode : Unicode) (comparison : Comparison) : Prop :=
  ∃ again, parseQueryExpression unicode (some comparison.text) = .ok (.comparison again) ∧
    again.field = comparison.field ∧ again.operator = comparison.operator ∧
    again.value = comparison.value ∧ again.rhsField = comparison.rhsField

/-- A value that six digits without a power of ten show. -/
def Shown : Double → Prop
  | .infinity => True
  | .nan => True
  | .finite value => value = 0 ∨ ∃ decimal, HasSignificant 5 decimal ∧ 1 / 10 ^ 4 ≤ decimal ∧
      decimal < 10 ^ 6 ∧ toDouble decimal = .finite value

variable {unicode : Unicode}

/-- A comparison that is read from two tokens around an operator. -/
def ReadFrom (unicode : Unicode) (tokens : List String) (comparison : Comparison) : Prop :=
  ∃ field operator value, field ∈ tokens ∧ value ∈ tokens ∧
    upper (lower field) ∉ ["AND", "OR"] ∧ isSupportedField unicode (lower field) ∧
    operator ∈ allowedComparisonOperators ∧
    comparisonOf unicode (lower field) operator value = some comparison

theorem ReadFrom.mono {tokens others : List String} {comparison : Comparison}
    (subset : tokens ⊆ others) (read : ReadFrom unicode tokens comparison) :
    ReadFrom unicode others comparison := by
  obtain ⟨field, operator, value, isField, isValue, facts⟩ := read
  exact ⟨field, operator, value, subset isField, subset isValue, facts⟩

def AllRead (unicode : Unicode) (tokens : List String) (node : Node) : Prop :=
  ∀ comparison ∈ node.comparisons, ReadFrom unicode tokens comparison

theorem AllRead.logical {tokens others : List String} {token : String} {node right : Node}
    (operator : Logical) (left : AllRead unicode tokens node)
    (further : AllRead unicode others right) :
    AllRead unicode (tokens ++ token :: others) (.logical operator node right) := by
  intro comparison inside
  rcases List.mem_append.mp inside with first | second
  · exact (left comparison first).mono (List.subset_append_left _ _)
  · exact (further comparison second).mono
      (List.subset_append_of_subset_right _ (List.subset_cons_self _ _))

theorem Factor.allRead {tokens : List String} {node : Node} (factor : Factor unicode tokens node) :
    AllRead unicode tokens node := by
  induction isLength : tokens.length using Nat.strongRecOn generalizing tokens node with
  | _ length ih =>
    cases factor with
    | @comparison field operator value comparison notKeyword supported allowed isComparison =>
      intro each inside
      obtain rfl := List.mem_singleton.mp inside
      exact ⟨field, operator, value, by simp, by simp, notKeyword, supported, allowed, isComparison⟩
    | @parentheses inner node isOr =>
      rw [List.length_cons, List.length_append, List.length_singleton] at isLength
      have factors (used : List String) (node : Node) (isFactor : Factor unicode used node)
          (short : used.length ≤ inner.length) : AllRead unicode used node :=
        ih used.length (by omega) isFactor rfl
      have conjunctions (used : List String) (node : Node) (isAnd : AndExpression unicode used node)
          (short : used.length ≤ inner.length) : AllRead unicode used node :=
        isAnd.lift factors (fun _ _ _ _ _ => .logical .and) short
      have read := isOr.lift conjunctions (fun _ _ _ _ _ => .logical .or) le_rfl
      exact fun each inside => (read each inside).mono
        (List.subset_cons_of_subset _ (List.subset_append_left _ _))

theorem OrExpression.allRead {tokens : List String} {node : Node}
    (isOr : OrExpression unicode tokens node) : AllRead unicode tokens node := by
  have conjunctions (used : List String) (node : Node) (isAnd : AndExpression unicode used node)
      (_ : used.length ≤ tokens.length) : AllRead unicode used node :=
    isAnd.lift (fun _ _ isFactor _ => isFactor.allRead) (fun _ _ _ _ _ => .logical .and) le_rfl
  exact isOr.lift conjunctions (fun _ _ _ _ _ => .logical .or) le_rfl

theorem exists_tokens {query : Option String} {node : Node} {comparison : Comparison}
    (parsed : parseQueryExpression unicode query = .ok node)
    (inside : comparison ∈ node.comparisons) :
    ∃ tokens : List String, (∀ token ∈ tokens, IsToken unicode token.toList) ∧
      ReadFrom unicode tokens comparison := by
  unfold parseQueryExpression at parsed
  cases isTokens : tokenizeQueryExpression unicode query with
  | error failure =>
    rw [isTokens] at parsed
    cases parsed
  | ok tokens =>
    rw [isTokens] at parsed
    refine ⟨values tokens, ?_, OrExpression.allRead (parse_iff.mp parsed) comparison inside⟩
    unfold tokenizeQueryExpression at isTokens
    dsimp only at isTokens
    split at isTokens
    · cases isTokens
    · intro token isValue
      obtain ⟨each, isEach, rfl⟩ := List.mem_map.mp isValue
      exact (tokenizeFrom_sound isTokens).1 each isEach

section Names

theorem toList_lower (text : String) : (lower text).toList = text.toList.map Runtime.lowerChar := by
  unfold lower
  rw [String.toList_ofList]

variable {character : Char}

theorem isLetter_small (low : 97 ≤ character.toNat)
    (high : character.toNat ≤ 122) : isLetter character := by
  have small : character.isLower := by
    unfold Char.isLower
    rw [Bool.and_eq_true, decide_eq_true_eq, decide_eq_true_eq]
    exact ⟨low, high⟩
  unfold isLetter Char.isAlpha
  rw [small, Bool.or_true]
  rfl

theorem isLetter_lowerChar (letter : isLetter character) :
    isLetter (Runtime.lowerChar character) := by
  rcases Runtime.lowerChar_cases character with same | ⟨low, high⟩
  · rwa [same]
  · exact isLetter_small low high

theorem isIdentifier_lowerChar (isPart : isIdentifier character) :
    isIdentifier (Runtime.lowerChar character) := by
  rcases Runtime.lowerChar_cases character with same | ⟨low, high⟩
  · rwa [same]
  · exact isIdentifier_letter (isLetter_small low high)

theorem IsName.lower {text : String} (isName : IsName text.toList) :
    IsName (Runtime.lower text).toList := by
  obtain ⟨first, rest, isText, letter, all⟩ := isName
  rw [toList_lower, isText]
  refine ⟨_, _, rfl, isLetter_lowerChar letter, List.all_eq_true.mpr fun character inside => ?_⟩
  obtain ⟨before, isBefore, rfl⟩ := List.mem_map.mp inside
  exact isIdentifier_lowerChar (List.all_eq_true.mp all before isBefore)

theorem isLetter_of_matchesLetter {letter character : Char} (isLetter' : isLetter letter)
    (isMatch : matchesLetter letter character) : isLetter character := by
  unfold matchesLetter at isMatch
  simp only [Bool.or_eq_true, Bool.and_eq_true, decide_eq_true_eq] at isMatch
  rcases isMatch with (same | ⟨-, code⟩) | ⟨-, code⟩
  · rwa [same]
  · simp [isLetter, code]
  · simp [isLetter, code]

theorem supported_first {field : String} (supported : isSupportedField unicode field) :
    ∃ first rest, (lower (strip field)).toList = first :: rest ∧ isLetter first := by
  unfold isSupportedField at supported
  dsimp only at supported
  rw [Bool.or_eq_true, decide_eq_true_eq] at supported
  rcases supported with allowed | dynamic
  · have letters : ∀ name ∈ allowedQueryFields, ∃ first rest, name.toList = first :: rest ∧
        isLetter first := by
      simp only [allowedQueryFields, List.forall_mem_cons]
      refine ⟨?_, ?_, ?_, ?_, ?_, ?_, ?_, ?_, ?_, ?_, ?_, ?_, ?_, ?_, ?_, ?_,
        nofun⟩
      all_goals exact ⟨_, _, rfl, by decide⟩
    exact letters _ allowed
  · unfold matchesDynamicField at dynamic
    obtain ⟨word, inside, isMatch⟩ := List.any_eq_true.mp dynamic
    simp only [Bool.and_eq_true] at isMatch
    have matchesFirst := isMatch.1.1.1
    have wordFirst : periodWords.all fun word => word.head?.all isLetter := by decide
    cases isText : (lower (strip field)).toList with
    | nil =>
      rw [isText] at isMatch
      simp at isMatch
    | cons first rest =>
      refine ⟨first, rest, rfl, ?_⟩
      cases word with
      | nil => exact absurd inside (by decide)
      | cons letter letters =>
        rw [isText] at matchesFirst
        simp only [matchesWord, List.length_cons, List.take_succ_cons, List.zip_cons_cons,
          List.all_cons, Bool.and_eq_true] at matchesFirst
        have letterFirst : isLetter letter := List.all_eq_true.mp wordFirst _ inside
        exact isLetter_of_matchesLetter letterFirst matchesFirst.2.1

theorem isName_of_supported {token : String} (isToken : IsToken unicode token.toList)
    (supported : isSupportedField unicode (lower token)) : IsName (lower token).toList := by
  obtain ⟨first, rest, isText, letter⟩ := supported_first supported
  generalize isChars : token.toList = text at isToken
  cases isToken with
  | operator inside =>
    have same : ∀ operator ∈ operators,
        lower (strip (lower (String.ofList operator))) = String.ofList operator := by
      decide +kernel
    have isOperator := same text inside
    rw [← isChars, String.ofList_toList] at isOperator
    rw [isOperator, isChars] at isText
    have apart := (operator_head unicode inside (by rw [isText]; rfl)).1
    rw [isIdentifier_letter letter] at apart
    cases apart
  | @identifier head tail isHead all =>
    exact IsName.lower ⟨head, tail, isChars, isHead, all⟩
  | literal isLiteral =>
    rw [← isChars] at isLiteral
    have same := lower_literal isLiteral
    have isDigitToken : IsToken unicode token.toList := .literal isLiteral
    rw [same, isDigitToken.strip, same] at isText
    obtain ⟨digit, others, isDigits, isDigit⟩ := isLiteral.first
    rw [isText] at isDigits
    cases isDigits
    unfold Encoding.Decimals.isDigit at isDigit
    rw [unicode.digit_letter first letter] at isDigit
    cases isDigit

end Names

section Reading

variable {field operator value : String}

theorem parse_comparison {comparison : Comparison}
    (wellFormed : (Expression.comparison field operator value).WellFormed unicode)
    (isComparison : comparisonOf unicode (lower field) operator value = some comparison) :
    parseQueryExpression unicode (some (field ++ " " ++ operator ++ " " ++ value)) =
      .ok (.comparison comparison) := by
  have isText : String.ofList (Expression.comparison field operator value).write =
      field ++ " " ++ operator ++ " " ++ value := by
    rw [← String.toList_inj]
    simp [Expression.write]
  obtain ⟨tokens, isTokens, areValues⟩ := tokenize_write wellFormed
  obtain ⟨-, notKeyword, supported, allowed, -⟩ := wellFormed
  rw [isText] at isTokens
  unfold parseQueryExpression
  rw [isTokens]
  dsimp only
  rw [areValues]
  exact parse_iff.mpr (.one (.one (.comparison notKeyword supported allowed isComparison)))

theorem parse_not_part {text : String} {node : Node} {character : Char}
    (inside : character ∈ text.toList) (other : ¬IsPart unicode character)
    (stripped : strip text = text) : parseQueryExpression unicode (some text) ≠ .ok node := by
  intro parsed
  unfold parseQueryExpression tokenizeQueryExpression at parsed
  dsimp only [Option.getD_some] at parsed
  rw [stripped] at parsed
  by_cases empty : text = ""
  · rw [if_pos empty] at parsed
    cases parsed
  · rw [if_neg empty] at parsed
    cases isTokens : tokenizeFrom unicode 0 text.toList with
    | error failure =>
      rw [isTokens] at parsed
      cases parsed
    | ok tokens => exact other ((tokenizeFrom_sound isTokens).2 character inside)

theorem not_isPart_sign {character : Char} (isSign : character = '+' ∨ character = '-') :
    ¬IsPart unicode character := by
  have apart : isSpace character = false ∧ isIdentifier character = false ∧
      character.toNat < 128 ∧ character.isDigit = false ∧
      character ∉ ['<', '>', '=', '!', '(', ')', '.'] := by
    rcases isSign with rfl | rfl <;> decide
  obtain ⟨notSpace, notPart, ascii, notDigit, notOther⟩ := apart
  rintro (space | isPart | digit | isOther)
  · rw [notSpace] at space
    cases space
  · rw [notPart] at isPart
    cases isPart
  · unfold Encoding.Decimals.isDigit at digit
    rw [unicode.digit_other character ascii notDigit] at digit
    cases digit
  · exact notOther isOther

def numberComparison (field operator : String) (value : Double) : Comparison where
  field := field
  operator := operator
  value := value
  valueType := .number
  rhsField := none
  text := field ++ " " ++ operator ++ " " ++ String.ofList (writeGeneral value)

def fieldComparison (field operator other : String) : Comparison where
  field := field
  operator := operator
  value := .finite 0
  valueType := .field
  rhsField := some other
  text := field ++ " " ++ operator ++ " " ++ other

theorem comparisonOf_number {number : Double}
    (isNumber : readFloat unicode (lower (strip value)) = some number) :
    comparisonOf unicode field operator value = some (numberComparison field operator number) := by
  unfold comparisonOf
  dsimp only
  rw [isNumber]
  rfl

theorem comparisonOf_field {comparison : Comparison}
    (notNumber : readFloat unicode (lower (strip value)) = none) :
    comparisonOf unicode field operator value = some comparison ↔
      isSupportedField unicode (lower (strip value)) ∧
        fieldComparison field operator (lower (strip value)) = comparison := by
  unfold comparisonOf
  dsimp only
  rw [notNumber]
  change (if isSupportedField unicode (lower (strip value)) = true then
    some (fieldComparison field operator (lower (strip value))) else none) = some comparison ↔ _
  rw [Option.ite_none_right_eq_some, Option.some_inj]

/-- A field and an operator as the parser keeps them. -/
structure Kept (unicode : Unicode) (field operator : String) : Prop where
  name : IsName field.toList
  lowered : lower field = field
  notKeyword : upper field ∉ ["AND", "OR"]
  supported : isSupportedField unicode field
  allowed : operator ∈ allowedComparisonOperators

variable {field operator : String}

variable (kept : Kept unicode field operator)

include kept

theorem Kept.wellFormed {value : String}
    (isValue : unicode.IsLiteral value.toList ∨ IsName value.toList ∧
      (isSupportedField unicode (lower (strip value)) = true ∨
        lower (strip value) ∈ ["inf", "infinity", "nan"])) :
    (Expression.comparison field operator value).WellFormed unicode := by
  refine ⟨kept.name, ?_, ?_, kept.allowed, isValue⟩
  · rw [kept.lowered]
    exact kept.notKeyword
  · rw [kept.lowered]
    exact kept.supported

/-- Where the text of a number is read as a number, the comparison comes back just when that is
the same number. -/
theorem Kept.roundTrips_iff {value again : Double}
    (isValue : unicode.IsLiteral (writeGeneral value) ∨ IsName (writeGeneral value) ∧
      lower (strip (String.ofList (writeGeneral value))) ∈ ["inf", "infinity", "nan"])
    (isNumber : readFloat unicode (lower (strip (String.ofList (writeGeneral value)))) =
      some again) :
    (numberComparison field operator value).RoundTrips unicode ↔ again = value := by
  have wellFormed : (Expression.comparison field operator
      (String.ofList (writeGeneral value))).WellFormed unicode := by
    apply kept.wellFormed
    rw [String.toList_ofList]
    exact isValue.imp_right (And.imp_right .inr)
  have parsed := parse_comparison wellFormed (comparisonOf_number isNumber)
  rw [kept.lowered] at parsed
  constructor
  · rintro ⟨read, isRead, -, -, sameValue, -⟩
    have same := parsed.symm.trans isRead
    cases same
    exact sameValue
  · rintro rfl
    exact ⟨_, parsed, rfl, rfl, rfl, rfl⟩

theorem Kept.not_roundTrips_power {value : Double}
    {text : List Char} {exponent : ℤ} (isPower : writeGeneral value = text ++ writePower exponent) :
    ¬(numberComparison field operator value).RoundTrips unicode := by
  rintro ⟨again, parsed, -⟩
  let sign := if 0 ≤ exponent then '+' else '-'
  let digits := (Nat.toDigits 10 exponent.natAbs).leftpad 2 '0'
  have some : digits ≠ [] := List.append_ne_nil_of_right_ne_nil _ Nat.toDigits_ne_nil
  have isSign : sign = '+' ∨ sign = '-' := by
    by_cases nonneg : 0 ≤ exponent
    · exact .inl (if_pos nonneg)
    · exact .inr (if_neg nonneg)
  have isText : (numberComparison field operator value).text.toList =
      field.toList ++ (' ' :: (operator.toList ++ ' ' :: (text ++ ['e', sign])) ++ digits) := by
    simp [numberComparison, isPower, writePower, sign, digits]
  obtain ⟨first, rest, isField, letter, -⟩ := kept.name
  refine @parse_not_part _ _ _ sign ?_ (not_isPart_sign isSign) ?_ parsed
  · rw [isText]
    simp
  · apply Runtime.strip_eq_self
    · rw [isText, isField]
      rintro character ⟨⟩
      exact isSpace_letter letter
    · rw [isText, List.getLast?_append_of_ne_nil _ (List.append_ne_nil_of_right_ne_nil _ some),
        List.getLast?_append_of_ne_nil _ some]
      intro character isLast
      exact isSpace_digit asciiClasses (Encoding.Decimals.isDigit_ascii
        (Encoding.isDigit_leftpad (List.mem_of_getLast? isLast)))

end Reading

section Numbers

variable {field operator : String}

theorem readFloat_written {text : List Char} {number : ℚ} (isLiteral : unicode.IsLiteral text)
    (isNumber : unicode.literalValue text = some number) :
    readFloat unicode (lower (strip (String.ofList text))) = some (toDouble number) := by
  have asText : unicode.IsLiteral (String.ofList text).toList := by
    rwa [String.toList_ofList]
  obtain ⟨same, value, isValue, isDouble⟩ := readFloat_literal asText
  rw [String.toList_ofList, isNumber] at isValue
  rw [same, isDouble, Option.some.inj isValue]

theorem shown_rounded {value : ℚ} (positive : 0 < value) (shown : Shown (.finite value)) :
    ∃ (units : ℕ) (exponent : ℤ), significant 5 value = ((units : ℤ), exponent) ∧
      -4 ≤ exponent ∧ exponent < 6 ∧
      toDouble (units * 10 ^ (exponent - (5 : ℕ))) = .finite value := by
  rcases shown with zero | ⟨decimal, has, normal, small, isDouble⟩
  · exact absurd zero positive.ne'
  · have isValue := Numeric.toDouble_eq_finite isDouble
    obtain ⟨units, isDecimal, rounded⟩ := Numeric.significant_roundBinary has normal
    have positiveDecimal : 0 < decimal := lt_of_lt_of_le (by norm_num) normal
    refine ⟨units, Int.log 10 decimal, ?_, ?_, ?_, ?_⟩
    · rw [isValue, rounded]
    · apply (Int.zpow_le_iff_le_log (by norm_num) positiveDecimal).mp
      calc (((10 : ℕ) : ℚ) ^ (-4 : ℤ)) = 1 / 10 ^ 4 := by norm_num
        _ ≤ decimal := normal
    · apply (Int.lt_zpow_iff_log_lt (by norm_num) positiveDecimal).mp
      exact_mod_cast small
    · rw [← isDecimal]
      exact isDouble

theorem rounded_shown {value : ℚ} (positive : 0 < value) {units : ℕ} {exponent : ℤ}
    (rounded : significant 5 value = ((units : ℤ), exponent)) (near : -4 ≤ exponent)
    (below : exponent < 6)
    (isDouble : toDouble (units * 10 ^ (exponent - (5 : ℕ))) = .finite value) :
    Shown (.finite value) := by
  have range := @Numeric.significant_range 5 _ positive
  rw [rounded] at range
  have leastWhole : (10 : ℤ) ^ 5 ≤ units := range.1
  have mostWhole : (units : ℤ) < 10 ^ (5 + 1) := range.2
  have least : (10 : ℚ) ^ 5 ≤ units := by exact_mod_cast leastWhole
  have most : units < 10 ^ (5 + 1) := by exact_mod_cast mostWhole
  have mostUnits : (units : ℚ) < 10 ^ 6 := by exact_mod_cast most
  refine .inr ⟨_, ⟨units, _, most, rfl⟩, ?_, ?_, isDouble⟩
  · calc (1 / 10 ^ 4 : ℚ) = 10 ^ 5 * 10 ^ (-9 : ℤ) := by norm_num
      _ ≤ units * 10 ^ (-9 : ℤ) := mul_le_mul_of_nonneg_right least (zpow_nonneg (by norm_num) _)
      _ ≤ units * 10 ^ (exponent - (5 : ℕ)) := by
          apply mul_le_mul_of_nonneg_left _ (Nat.cast_nonneg _)
          exact zpow_le_zpow_right₀ (by norm_num) (by push_cast; omega)
  · calc (units : ℚ) * 10 ^ (exponent - (5 : ℕ)) ≤ units * 10 ^ (0 : ℤ) := by
          apply mul_le_mul_of_nonneg_left _ (Nat.cast_nonneg _)
          exact zpow_le_zpow_right₀ (by norm_num) (by push_cast; omega)
      _ < 10 ^ 6 := by rwa [zpow_zero, mul_one]

variable (kept : Kept unicode field operator)

include kept

/-- A finite number comes back just when six digits show it. -/
theorem Kept.finite_roundTrips_iff {value : ℚ} (nonneg : 0 ≤ value) :
    (numberComparison field operator (.finite value)).RoundTrips unicode ↔
      Shown (.finite value) := by
  rcases nonneg.eq_or_lt with rfl | positive
  · have isLiteral : unicode.IsLiteral (writeGeneral (.finite 0)) :=
      .whole (by decide) (List.all_eq_true.mpr fun character inside => by
        obtain rfl := List.mem_singleton.mp inside
        exact Encoding.Decimals.isDigit_ascii (by decide))
    have isZero : unicode.literalValue (writeGeneral (.finite 0)) = some 0 := by
      have isZero := @Encoding.literalValue_writeUnits unicode.toDecimals 0 0
      rwa [Nat.cast_zero, zero_div] at isZero
    have isNumber := readFloat_written isLiteral isZero
    rw [Numeric.toDouble_zero] at isNumber
    exact (kept.roundTrips_iff (.inl isLiteral) isNumber).trans (iff_of_true rfl (.inl rfl))
  · cases rounded : significant 5 value with
    | mk whole exponent =>
      have range := @Numeric.significant_range 5 _ positive
      rw [rounded] at range
      obtain ⟨units, rfl⟩ := Int.eq_ofNat_of_zero_le (le_trans (by positivity) range.1)
      by_cases near : -4 ≤ exponent ∧ exponent < 6
      · have isText := Encoding.writeGeneral_near positive rounded near.1 near.2
        have isLiteral : unicode.IsLiteral (writeGeneral (.finite value)) := by
          rw [isText]
          exact Encoding.isLiteral_writeUnits _ _
        have isValue : unicode.literalValue (writeGeneral (.finite value)) =
            some ((units : ℚ) * 10 ^ (exponent - (5 : ℕ))) := by
          rw [isText, Encoding.literalValue_writeStripped, Encoding.units_div_decimals near.2]
        rw [kept.roundTrips_iff (.inl isLiteral) (readFloat_written isLiteral isValue)]
        constructor
        · exact rounded_shown positive rounded near.1 near.2
        · intro shown
          obtain ⟨others, other, isRounded, -, -, isDouble⟩ := shown_rounded positive shown
          obtain ⟨sameUnits, sameExponent⟩ := Prod.mk.inj (rounded.symm.trans isRounded)
          obtain rfl := Int.ofNat.inj sameUnits
          rwa [sameExponent]
      · have isText := Encoding.writeGeneral_far positive rounded near
        refine iff_of_false (kept.not_roundTrips_power isText) fun shown => ?_
        obtain ⟨others, other, isRounded, least, most, -⟩ := shown_rounded positive shown
        obtain ⟨-, sameExponent⟩ := Prod.mk.inj (rounded.symm.trans isRounded)
        exact near (sameExponent ▸ ⟨least, most⟩)

theorem Kept.number_roundTrips_iff {text : String}
    {value : Double} (isNumber : readFloat unicode text = some value) :
    (numberComparison field operator value).RoundTrips unicode ↔ Shown value := by
  cases value with
  | infinity =>
    have isWord : IsName (writeGeneral .infinity) := ⟨'i', ['n', 'f'], rfl, by decide, by decide⟩
    have same : lower (strip (String.ofList (writeGeneral .infinity))) = "inf" := by decide +kernel
    refine (kept.roundTrips_iff (.inr ⟨isWord, ?_⟩) ?_).trans (iff_of_true rfl trivial)
    · rw [same]
      decide
    · rw [same]
      rfl
  | nan =>
    have isWord : IsName (writeGeneral .nan) := ⟨'n', ['a', 'n'], rfl, by decide, by decide⟩
    have same : lower (strip (String.ofList (writeGeneral .nan))) = "nan" := by decide +kernel
    refine (kept.roundTrips_iff (.inr ⟨isWord, ?_⟩) ?_).trans (iff_of_true rfl trivial)
    · rw [same]
      decide
    · rw [same]
      rfl
  | finite value =>
    apply kept.finite_roundTrips_iff
    unfold readFloat at isNumber
    split at isNumber
    · cases isNumber
    · split at isNumber
      · cases isNumber
      · obtain ⟨number, isExact, isDouble⟩ := Option.map_eq_some_iff.mp isNumber
        rw [Numeric.toDouble_eq_finite isDouble]
        exact Numeric.roundBinary_nonneg (Encoding.Decimals.literalValue_nonneg isExact)

theorem Kept.field_roundTrips {value : String}
    (isToken : IsToken unicode value.toList) (notNumber : readFloat unicode (lower value) = none)
    (supported : isSupportedField unicode (lower value)) :
    (fieldComparison field operator (lower value)).RoundTrips unicode := by
  have isName := isName_of_supported isToken supported
  have isTokenLower : IsToken unicode (lower value).toList := isName.isToken
  have same : lower (strip (lower value)) = lower value := by
    rw [isTokenLower.strip, Runtime.lower_lower]
  have wellFormed := kept.wellFormed (.inr ⟨isName, .inl (by rwa [same])⟩)
  have read : comparisonOf unicode (lower field) operator (lower value) =
      some (fieldComparison field operator (lower value)) := by
    rw [comparisonOf_field (by rwa [same]), same, kept.lowered]
    exact ⟨supported, rfl⟩
  exact ⟨_, parse_comparison wellFormed read, rfl, rfl, rfl, rfl⟩

end Numbers

/-- The text of a comparison that the parser has read is read as the same comparison just when its
value is shown by six digits without a power of ten. -/
theorem comparison_text_roundTrips {query : Option String} {node : Node} {comparison : Comparison}
    (parsed : parseQueryExpression unicode query = .ok node)
    (inside : comparison ∈ node.comparisons) :
    comparison.RoundTrips unicode ↔ Shown comparison.value := by
  obtain ⟨tokens, areTokens, field, operator, value, isField, isValue, notKeyword, supported,
    allowed, isComparison⟩ := exists_tokens parsed inside
  have kept : Kept unicode (lower field) operator :=
    ⟨isName_of_supported (areTokens field isField) supported, Runtime.lower_lower field,
      notKeyword, supported, allowed⟩
  have stripped := IsToken.strip (areTokens value isValue)
  cases isNumber : readFloat unicode (lower (strip value)) with
  | some number =>
    rw [comparisonOf_number isNumber] at isComparison
    cases isComparison
    exact kept.number_roundTrips_iff isNumber
  | none =>
    obtain ⟨isSupported, rfl⟩ := (comparisonOf_field isNumber).mp isComparison
    rw [stripped] at isNumber isSupported ⊢
    exact iff_of_true (kept.field_roundTrips (areTokens value isValue) isNumber isSupported)
      (.inl rfl)

theorem parse_close (value : String) (isLiteral : asciiClasses.IsLiteral value.toList)
    {number : Double} (isNumber : readFloat asciiClasses value = some number) :
    parseQueryExpression asciiClasses (some ("close" ++ " " ++ "<" ++ " " ++ value)) =
      .ok (.comparison (numberComparison "close" "<" number)) := by
  have wellFormed : (Expression.comparison "close" "<" value).WellFormed asciiClasses :=
    ⟨⟨'c', "lose".toList, rfl, by decide, by decide⟩, by decide +kernel, by decide +kernel,
      by decide, .inl isLiteral⟩
  have same : lower "close" = "close" := by decide +kernel
  have read : comparisonOf asciiClasses (lower "close") "<" value =
      some (numberComparison "close" "<" number) := by
    rw [same]
    exact comparisonOf_number (by rw [(readFloat_literal isLiteral).1]; exact isNumber)
  exact parse_comparison wellFormed read

theorem comparison_text_roundTrips_five :
    (numberComparison "close" "<" (toDouble 5)).RoundTrips asciiClasses ↔ Shown (toDouble 5) :=
  comparison_text_roundTrips (parse_close "5" (.whole (by decide) (by decide)) (by decide +kernel))
    List.mem_cons_self

/-- A million is shown with a power of ten, which the tokenizer refuses. -/
theorem comparison_text_refused :
    ¬∀ query node comparison, parseQueryExpression asciiClasses query = .ok node →
      comparison ∈ node.comparisons → comparison.RoundTrips asciiClasses := by
  intro all
  have parsed := @parse_close "1000000" (.whole (by decide) (by decide)) (toDouble 1000000)
    (by decide +kernel)
  have kept : Kept asciiClasses "close" "<" :=
    ⟨⟨'c', "lose".toList, rfl, by decide, by decide⟩, by decide +kernel, by decide +kernel,
      by decide +kernel, by decide⟩
  have isPower : writeGeneral (toDouble 1000000) = ['1'] ++ writePower 6 := by decide +kernel
  exact kept.not_roundTrips_power isPower (all _ _ _ parsed List.mem_cons_self)

end Query
