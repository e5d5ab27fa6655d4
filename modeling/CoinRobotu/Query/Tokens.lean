import CoinRobotu.Encoding.Literal
import CoinRobotu.Runtime.Text

/-!
# Tokens of the screener's query language

A query is cut into tokens from the left: white space is skipped, and of the alternatives of a
token the first one that matches is taken. Letters are compared without case, so that four letters
outside of ASCII count as letters; the further digits of Unicode count as digits.
-/

namespace Query

open Encoding (Decimals)
open Runtime (isSpace strip)

/-- `[A-Za-z_]`, without case. -/
def isLetter (character : Char) : Bool :=
  character.isAlpha || character = '_' || character.toNat = 0x130 || character.toNat = 0x131 ||
    character.toNat = 0x17F || character.toNat = 0x212A

/-- `[A-Za-z0-9_]`, without case. -/
def isIdentifier (character : Char) : Bool := isLetter character || character.isDigit

theorem isLetter_code {character : Char} (letter : isLetter character) :
    65 ≤ character.toNat ∧ character.toNat ≤ 122 ∨ character.toNat = 0x130 ∨
      character.toNat = 0x131 ∨ character.toNat = 0x17F ∨ character.toNat = 0x212A := by
  unfold isLetter Char.isAlpha Char.isUpper Char.isLower at letter
  simp only [Bool.or_eq_true, Bool.and_eq_true, decide_eq_true_eq, ge_iff_le,
    UInt32.le_iff_toNat_le] at letter
  rcases letter with (((((⟨low, high⟩ | ⟨low, high⟩) | rfl) | code) | code) | code) | code
  · have least : 65 ≤ character.toNat := low
    have most : character.toNat ≤ 90 := high
    omega
  · have least : 97 ≤ character.toNat := low
    have most : character.toNat ≤ 122 := high
    omega
  · decide
  all_goals omega

theorem isDigit_code {character : Char} (digit : character.isDigit) :
    48 ≤ character.toNat ∧ character.toNat ≤ 57 := by
  unfold Char.isDigit at digit
  rw [Bool.and_eq_true, decide_eq_true_eq, decide_eq_true_eq] at digit
  exact ⟨UInt32.le_iff_toNat_le.mp digit.1, UInt32.le_iff_toNat_le.mp digit.2⟩

/-- The classes of characters that the patterns refer to: `\d`, which `float` reads too, and
`\w`. -/
structure Unicode extends Decimals where
  isWord : Char → Bool
  isWord_identifier : ∀ character, isIdentifier character → isWord character
  digit_letter : ∀ character, isLetter character → digit character = none
  digit_space : ∀ character, isSpace character → digit character = none

structure QueryParseError where
  message : String
  deriving DecidableEq

structure QueryToken where
  value : String
  position : ℕ
  deriving DecidableEq

/-- The tokens of `_TOKEN_PATTERN` without letters and digits. -/
def operators : List (List Char) :=
  [['<', '='], ['>', '='], ['!', '='], ['='], ['<'], ['>'], ['('], [')']]

section Definitions

variable (unicode : Unicode) (source : List Char)

def takeOperator : Option (List Char × List Char) :=
  operators.findSome? fun operator =>
    if operator.isPrefixOf source then some (operator, source.drop operator.length) else none

def takeKeyword (word : List Char) : Option (List Char × List Char) :=
  let rest := source.drop word.length
  if (source.take word.length).map Char.toUpper = word ∧
      rest.head?.all (fun next => !unicode.isWord next) then
    some (source.take word.length, rest)
  else none

def takeIdentifier : Option (List Char × List Char) :=
  match source with
  | [] => none
  | first :: rest =>
    if isLetter first then
      some (first :: rest.takeWhile isIdentifier, rest.dropWhile isIdentifier)
    else none

/-- The token of `_TOKEN_PATTERN` at the front of a text without white space in front. -/
def takeToken : Option (List Char × List Char) :=
  (takeOperator source).or <| (takeKeyword unicode source ['A', 'N', 'D']).or <|
    (takeKeyword unicode source ['O', 'R']).or <| (takeIdentifier source).or <|
    unicode.takeLiteral source

end Definitions

/-- A text that is a token. -/
inductive IsToken (unicode : Unicode) : List Char → Prop
  | operator {text : List Char} : text ∈ operators → IsToken unicode text
  | identifier {first : Char} {rest : List Char} : isLetter first → rest.all isIdentifier →
      IsToken unicode (first :: rest)
  | literal {text : List Char} : unicode.IsLiteral text → IsToken unicode text

section Taking

variable {unicode : Unicode} {source text token rest : List Char}

theorem isIdentifier_letter {character : Char} (letter : isLetter character) :
    isIdentifier character := by
  rw [isIdentifier, letter, Bool.true_or]

theorem takeOperator_sound (takes : takeOperator source = some (token, rest)) :
    source = token ++ rest ∧ token ∈ operators := by
  obtain ⟨operator, inside, isTaken⟩ := List.exists_of_findSome?_eq_some takes
  split at isTaken
  · next isPrefix =>
    cases isTaken
    obtain ⟨more, rfl⟩ := List.isPrefixOf_iff_prefix.mp isPrefix
    rw [List.drop_left]
    exact ⟨rfl, inside⟩
  · cases isTaken

theorem takeIdentifier_sound (takes : takeIdentifier source = some (token, rest)) :
    source = token ++ rest ∧ IsToken unicode token := by
  cases source with
  | nil => cases takes
  | cons first others =>
    unfold takeIdentifier at takes
    dsimp only at takes
    split at takes
    · next letter =>
      cases takes
      refine ⟨?_, .identifier letter List.all_takeWhile⟩
      rw [List.cons_append, List.takeWhile_append_dropWhile]
    · cases takes

theorem isLetter_of_toUpper {character : Char} (capital : character.toUpper.isUpper) :
    isLetter character := by
  suffices alpha : character.isAlpha by rw [isLetter, alpha]; rfl
  unfold Char.isAlpha
  rw [Bool.or_eq_true]
  unfold Char.toUpper at capital
  split at capital
  · next lowercase =>
    right
    unfold Char.isLower
    rw [Bool.and_eq_true, decide_eq_true_eq, decide_eq_true_eq]
    exact lowercase
  · exact .inl capital

theorem takeIdentifier_append {first : Char} {others : List Char} (letter : isLetter first)
    (all : others.all isIdentifier)
    (ends : ∀ character ∈ rest.head?, isIdentifier character = false) :
    takeIdentifier (first :: (others ++ rest)) = some (first :: others, rest) := by
  have none : rest.takeWhile isIdentifier = [] ∧ rest.dropWhile isIdentifier = rest := by
    cases rest with
    | nil => exact ⟨rfl, rfl⟩
    | cons next more =>
      rw [List.takeWhile_cons, List.dropWhile_cons, ends next rfl]
      exact ⟨rfl, rfl⟩
  rw [List.all_eq_true] at all
  unfold takeIdentifier
  dsimp only
  rw [if_pos letter, List.takeWhile_append_of_pos all, List.dropWhile_append_of_pos all, none.1,
    none.2, List.append_nil]

theorem takeKeyword_identifier {word : List Char} (capitals : ∀ character ∈ word, character.isUpper)
    (nonempty : word ≠ []) (takes : takeKeyword unicode source word = some (token, rest)) :
    takeIdentifier source = some (token, rest) := by
  unfold takeKeyword at takes
  dsimp only at takes
  split at takes
  · next matching =>
    cases takes
    have letters : ∀ character ∈ source.take word.length, isLetter character := by
      intro character inside
      apply isLetter_of_toUpper
      apply capitals
      rw [← matching.1]
      exact List.mem_map_of_mem inside
    have ends : ∀ character ∈ (source.drop word.length).head?,
        isIdentifier character = false := by
      intro character isNext
      have other := matching.2
      rw [Option.mem_def.mp isNext] at other
      by_contra isPart
      rw [Option.all_some, unicode.isWord_identifier character (by simpa using isPart)] at other
      exact absurd other (by decide)
    cases isTaken : source.take word.length with
    | nil =>
      rw [isTaken] at matching
      exact absurd matching.1.symm nonempty
    | cons first others =>
      rw [isTaken] at letters
      have whole := List.take_append_drop word.length source
      rw [isTaken, List.cons_append] at whole
      conv_lhs => rw [← whole]
      exact takeIdentifier_append (letters first List.mem_cons_self)
        (List.all_eq_true.mpr fun other inside =>
          isIdentifier_letter (letters other (List.mem_cons_of_mem _ inside))) ends
  · cases takes

theorem takeToken_eq : takeToken unicode source =
    (takeOperator source).or ((takeIdentifier source).or (unicode.takeLiteral source)) := by
  unfold takeToken
  cases takeOperator source with
  | some taken => rfl
  | none =>
    cases isAnd : takeKeyword unicode source ['A', 'N', 'D'] with
    | some taken => rw [takeKeyword_identifier (List.all_eq_true.mp rfl) (by decide) isAnd]; rfl
    | none =>
      cases isOr : takeKeyword unicode source ['O', 'R'] with
      | some taken => rw [takeKeyword_identifier (List.all_eq_true.mp rfl) (by decide) isOr]; rfl
      | none => rfl

theorem takeToken_sound (takes : takeToken unicode source = some (token, rest)) :
    source = token ++ rest ∧ IsToken unicode token := by
  rw [takeToken_eq] at takes
  cases isOperator : takeOperator source with
  | some taken =>
    rw [isOperator] at takes
    cases takes
    obtain ⟨isSource, inside⟩ := takeOperator_sound isOperator
    exact ⟨isSource, .operator inside⟩
  | none =>
    rw [isOperator, Option.none_or] at takes
    cases isName : takeIdentifier source with
    | some taken =>
      rw [isName] at takes
      cases takes
      exact takeIdentifier_sound isName
    | none =>
      rw [isName, Option.none_or] at takes
      obtain ⟨isSource, isLiteral⟩ := Decimals.takeLiteral_sound takes
      exact ⟨isSource, .literal isLiteral⟩

theorem IsToken.nonempty (isToken : IsToken unicode text) : text ≠ [] := by
  cases isToken with
  | operator inside =>
    rintro rfl
    exact absurd inside (by decide)
  | identifier => exact List.cons_ne_nil _ _
  | literal isLiteral =>
    cases isLiteral with
    | whole nonempty => exact nonempty
    | fraction nonempty => exact List.append_ne_nil_of_left_ne_nil nonempty _

/-- What may follow any token: nothing that would be read as a part of it. -/
def Closes (unicode : Unicode) (rest : List Char) : Prop :=
  ∀ character ∈ rest.head?, isIdentifier character = false ∧
    unicode.isDigit character = false ∧ character ≠ '.' ∧ character ≠ '='

theorem takeOperator_none {first : Char} {rest : List Char}
    (other : ∀ operator ∈ operators, operator.head? ≠ some first) :
    takeOperator (first :: rest) = none := by
  unfold takeOperator
  rw [List.findSome?_eq_none_iff]
  intro operator inside
  rw [if_neg]
  intro isPrefix
  obtain ⟨more, same⟩ := List.isPrefixOf_iff_prefix.mp isPrefix
  apply other operator inside
  cases operator with
  | nil => exact absurd inside (by decide)
  | cons head tail => rw [(List.cons.inj same).1]; rfl

theorem operator_head (unicode : Unicode) {operator : List Char} (inside : operator ∈ operators)
    {first : Char} (isFirst : operator.head? = some first) :
    isIdentifier first = false ∧ unicode.isDigit first = false := by
  have apart : operators.all fun operator => operator.head?.all fun first =>
      !isIdentifier first && decide (first.toNat < 128) && !first.isDigit := by decide
  have ofFirst := List.all_eq_true.mp apart operator inside
  rw [isFirst, Option.all_some] at ofFirst
  simp only [Bool.and_eq_true, Bool.not_eq_true', decide_eq_true_eq] at ofFirst
  obtain ⟨⟨notPart, ascii⟩, notDigit⟩ := ofFirst
  refine ⟨notPart, ?_⟩
  unfold Decimals.isDigit
  rw [unicode.digit_other first ascii notDigit]
  rfl

/-- An operator is read as it is in front of what may follow it; a parenthesis in front of
anything. -/
theorem takeOperator_append {operator rest : List Char} (inside : operator ∈ operators)
    (ends : rest.head? ≠ some '=') : takeOperator (operator ++ rest) = some (operator, rest) := by
  simp only [operators, List.mem_cons, List.not_mem_nil, or_false] at inside
  cases rest with
  | nil => rcases inside with rfl | rfl | rfl | rfl | rfl | rfl | rfl | rfl <;> rfl
  | cons next more =>
    have other : '=' ≠ next := by
      rintro rfl
      exact ends rfl
    rcases inside with rfl | rfl | rfl | rfl | rfl | rfl | rfl | rfl <;>
      simp [takeOperator, operators, other]

theorem IsToken.take (isToken : IsToken unicode token) (closes : Closes unicode rest) :
    takeToken unicode (token ++ rest) = some (token, rest) := by
  rw [takeToken_eq]
  cases isToken with
  | operator inside =>
    rw [takeOperator_append inside fun isNext => (closes '=' isNext).2.2.2 rfl]
    rfl
  | @identifier first others letter all =>
    rw [List.cons_append, takeOperator_none, Option.none_or,
      takeIdentifier_append letter all fun character isNext => (closes character isNext).1]
    · rfl
    · intro operator inside isFirst
      have apart := (operator_head unicode inside isFirst).1
      rw [isIdentifier_letter letter] at apart
      cases apart
  | literal isLiteral =>
    obtain ⟨first, others, isText, isDigit⟩ := isLiteral.first
    have notLetter : isLetter first = false := by
      by_contra letter
      unfold Decimals.isDigit at isDigit
      rw [unicode.digit_letter first (by simpa using letter)] at isDigit
      exact absurd isDigit (by decide)
    have noIdentifier : takeIdentifier (token ++ rest) = none := by
      rw [isText, List.cons_append]
      unfold takeIdentifier
      dsimp only
      rw [notLetter]
      rfl
    have noOperator : takeOperator (token ++ rest) = none := by
      rw [isText, List.cons_append]
      apply takeOperator_none
      intro operator inside isFirst
      have apart := (operator_head unicode inside isFirst).2
      rw [isDigit] at apart
      cases apart
    rw [noOperator, noIdentifier, Option.none_or, Option.none_or]
    exact isLiteral.take fun character isNext =>
      ⟨(closes character isNext).2.1, (closes character isNext).2.2.1⟩

end Taking

section Tokenizing

def unknownToken (source : List Char) (position : ℕ) : QueryParseError :=
  ⟨"Bilinmeyen token: '" ++ String.ofList (source.take 16) ++ "' (pozisyon " ++
    toString (position + 1) ++ ")"⟩

variable (unicode : Unicode)

/-- The loop of `tokenize_query_expression`, from a position on. -/
def tokenizeFrom (position : ℕ) (source : List Char) :
    Except QueryParseError (List QueryToken) :=
  if source = [] then .ok []
  else
    match _ : takeToken unicode (source.dropWhile isSpace) with
    | none => .error (unknownToken source position)
    | some (token, rest) =>
      match tokenizeFrom (position + (source.length - rest.length)) rest with
      | .error failure => .error failure
      | .ok tokens => .ok (⟨String.ofList token, position⟩ :: tokens)
termination_by source.length
decreasing_by
  obtain ⟨isSource, isToken⟩ := takeToken_sound ‹_›
  have lengths := congrArg List.length isSource
  have shorter := (List.dropWhile_sublist isSpace (l := source)).length_le
  have some := List.length_pos_of_ne_nil isToken.nonempty
  rw [List.length_append] at lengths
  omega

def tokenizeQueryExpression (query : Option String) :
    Except QueryParseError (List QueryToken) :=
  let source := strip (query.getD "")
  if source = "" then .error ⟨"Query ifadesi boş olamaz."⟩
  else tokenizeFrom unicode 0 source.toList

/-- A text in which tokens stand in their order, each in front of what does not belong to it. -/
inductive Spells : List Char → List (List Char) → Prop
  | nil : Spells [] []
  | cons {spaces token rest : List Char} {tokens : List (List Char)} : spaces.all isSpace →
      takeToken unicode (token ++ rest) = some (token, rest) → IsToken unicode token →
      Spells rest tokens → Spells (spaces ++ (token ++ rest)) (token :: tokens)

def values (tokens : List QueryToken) : List String := tokens.map QueryToken.value

variable {unicode} {position : ℕ} {source : List Char} {tokens : List QueryToken}

theorem tokenizeFrom_nil : tokenizeFrom unicode position [] = .ok [] := by
  rw [tokenizeFrom, if_pos rfl]

theorem tokenizeFrom_some {token rest : List Char}
    (taken : takeToken unicode (source.dropWhile isSpace) = some (token, rest)) :
    tokenizeFrom unicode position source =
      (tokenizeFrom unicode (position + (source.length - rest.length)) rest).map
        (⟨String.ofList token, position⟩ :: ·) := by
  have nonempty : source ≠ [] := by
    rintro rfl
    obtain ⟨isSource, isToken⟩ := takeToken_sound taken
    exact isToken.nonempty (List.append_eq_nil_iff.mp isSource.symm).1
  rw [tokenizeFrom, if_neg nonempty]
  split
  · next isTaken =>
    rw [taken] at isTaken
    cases isTaken
  · next isTaken =>
    rw [taken] at isTaken
    cases isTaken
    cases tokenizeFrom unicode (position + (source.length - rest.length)) rest <;> rfl

variable {character : Char}

theorem isSpace_letter (letter : isLetter character) :
    isSpace character = false := by
  rw [Bool.eq_false_iff]
  intro space
  have code := isLetter_code letter
  unfold isSpace at space
  simp only [Bool.or_eq_true, Bool.and_eq_true, decide_eq_true_eq, beq_iff_eq] at space
  omega

theorem isSpace_digit (unicode : Unicode)
    (isDigit : unicode.isDigit character) : isSpace character = false := by
  by_contra space
  unfold Decimals.isDigit at isDigit
  rw [unicode.digit_space character (by simpa using space)] at isDigit
  cases isDigit

theorem IsToken.not_space {text : List Char} (isToken : IsToken unicode text)
    (inside : character ∈ text) : isSpace character = false := by
  cases isToken with
  | operator isOperator =>
    have apart : operators.all fun operator => operator.all fun part => !isSpace part := by decide
    have ofText := List.all_eq_true.mp (List.all_eq_true.mp apart text isOperator)
    simpa only [Bool.not_eq_true'] using ofText character inside
  | @identifier first rest letter all =>
    have isPart : isIdentifier character := by
      rcases List.mem_cons.mp inside with rfl | further
      · exact isIdentifier_letter letter
      · exact List.all_eq_true.mp all character further
    rw [isIdentifier, Bool.or_eq_true] at isPart
    rcases isPart with isLetter | isDigit
    · exact isSpace_letter isLetter
    · exact isSpace_digit unicode (Decimals.isDigit_ascii isDigit)
  | literal isLiteral =>
    rcases isLiteral.parts inside with isDigit | rfl
    · exact isSpace_digit unicode isDigit
    · decide

theorem Spells.tokenize {texts : List (List Char)} (spells : Spells unicode source texts) :
    ∃ tokens, tokenizeFrom unicode position source = .ok tokens ∧
      values tokens = texts.map String.ofList := by
  induction spells generalizing position with
  | nil => exact ⟨[], tokenizeFrom_nil, rfl⟩
  | @cons spaces token rest texts all taken isToken spells ih =>
    have skipped : (spaces ++ (token ++ rest)).dropWhile isSpace = token ++ rest := by
      rw [List.dropWhile_append_of_pos (List.all_eq_true.mp all)]
      obtain ⟨first, others, rfl⟩ := List.exists_cons_of_ne_nil isToken.nonempty
      rw [List.cons_append, List.dropWhile_cons, isToken.not_space List.mem_cons_self]
      exact if_neg Bool.false_ne_true
    obtain ⟨tokens, isTokens, isValues⟩ := @ih
      (position + ((spaces ++ (token ++ rest)).length - rest.length))
    rw [tokenizeFrom_some (by rw [skipped]; exact taken), isTokens]
    refine ⟨_, rfl, ?_⟩
    unfold values at isValues ⊢
    rw [List.map_cons, List.map_cons, isValues]

def IsPart (unicode : Unicode) (character : Char) : Prop :=
  isSpace character ∨ isIdentifier character ∨ unicode.isDigit character ∨
    character ∈ ['<', '>', '=', '!', '(', ')', '.']

theorem IsToken.isPart {text : List Char} (isToken : IsToken unicode text)
    (inside : character ∈ text) : IsPart unicode character := by
  cases isToken with
  | operator isOperator =>
    have apart : operators.all fun operator => operator.all fun part =>
        part ∈ ['<', '>', '=', '!', '(', ')', '.'] := by decide
    have ofText := List.all_eq_true.mp (List.all_eq_true.mp apart text isOperator)
    exact .inr (.inr (.inr (of_decide_eq_true (ofText character inside))))
  | identifier letter all =>
    rcases List.mem_cons.mp inside with rfl | further
    · exact .inr (.inl (isIdentifier_letter letter))
    · exact .inr (.inl (List.all_eq_true.mp all character further))
  | literal isLiteral =>
    rcases isLiteral.parts inside with isDigit | rfl
    · exact .inr (.inr (.inl isDigit))
    · exact .inr (.inr (.inr (by decide)))

theorem tokenizeFrom_sound (isOk : tokenizeFrom unicode position source = .ok tokens) :
    (∀ token ∈ tokens, IsToken unicode token.value.toList) ∧
      ∀ character ∈ source, IsPart unicode character := by
  fun_induction tokenizeFrom unicode position source generalizing tokens with
  | case1 => cases isOk; simp
  | case2 | case3 => cases isOk
  | case4 position source nonempty token rest isTaken others isRest ih =>
    cases isOk
    obtain ⟨isSource, isToken⟩ := takeToken_sound isTaken
    obtain ⟨areTokens, areParts⟩ := ih isRest
    constructor
    · intro each inside
      rcases List.mem_cons.mp inside with rfl | further
      · rwa [String.toList_ofList]
      · exact areTokens each further
    · intro character inside
      rw [← List.takeWhile_append_dropWhile (p := isSpace) (l := source), isSource] at inside
      rcases List.mem_append.mp inside with space | further
      · exact .inl (List.mem_takeWhile_imp space)
      · exact (List.mem_append.mp further).elim isToken.isPart (areParts character)

end Tokenizing

theorem not_isDigit_letter {character : Char} (letter : isLetter character) :
    character.isDigit = false := by
  rw [Bool.eq_false_iff]
  intro digit
  have code := isLetter_code letter
  have digitCode := isDigit_code digit
  omega

/-- The classes without the digits and letters outside of ASCII. -/
def asciiClasses : Unicode where
  digit character := if character.isDigit then some (character.toNat - '0'.toNat) else none
  digit_ascii _ isDigit := if_pos isDigit
  digit_other _ _ other := if_neg (by rw [other]; decide)
  isWord := isIdentifier
  isWord_identifier _ isPart := isPart
  digit_letter _ letter := if_neg (by rw [not_isDigit_letter letter]; decide)
  digit_space character space := by
    apply if_neg
    intro digit
    have code := isDigit_code digit
    unfold isSpace at space
    simp only [Bool.or_eq_true, Bool.and_eq_true, decide_eq_true_eq, beq_iff_eq] at space
    omega

end Query
