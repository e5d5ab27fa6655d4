import CoinRobotu.Query.Grammar

/-!
# Rendered queries

An expression is written with parentheses only around a disjunction within a conjunction, and it is
read as the same expression, but for the association of the operators.
-/

namespace Query

open Parsing (Chained)
open Runtime (lower upper strip isSpace)

/-- An expression over comparisons, given by the texts of their tokens. -/
inductive Expression where
  | comparison (field operator value : String)
  | logical (operator : Logical) (left right : Expression)

/-- A text that begins with a letter and goes on with letters and digits. -/
def IsName (text : List Char) : Prop :=
  ∃ first rest, text = first :: rest ∧ isLetter first ∧ rest.all isIdentifier

namespace Expression

/-- The comparisons of an expression are supported: a field, an operator, and a number or another
field. Words for numbers are those that `float` reads. -/
def WellFormed (unicode : Unicode) : Expression → Prop
  | comparison field operator value =>
    IsName field.toList ∧ upper (lower field) ∉ ["AND", "OR"] ∧
      isSupportedField unicode (lower field) ∧ operator ∈ allowedComparisonOperators ∧
      (unicode.IsLiteral value.toList ∨ IsName value.toList ∧
        (isSupportedField unicode (lower (strip value)) ∨
          lower (strip value) ∈ ["inf", "infinity", "nan"]))
  | logical _ left right => left.WellFormed unicode ∧ right.WellFormed unicode

def tree (unicode : Unicode) : Expression → Option Node
  | comparison field operator value =>
    (comparisonOf unicode (lower field) operator value).map .comparison
  | logical operator left right =>
    match left.tree unicode, right.tree unicode with
    | some left, some right => some (.logical operator left right)
    | _, _ => none

def isDisjunction : Expression → Bool
  | logical .or _ _ => true
  | _ => false

def word : Logical → String
  | .and => "AND"
  | .or => "OR"

def enclose (needed : Bool) (text : List Char) : List Char :=
  if needed then '(' :: (text ++ [')']) else text

def encloseTokens (needed : Bool) (tokens : List String) : List String :=
  if needed then "(" :: (tokens ++ [")"]) else tokens

def write : Expression → List Char
  | comparison field operator value =>
    field.toList ++ ' ' :: (operator.toList ++ ' ' :: value.toList)
  | logical .or left right => left.write ++ ' ' :: ('O' :: 'R' :: ' ' :: right.write)
  | logical .and left right =>
    enclose left.isDisjunction left.write ++
      ' ' :: ('A' :: 'N' :: 'D' :: ' ' :: enclose right.isDisjunction right.write)

def tokens : Expression → List String
  | comparison field operator value => [field, operator, value]
  | logical .or left right => left.tokens ++ "OR" :: right.tokens
  | logical .and left right =>
    encloseTokens left.isDisjunction left.tokens ++
      "AND" :: encloseTokens right.isDisjunction right.tokens

end Expression

/-- Trees that differ in the association of their operators. -/
inductive Reassociated : Node → Node → Prop
  | refl (node : Node) : Reassociated node node
  | symm {node other : Node} : Reassociated node other → Reassociated other node
  | trans {node other third : Node} :
      Reassociated node other → Reassociated other third → Reassociated node third
  | logical (operator : Logical) {left other right another : Node} : Reassociated left other →
      Reassociated right another →
      Reassociated (.logical operator left right) (.logical operator other another)
  | assoc (operator : Logical) (left middle right : Node) :
      Reassociated (.logical operator (.logical operator left middle) right)
        (.logical operator left (.logical operator middle right))

variable {unicode : Unicode}

theorem chained_append {Item : List String → Node → Prop} {operator : Logical} {keyword : String}
    {tokens others : List String} {node right : Node} {token : String}
    (chained : Chained Item (isKeyword keyword) (.logical operator) tokens node)
    (separates : isKeyword keyword token)
    (further : Chained Item (isKeyword keyword) (.logical operator) others right) :
    ∃ whole, Chained Item (isKeyword keyword) (.logical operator) (tokens ++ token :: others)
        whole ∧ Reassociated whole (.logical operator node right) :=
  chained.append .refl .trans (fun right same => .logical operator same (.refl right))
    (.assoc operator) separates further

theorem Expression.derives {expression : Expression} {tree : Node}
    (wellFormed : expression.WellFormed unicode) (isTree : expression.tree unicode = some tree) :
    (∃ node, OrExpression unicode expression.tokens node ∧ Reassociated node tree) ∧
      ∃ node, AndExpression unicode
          (encloseTokens expression.isDisjunction expression.tokens) node ∧
        Reassociated node tree := by
  induction expression generalizing tree with
  | comparison field operator value =>
    obtain ⟨-, notKeyword, supported, allowed, -⟩ := wellFormed
    obtain ⟨comparison, isComparison, rfl⟩ := Option.map_eq_some_iff.mp isTree
    have factor := Factor.comparison notKeyword supported allowed isComparison
    exact ⟨⟨_, .one (.one factor), .refl _⟩, _, .one factor, .refl _⟩
  | logical operator left right leftIh rightIh =>
    obtain ⟨leftFormed, rightFormed⟩ := wellFormed
    unfold Expression.tree at isTree
    split at isTree
    · next leftTree rightTree isLeft isRight =>
      cases isTree
      obtain ⟨⟨leftOr, isLeftOr, leftSame⟩, leftAnd, isLeftAnd, leftAndSame⟩ :=
        leftIh leftFormed isLeft
      obtain ⟨⟨rightOr, isRightOr, rightSame⟩, rightAnd, isRightAnd, rightAndSame⟩ :=
        rightIh rightFormed isRight
      cases operator with
      | or =>
        obtain ⟨whole, isWhole, same⟩ := @chained_append _ .or "OR" _ _ _ _ "OR" isLeftOr
          (by decide +kernel) isRightOr
        have sameTree := same.trans (.logical .or leftSame rightSame)
        exact ⟨⟨whole, isWhole, sameTree⟩, whole, .one (.parentheses isWhole), sameTree⟩
      | and =>
        obtain ⟨whole, isWhole, same⟩ := @chained_append _ .and "AND" _ _ _ _ "AND" isLeftAnd
          (by decide +kernel) isRightAnd
        have sameTree := same.trans (.logical .and leftAndSame rightAndSame)
        exact ⟨⟨whole, .one isWhole, sameTree⟩, whole, isWhole, sameTree⟩
    · cases isTree

theorem lowerChar_of_not_letter {character : Char} (other : isLetter character = false) :
    Runtime.lowerChar character = character := by
  unfold Runtime.lowerChar
  split
  · next kelvin =>
    unfold isLetter at other
    rw [kelvin] at other
    simp at other
  · unfold Char.toLower
    split
    · next capital =>
      have upper : character.isUpper := decide_eq_true capital
      unfold isLetter Char.isAlpha at other
      rw [upper] at other
      cases other
    · rfl

theorem literal_ne_name {value : String} (isLiteral : unicode.IsLiteral value.toList)
    (first : Char) (rest : List Char) (letter : isLetter first) :
    value ≠ String.ofList (first :: rest) := by
  rintro rfl
  obtain ⟨digit, others, isText, isDigit⟩ := isLiteral.first
  rw [String.toList_ofList] at isText
  cases isText
  unfold Encoding.Decimals.isDigit at isDigit
  rw [unicode.digit_letter first letter] at isDigit
  cases isDigit

theorem IsToken.strip {token : String} (isToken : IsToken unicode token.toList) :
    strip token = token :=
  Runtime.strip_eq_self (fun _ isFirst => isToken.not_space (List.mem_of_mem_head? isFirst))
    fun _ isLast => isToken.not_space (List.mem_of_getLast? isLast)

theorem lower_literal {value : String} (isLiteral : unicode.IsLiteral value.toList) :
    lower value = value := by
  have noLetter : ∀ character ∈ value.toList, isLetter character = false := by
    intro character inside
    rcases isLiteral.parts inside with isDigit | rfl
    · by_contra letter
      unfold Encoding.Decimals.isDigit at isDigit
      rw [unicode.digit_letter character (by simpa using letter)] at isDigit
      cases isDigit
    · decide
  unfold lower
  rw [List.map_congr_left fun character inside =>
    lowerChar_of_not_letter (noLetter character inside), List.map_id', String.ofList_toList]

theorem readFloat_literal {value : String} (isLiteral : unicode.IsLiteral value.toList) :
    lower (strip value) = value ∧
      ∃ number, unicode.literalValue value.toList = some number ∧
        readFloat unicode value = some (Numeric.toDouble number) := by
  have token : IsToken unicode value.toList := .literal isLiteral
  constructor
  · rw [token.strip, lower_literal isLiteral]
  · obtain ⟨number, isNumber⟩ := isLiteral.value
    refine ⟨number, isNumber, ?_⟩
    unfold readFloat
    rw [if_neg, if_neg, isNumber]
    · rfl
    · exact literal_ne_name isLiteral 'n' ['a', 'n'] (by decide)
    · rintro (isInf | isInfinity)
      · exact literal_ne_name isLiteral 'i' ['n', 'f'] (by decide) isInf
      · exact literal_ne_name isLiteral 'i' "nfinity".toList (by decide) isInfinity

section Texts

variable {text : List Char}

theorem IsName.isToken (isName : IsName text) : IsToken unicode text := by
  obtain ⟨first, rest, rfl, letter, all⟩ := isName
  exact .identifier letter all

theorem closes_nil : Closes unicode [] := by rintro character ⟨⟩

theorem closes_space {rest : List Char} : Closes unicode (' ' :: rest) := by
  rintro character ⟨⟩
  refine ⟨by decide, ?_, by decide, by decide⟩
  unfold Encoding.Decimals.isDigit
  rw [unicode.digit_space ' ' (by decide)]
  rfl

theorem closes_parenthesis {rest : List Char} : Closes unicode (')' :: rest) := by
  rintro character ⟨⟩
  refine ⟨by decide, ?_, by decide, by decide⟩
  unfold Encoding.Decimals.isDigit
  rw [unicode.digit_other ')' (by decide) (by decide)]
  rfl

/-- A text that spells tokens wherever it stands between white space and what closes it. -/
def SpellsWithin (unicode : Unicode) (text : List Char) (tokens : List String) : Prop :=
  ∀ spaces rest texts, spaces.all isSpace → Closes unicode rest → Spells unicode rest texts →
    Spells unicode (spaces ++ (text ++ rest)) (tokens.map String.toList ++ texts)

theorem spellsWithin_token {token : String} (isToken : IsToken unicode token.toList) :
    SpellsWithin unicode token.toList [token] :=
  fun _ _ _ all closes spells => .cons all (isToken.take closes) isToken spells

theorem SpellsWithin.append {text other : List Char} {tokens others : List String}
    (first : SpellsWithin unicode text tokens) (second : SpellsWithin unicode other others) :
    SpellsWithin unicode (text ++ ' ' :: other) (tokens ++ others) := by
  intro spaces rest texts all closes spells
  have further := second [' '] rest texts (by decide) closes spells
  have whole := first spaces _ _ all closes_space further
  rwa [List.append_assoc, List.cons_append, List.map_append, List.append_assoc]

/-- The characters that a written expression begins and ends with. -/
structure Bounded (text : List Char) : Prop where
  nonempty : text ≠ []
  first : ∀ character ∈ text.head?, isSpace character = false ∧ character ≠ '='
  last : ∀ character ∈ text.getLast?, isSpace character = false

theorem Bounded.append {text other : List Char} (first : Bounded text) (last : Bounded other)
    (middle : List Char) : Bounded (text ++ (middle ++ other)) where
  nonempty := List.append_ne_nil_of_left_ne_nil first.nonempty _
  first := by
    rw [List.head?_append_of_ne_nil _ first.nonempty]
    exact first.first
  last := by
    rw [← List.append_assoc, List.getLast?_append_of_ne_nil _ last.nonempty]
    exact last.last

theorem Bounded.enclose (bounded : Bounded text) (needed : Bool) :
    Bounded (Expression.enclose needed text) := by
  cases needed with
  | false => exact bounded
  | true =>
    have opening : Bounded ['('] := ⟨by decide, by rintro character ⟨⟩; decide,
      by rintro character ⟨⟩; decide⟩
    have closing : Bounded [')'] := ⟨by decide, by rintro character ⟨⟩; decide,
      by rintro character ⟨⟩; decide⟩
    exact opening.append closing text

theorem SpellsWithin.enclose {tokens : List String} (needed : Bool)
    (spelled : SpellsWithin unicode text tokens) (bounded : Bounded text) :
    SpellsWithin unicode (Expression.enclose needed text)
      (Expression.encloseTokens needed tokens) := by
  unfold Expression.enclose Expression.encloseTokens
  cases needed with
  | false => exact spelled
  | true =>
    intro spaces rest texts all closes spells
    have opening : IsToken unicode ['('] := .operator (by decide)
    have closing : IsToken unicode [')'] := .operator (by decide)
    have closed : Spells unicode ([] ++ ([')'] ++ rest)) ([')'] :: texts) :=
      .cons rfl (closing.take closes) closing spells
    have inside := spelled [] _ _ rfl closes_parenthesis closed
    have taken : takeToken unicode (['('] ++ ([] ++ (text ++ ([')'] ++ rest)))) =
        some (['('], [] ++ (text ++ ([')'] ++ rest))) := by
      rw [takeToken_eq, takeOperator_append (by decide)]
      · rfl
      · rw [List.nil_append, List.head?_append_of_ne_nil _ bounded.nonempty]
        exact fun isEqual => (bounded.first _ isEqual).2 rfl
    have whole := Spells.cons all taken opening inside
    simpa using whole

theorem bounded_token (isToken : IsToken unicode text)
    (notEqual : ∀ character ∈ text.head?, character ≠ '=') : Bounded text where
  nonempty := isToken.nonempty
  first := fun character isFirst =>
    ⟨isToken.not_space (List.mem_of_mem_head? isFirst), notEqual character isFirst⟩
  last := fun _ isLast => isToken.not_space (List.mem_of_getLast? isLast)

theorem wellFormed_tokens {field operator value : String}
    (wellFormed : (Expression.comparison field operator value).WellFormed unicode) :
    IsToken unicode field.toList ∧ IsToken unicode operator.toList ∧
      IsToken unicode value.toList := by
  obtain ⟨isName, -, -, allowed, isValue⟩ := wellFormed
  have operators : ∀ operator ∈ allowedComparisonOperators, operator.toList ∈ operators := by decide
  refine ⟨isName.isToken, .operator (operators operator allowed), ?_⟩
  exact isValue.elim .literal fun isField => isField.1.isToken

variable {expression : Expression}

variable (wellFormed : expression.WellFormed unicode)

include wellFormed

theorem Expression.bounded : Bounded expression.write := by
  induction expression with
  | comparison field operator value =>
    obtain ⟨isField, -, isValue⟩ := wellFormed_tokens wellFormed
    obtain ⟨⟨first, rest, isText, letter, -⟩, -⟩ := wellFormed
    have boundedField : Bounded field.toList := by
      apply bounded_token isField
      rw [isText]
      rintro character ⟨⟩ rfl
      exact absurd letter (by decide)
    have split : (Expression.comparison field operator value).write =
        (field.toList ++ ' ' :: (operator.toList ++ [' '])) ++ value.toList := by
      simp [Expression.write]
    refine ⟨?_, ?_, ?_⟩
    · exact List.append_ne_nil_of_left_ne_nil boundedField.nonempty _
    · rw [Expression.write, List.head?_append_of_ne_nil _ boundedField.nonempty]
      exact boundedField.first
    · rw [split, List.getLast?_append_of_ne_nil _ isValue.nonempty]
      exact fun _ isLast => isValue.not_space (List.mem_of_getLast? isLast)
  | logical operator left right leftIh rightIh =>
    have boundedLeft := leftIh wellFormed.1
    have boundedRight := rightIh wellFormed.2
    cases operator with
    | or => exact boundedLeft.append boundedRight [' ', 'O', 'R', ' ']
    | and => exact (boundedLeft.enclose _).append (boundedRight.enclose _) [' ', 'A', 'N', 'D', ' ']

theorem Expression.spells :
    SpellsWithin unicode expression.write expression.tokens := by
  induction expression with
  | comparison field operator value =>
    obtain ⟨isField, isOperator, isValue⟩ := wellFormed_tokens wellFormed
    exact (spellsWithin_token isField).append
      ((spellsWithin_token isOperator).append (spellsWithin_token isValue))
  | logical operator left right leftIh rightIh =>
    have spelledLeft := leftIh wellFormed.1
    have spelledRight := rightIh wellFormed.2
    cases operator with
    | or =>
      have isOr : IsToken unicode "OR".toList := .identifier (by decide) (by decide)
      exact spelledLeft.append ((spellsWithin_token isOr).append spelledRight)
    | and =>
      have isAnd : IsToken unicode "AND".toList := .identifier (by decide) (by decide)
      exact (spelledLeft.enclose _ (Expression.bounded wellFormed.1)).append
        ((spellsWithin_token isAnd).append
          (spelledRight.enclose _ (Expression.bounded wellFormed.2)))

theorem tokenize_write :
    ∃ tokens, tokenizeQueryExpression unicode (some (String.ofList expression.write)) = .ok tokens ∧
      values tokens = expression.tokens := by
  have bounded := Expression.bounded wellFormed
  have stripped : strip (String.ofList expression.write) = String.ofList expression.write := by
    apply Runtime.strip_eq_self
    · rw [String.toList_ofList]
      exact fun character isFirst => (bounded.first character isFirst).1
    · rw [String.toList_ofList]
      exact bounded.last
  have nonempty : String.ofList expression.write ≠ "" := by
    intro empty
    apply bounded.nonempty
    rw [← String.toList_ofList (l := expression.write), empty]
    rfl
  have spells := Expression.spells wellFormed [] [] [] rfl closes_nil .nil
  rw [List.nil_append, List.append_nil, List.append_nil] at spells
  obtain ⟨tokens, isTokens, isValues⟩ := @Spells.tokenize _ 0 _ _ spells
  refine ⟨tokens, ?_, ?_⟩
  · unfold tokenizeQueryExpression
    dsimp only [Option.getD_some]
    rw [stripped, if_neg nonempty, String.toList_ofList]
    exact isTokens
  · rw [isValues, List.map_map]
    simp

end Texts

theorem comparisonOf_supported {field operator value : String}
    (supported : unicode.IsLiteral value.toList ∨
      (isSupportedField unicode (lower (strip value)) = true ∨
        lower (strip value) ∈ ["inf", "infinity", "nan"])) :
    ∃ comparison, comparisonOf unicode field operator value = some comparison := by
  unfold comparisonOf
  dsimp only
  cases isFloat : readFloat unicode (lower (strip value)) with
  | some number => exact ⟨_, rfl⟩
  | none =>
    rcases supported with isLiteral | isField | isWord
    · obtain ⟨isValue, number, -, isNumber⟩ := readFloat_literal isLiteral
      rw [isValue, isNumber] at isFloat
      cases isFloat
    · exact ⟨_, if_pos isField⟩
    · unfold readFloat at isFloat
      simp only [List.mem_cons, List.not_mem_nil, or_false] at isWord
      rcases isWord with isWord | isWord | isWord <;> rw [isWord] at isFloat <;> cases isFloat

theorem Expression.exists_tree {expression : Expression}
    (wellFormed : expression.WellFormed unicode) : ∃ tree, expression.tree unicode = some tree := by
  induction expression with
  | comparison field operator value =>
    obtain ⟨-, -, -, -, isValue⟩ := wellFormed
    obtain ⟨comparison, isComparison⟩ :=
      @comparisonOf_supported unicode (lower field) operator value
        (isValue.imp_right And.right)
    exact ⟨.comparison comparison, by rw [Expression.tree, isComparison]; rfl⟩
  | logical operator left right leftIh rightIh =>
    obtain ⟨leftTree, isLeft⟩ := leftIh wellFormed.1
    obtain ⟨rightTree, isRight⟩ := rightIh wellFormed.2
    exact ⟨.logical operator leftTree rightTree, by rw [Expression.tree, isLeft, isRight]⟩

/-- A written expression is read as its tree but for the association of the operators, and what is
not of the grammar is refused. -/
theorem query_language (unicode : Unicode) :
    (∀ expression : Expression, expression.WellFormed unicode →
      ∃ tree node, expression.tree unicode = some tree ∧
        parseQueryExpression unicode (some (String.ofList expression.write)) = .ok node ∧
        Reassociated node tree) ∧
    ∀ tokens, (¬∃ node, OrExpression unicode tokens node) →
      ∃ error, parse unicode tokens = .error (.refused error) := by
  refine ⟨fun expression wellFormed => ?_, fun tokens other => parse_refused other⟩
  obtain ⟨tree, isTree⟩ := Expression.exists_tree wellFormed
  obtain ⟨node, isExpression, same⟩ := (Expression.derives wellFormed isTree).1
  obtain ⟨tokens, isTokens, areValues⟩ := tokenize_write wellFormed
  refine ⟨tree, node, isTree, ?_, same⟩
  unfold parseQueryExpression
  rw [isTokens]
  dsimp only
  rw [areValues]
  exact parse_iff.mpr isExpression

def exampleExpression : Expression :=
  .logical .and (.comparison "close" "<" "5")
    (.logical .or (.comparison "RSI14" ">" "ema20") (.comparison "volume" ">=" "1.5"))

theorem exampleExpression_wellFormed : exampleExpression.WellFormed asciiClasses := by
  refine ⟨⟨⟨'c', "lose".toList, rfl, by decide, by decide⟩, by decide +kernel, by decide +kernel,
    by decide, .inl (.whole (by decide) (by decide))⟩,
    ⟨⟨'R', "SI14".toList, rfl, by decide, by decide⟩, by decide +kernel, by decide +kernel,
      by decide, .inr ⟨⟨'e', "ma20".toList, rfl, by decide, by decide⟩,
        .inl (by decide +kernel)⟩⟩,
    ⟨'v', "olume".toList, rfl, by decide, by decide⟩, by decide +kernel, by decide +kernel,
      by decide, .inl ?_⟩
  have isLiteral : asciiClasses.IsLiteral (['1'] ++ '.' :: ['5']) :=
    .fraction (by decide) (by decide) (by decide) (by decide)
  exact isLiteral

theorem query_language_example :
    (∃ tree node, exampleExpression.tree asciiClasses = some tree ∧
      parseQueryExpression asciiClasses (some "close < 5 AND (RSI14 > ema20 OR volume >= 1.5)") =
        .ok node ∧ Reassociated node tree) ∧
    ∃ error, parse asciiClasses [] = .error (.refused error) :=
  ⟨(query_language asciiClasses).1 exampleExpression exampleExpression_wellFormed,
    (query_language asciiClasses).2 [] fun ⟨_, read⟩ =>
      Chained.nonempty AndExpression.nonempty read⟩

end Query
