import CoinRobotu.Query.Parser

/-!
# The grammar of the screener's query language

The parser accepts just the sequences of tokens of the grammar.
-/

namespace Query

open Parsing (Chained Sound Definite Complete Ends chain)
open Runtime (lower upper strip isSpace)

section Grammar

variable (unicode : Unicode)

/-- `factor := comparison | ( or-expression )`, with the node that is built for it. -/
inductive Factor : List String → Node → Prop
  | comparison {field operator value : String} {comparison : Comparison} :
      upper (lower field) ∉ ["AND", "OR"] → isSupportedField unicode (lower field) →
      operator ∈ allowedComparisonOperators →
      comparisonOf unicode (lower field) operator value = some comparison →
      Factor [field, operator, value] (.comparison comparison)
  | parentheses {tokens : List String} {node : Node} :
      Chained (Chained Factor (isKeyword "AND") (.logical .and)) (isKeyword "OR") (.logical .or)
        tokens node → Factor ("(" :: (tokens ++ [")"])) node

/-- `and-expression := factor (AND factor)*`. -/
abbrev AndExpression : List String → Node → Prop :=
  Chained (Factor unicode) (isKeyword "AND") (.logical .and)

/-- `or-expression := and-expression (OR and-expression)*`. -/
abbrev OrExpression : List String → Node → Prop :=
  Chained (AndExpression unicode) (isKeyword "OR") (.logical .or)

end Grammar

variable {unicode : Unicode} {inner : Parsing.Parser String Failure Node}

theorem Factor.nonempty (node : Node) : ¬Factor unicode [] node := by
  intro factor
  generalize isTokens : ([] : List String) = tokens at factor
  cases factor <;> cases isTokens

theorem AndExpression.nonempty (node : Node) : ¬AndExpression unicode [] node :=
  Chained.nonempty Factor.nonempty

theorem parseComparison_sound {tokens rest : List String} {node : Node}
    (reads : parseComparison unicode tokens = .ok (node, rest)) :
    ∃ used, tokens = used ++ rest ∧ Factor unicode used node := by
  cases tokens with
  | nil => cases reads
  | cons field others =>
    unfold parseComparison at reads
    dsimp only at reads
    split at reads
    · cases reads
    · next notKeyword =>
      split at reads
      · cases reads
      · next supported =>
        split at reads
        · cases reads
        · next operator others =>
          split at reads
          · cases reads
          · next allowed =>
            split at reads
            · cases reads
            · next value others =>
              split at reads
              · next comparison isComparison =>
                cases reads
                exact ⟨[field, operator, value], rfl, .comparison notKeyword
                  (not_not.mp supported) (not_not.mp allowed) isComparison⟩
              · cases reads

theorem parseComparison_complete {field operator value : String} {comparison : Comparison}
    {rest : List String} (notKeyword : upper (lower field) ∉ ["AND", "OR"])
    (supported : isSupportedField unicode (lower field))
    (allowed : operator ∈ allowedComparisonOperators)
    (isComparison : comparisonOf unicode (lower field) operator value = some comparison) :
    parseComparison unicode (field :: operator :: value :: rest) =
      .ok (.comparison comparison, rest) := by
  unfold parseComparison
  dsimp only
  rw [if_neg notKeyword, if_neg (not_not.mpr supported), if_neg (not_not.mpr allowed), isComparison]

theorem parseComparison_definite (tokens : List String) :
    parseComparison unicode tokens ≠ .error .exhausted := by
  intro exhausted
  cases tokens with
  | nil => cases exhausted
  | cons field others =>
    unfold parseComparison at exhausted
    dsimp only at exhausted
    split_ifs at exhausted
    all_goals try cases exhausted
    cases others with
    | nil => cases exhausted
    | cons operator others =>
      dsimp only at exhausted
      split_ifs at exhausted
      all_goals try cases exhausted
      cases others with
      | nil => cases exhausted
      | cons value others =>
        dsimp only at exhausted
        split at exhausted <;> cases exhausted

theorem not_isSupportedField_parenthesis : isSupportedField unicode (lower "(") = false := by
  have same : lower (strip (lower "(")) = "(" := by decide +kernel
  unfold isSupportedField
  dsimp only
  rw [same]
  rfl

theorem parseFactor_sound (sound : Sound inner (OrExpression unicode)) :
    Sound (parseFactor unicode inner) (Factor unicode) := by
  intro tokens node rest reads
  cases tokens with
  | nil => cases reads
  | cons token others =>
    unfold parseFactor at reads
    dsimp only at reads
    split at reads
    · next isOpen =>
      split at reads
      · cases reads
      · cases reads
      · next node' closing left isInner =>
        split at reads
        · next isClose =>
          cases reads
          obtain ⟨used, isOthers, isOr⟩ := sound _ _ _ isInner
          refine ⟨"(" :: (used ++ [")"]), ?_, .parentheses isOr⟩
          rw [isOpen, isOthers, isClose, List.cons_append, List.append_assoc, List.singleton_append]
        · cases reads
    · exact parseComparison_sound reads

theorem parseFactor_definite {length : ℕ} (definite : Definite .exhausted inner length) :
    Definite .exhausted (parseFactor unicode inner) (length + 1) := by
  intro tokens short exhausted
  cases tokens with
  | nil => cases exhausted
  | cons token others =>
    rw [List.length_cons] at short
    unfold parseFactor at exhausted
    dsimp only at exhausted
    split at exhausted
    · split at exhausted
      · next failure isInner =>
        cases exhausted
        exact definite others (by omega) isInner
      · cases exhausted
      · split at exhausted <;> cases exhausted
    · exact parseComparison_definite _ exhausted

theorem parseFactor_complete {Follows : List String → Prop} {length : ℕ}
    (complete : Complete inner (OrExpression unicode) Follows length)
    (closes : ∀ rest, Follows (")" :: rest)) :
    Complete (parseFactor unicode inner) (Factor unicode) (fun _ => True) (length + 1) := by
  intro used node factor short rest _
  cases factor with
  | @comparison field operator value comparison notKeyword supported allowed isComparison =>
    have notOpen : field ≠ "(" := by
      rintro rfl
      rw [not_isSupportedField_parenthesis] at supported
      cases supported
    change parseFactor unicode inner (field :: operator :: value :: rest) = _
    unfold parseFactor
    dsimp only
    rw [if_neg notOpen]
    exact parseComparison_complete notKeyword supported allowed isComparison
  | @parentheses tokens node isOr =>
    rw [List.length_cons, List.length_append, List.length_singleton] at short
    have isInner := complete tokens node isOr (by omega) (")" :: rest) (closes rest)
    rw [List.cons_append, List.append_assoc, List.singleton_append]
    unfold parseFactor
    dsimp only
    rw [if_pos rfl, isInner]
    exact if_pos rfl

theorem parseOr_sound (depth : ℕ) : Sound (parseOr unicode depth) (OrExpression unicode) := by
  induction depth with
  | zero =>
    intro tokens node rest reads
    cases reads
  | succ depth ih => exact (parseFactor_sound ih).chain.chain

theorem parseOr_definite (depth : ℕ) : Definite .exhausted (parseOr unicode depth) depth := by
  induction depth with
  | zero => exact fun tokens short => absurd short (Nat.not_lt_zero _)
  | succ depth ih =>
    have below : Sound (parseOr unicode depth) (OrExpression unicode) := parseOr_sound depth
    have sound := parseFactor_sound below
    exact ((parseFactor_definite ih).chain sound Factor.nonempty).chain sound.chain
      AndExpression.nonempty

def FollowsExpression (rest : List String) : Prop :=
  (True ∧ Ends (isKeyword "AND") rest) ∧ Ends (isKeyword "OR") rest

theorem parseOr_complete (depth : ℕ) :
    Complete (parseOr unicode depth) (OrExpression unicode) FollowsExpression depth := by
  induction depth with
  | zero => exact fun _ _ _ short => absurd short (Nat.not_lt_zero _)
  | succ depth ih =>
    have closes (rest : List String) : FollowsExpression (")" :: rest) := by
      refine ⟨⟨trivial, ?_⟩, ?_⟩
      all_goals
        rintro token ⟨⟩
        decide +kernel
    have apart (token : String) (rest : List String) (isOr : isKeyword "OR" token = true) :
        True ∧ Ends (isKeyword "AND") (token :: rest) := by
      refine ⟨trivial, ?_⟩
      rintro token ⟨⟩
      unfold isKeyword at isOr ⊢
      rw [of_decide_eq_true isOr]
      rfl
    exact ((parseFactor_complete ih closes).chain Factor.nonempty
      fun _ _ _ => trivial).chain AndExpression.nonempty apart

theorem parse_iff {tokens : List String} {node : Node} :
    parse unicode tokens = .ok node ↔ OrExpression unicode tokens node := by
  constructor
  · intro parsed
    unfold parse at parsed
    cases isOr : parseOr unicode (tokens.length + 1) tokens with
    | error failure =>
      rw [isOr] at parsed
      cases parsed
    | ok read =>
      obtain ⟨read, left⟩ := read
      rw [isOr] at parsed
      cases left with
      | nil =>
        cases parsed
        obtain ⟨used, isTokens, isExpression⟩ := parseOr_sound _ _ _ _ isOr
        rwa [isTokens, List.append_nil]
      | cons => cases parsed
  · intro isExpression
    have reads := parseOr_complete (tokens.length + 1) tokens node isExpression
      (Nat.lt_succ_self _) [] ⟨⟨trivial, by rintro token ⟨⟩⟩, by rintro token ⟨⟩⟩
    rw [List.append_nil] at reads
    unfold parse
    rw [reads]

theorem parse_refused {tokens : List String}
    (other : ¬∃ node, OrExpression unicode tokens node) :
    ∃ error, parse unicode tokens = .error (.refused error) := by
  cases parsed : parse unicode tokens with
  | ok node => exact absurd ⟨node, parse_iff.mp parsed⟩ other
  | error failure =>
    cases failure with
    | refused error => exact ⟨error, rfl⟩
    | exhausted =>
      unfold parse at parsed
      cases isOr : parseOr unicode (tokens.length + 1) tokens with
      | error failure =>
        rw [isOr] at parsed
        cases parsed
        exact absurd isOr (parseOr_definite _ tokens (Nat.lt_succ_self _))
      | ok read =>
        obtain ⟨node, left⟩ := read
        rw [isOr] at parsed
        cases left <;> cases parsed

end Query
