import Mathlib.Data.List.Basic

/-!
# Chains of items

A parser reads a value off the front of some tokens. From a parser of items one gets the parser of
a chain, an item and then an item behind each separator, whose values are combined from the left.
The chain reads just the sequences of the grammar `item (separator item)*`, each with one value.
-/

namespace Parsing

universe u v w

variable {Token : Type u} {Failure : Type v} {Value : Type w}

abbrev Parser (Token : Type u) (Failure : Type v) (Value : Type w) :=
  List Token → Except Failure (Value × List Token)

section Definitions

variable (separator : Token → Bool) (combine : Value → Value → Value) (stuck : Failure)
  (item : Parser Token Failure Value)

/-- What a value is extended to. -/
def chainRest (value : Value) (tokens : List Token) : Except Failure (Value × List Token) :=
  match tokens with
  | [] => .ok (value, [])
  | token :: rest =>
    if separator token then
      match item rest with
      | .error failure => .error failure
      | .ok (right, left) =>
        if left.length < rest.length then chainRest (combine value right) left else .error stuck
    else .ok (value, token :: rest)
termination_by tokens.length
decreasing_by
  rw [List.length_cons]
  omega

def chain : Parser Token Failure Value := fun tokens =>
  match item tokens with
  | .error failure => .error failure
  | .ok (value, rest) => chainRest separator combine stuck item value rest

end Definitions

/-- The grammar of a chain, with the value that it is read as. -/
inductive Chained (Item : List Token → Value → Prop) (separator : Token → Bool)
    (combine : Value → Value → Value) : List Token → Value → Prop
  | one {tokens : List Token} {value : Value} :
      Item tokens value → Chained Item separator combine tokens value
  | more {tokens others : List Token} {value right : Value} {token : Token} :
      Chained Item separator combine tokens value → separator token → Item others right →
      Chained Item separator combine (tokens ++ token :: others) (combine value right)

section Laws

variable {separator : Token → Bool} {combine : Value → Value → Value} {stuck : Failure}
  {item : Parser Token Failure Value} {Item : List Token → Value → Prop}

def Sound (item : Parser Token Failure Value) (Item : List Token → Value → Prop) : Prop :=
  ∀ tokens value rest, item tokens = .ok (value, rest) →
    ∃ used, tokens = used ++ rest ∧ Item used value

def Definite (stuck : Failure) (item : Parser Token Failure Value) (length : ℕ) : Prop :=
  ∀ tokens : List Token, tokens.length < length → item tokens ≠ .error stuck

/-- A parser reads what is of a grammar, up to a length and in front of what may follow. -/
def Complete (item : Parser Token Failure Value) (Item : List Token → Value → Prop)
    (Follows : List Token → Prop) (length : ℕ) : Prop :=
  ∀ used value, Item used value → used.length < length →
    ∀ rest, Follows rest → item (used ++ rest) = .ok (value, rest)

def Ends (separator : Token → Bool) (tokens : List Token) : Prop :=
  ∀ token ∈ tokens.head?, separator token = false

theorem chainRest_nil {value : Value} :
    chainRest separator combine stuck item value [] = .ok (value, []) := by
  rw [chainRest]

theorem chainRest_ends {value : Value} {tokens : List Token} (ends : Ends separator tokens) :
    chainRest separator combine stuck item value tokens = .ok (value, tokens) := by
  cases tokens with
  | nil => exact chainRest_nil
  | cons token rest =>
    rw [chainRest, ends token rfl]
    exact if_neg Bool.false_ne_true

theorem chainRest_separator {value right : Value} {token : Token} {others rest : List Token}
    (separates : separator token = true) (nonempty : others ≠ [])
    (reads : item (others ++ rest) = .ok (right, rest)) :
    chainRest separator combine stuck item value (token :: (others ++ rest)) =
      chainRest separator combine stuck item (combine value right) rest := by
  have shorter : rest.length < (others ++ rest).length := by
    rw [List.length_append]
    have := List.length_pos_of_ne_nil nonempty
    omega
  rw [chainRest, if_pos separates, reads]
  exact if_pos shorter

theorem Chained.chainRest_sound (sound : Sound item Item) {before tokens rest : List Token}
    {value final : Value} (read : Chained Item separator combine before value)
    (reads : chainRest separator combine stuck item value tokens = .ok (final, rest)) :
    ∃ used, tokens = used ++ rest ∧ Chained Item separator combine (before ++ used) final := by
  induction length : tokens.length using Nat.strongRecOn
    generalizing before tokens value with
  | _ length ih =>
    cases tokens with
    | nil =>
      rw [chainRest_nil] at reads
      cases reads
      exact ⟨[], rfl, by rwa [List.append_nil]⟩
    | cons token others =>
      rw [chainRest] at reads
      split at reads
      · next separates =>
        cases isItem : item others with
        | error failure =>
          rw [isItem] at reads
          cases reads
        | ok read' =>
          obtain ⟨right, left⟩ := read'
          rw [isItem] at reads
          obtain ⟨more, isOthers, isRight⟩ := sound _ _ _ isItem
          change (if left.length < others.length then _ else _) = _ at reads
          split at reads
          · next shorter =>
            obtain ⟨used, isLeft, chained⟩ := ih left.length
              (by rw [← length, List.length_cons]; omega) (read.more separates isRight) reads rfl
            refine ⟨token :: (more ++ used), ?_, ?_⟩
            · rw [isOthers, isLeft, List.cons_append, List.append_assoc]
            · rwa [List.append_assoc, List.cons_append] at chained
          · cases reads
      · cases reads
        exact ⟨[], rfl, by rwa [List.append_nil]⟩

theorem Sound.chain (sound : Sound item Item) :
    Sound (Parsing.chain separator combine stuck item) (Chained Item separator combine) := by
  intro tokens final rest reads
  unfold Parsing.chain at reads
  cases isItem : item tokens with
  | error failure =>
    rw [isItem] at reads
    cases reads
  | ok read =>
    obtain ⟨value, left⟩ := read
    rw [isItem] at reads
    obtain ⟨first, isTokens, isFirst⟩ := sound _ _ _ isItem
    obtain ⟨used, isLeft, chained⟩ := (Chained.one isFirst).chainRest_sound sound reads
    exact ⟨first ++ used, by rw [isTokens, isLeft, List.append_assoc], chained⟩

theorem Complete.chain {Follows : List Token → Prop} {length : ℕ}
    (complete : Complete item Item Follows length) (nonempty : ∀ value, ¬Item [] value)
    (separates : ∀ token rest, separator token = true → Follows (token :: rest)) :
    Complete (chain separator combine stuck item) (Chained Item separator combine)
      (fun rest => Follows rest ∧ Ends separator rest) length := by
  intro used value chained short rest follows
  suffices reads : ∀ rest, Follows rest →
      Parsing.chain separator combine stuck item (used ++ rest) =
        chainRest separator combine stuck item value rest by
    rw [reads rest follows.1]
    exact chainRest_ends follows.2
  clear follows rest
  induction chained with
  | one isItem =>
    intro rest follows
    unfold Parsing.chain
    rw [complete _ _ isItem short rest follows]
  | @more tokens others value right token chained isSeparator isItem ih =>
    intro rest follows
    rw [List.length_append, List.length_cons] at short
    have isNonempty : others ≠ [] := by
      rintro rfl
      exact nonempty right isItem
    rw [List.append_assoc, List.cons_append,
      ih (by omega) _ (separates token _ isSeparator)]
    exact chainRest_separator isSeparator isNonempty
      (complete _ _ isItem (by omega) rest follows)

theorem Definite.chain {length : ℕ} (definite : Definite stuck item length)
    (sound : Sound item Item) (nonempty : ∀ value, ¬Item [] value) :
    Definite stuck (chain separator combine stuck item) length := by
  have rests (tokens : List Token) (short : tokens.length < length) (value : Value) :
      chainRest separator combine stuck item value tokens ≠ .error stuck := by
    induction isLength : tokens.length using Nat.strongRecOn generalizing tokens value with
    | _ bound ih =>
      cases tokens with
      | nil =>
        rw [chainRest_nil]
        exact nofun
      | cons token others =>
        rw [List.length_cons] at short isLength
        rw [chainRest]
        split
        · cases isItem : item others with
          | error failure =>
            intro same
            exact definite others (by omega) (isItem.trans same)
          | ok read =>
            obtain ⟨right, left⟩ := read
            obtain ⟨used, isOthers, isRight⟩ := sound _ _ _ isItem
            have shorter : left.length < others.length := by
              rw [isOthers, List.length_append]
              have : used ≠ [] := by
                rintro rfl
                exact nonempty right isRight
              have := List.length_pos_of_ne_nil this
              omega
            change (if left.length < others.length then _ else _) ≠ _
            rw [if_pos shorter]
            exact ih left.length (by omega) left (by omega) _ rfl
        · exact nofun
  intro tokens short
  unfold Parsing.chain
  cases isItem : item tokens with
  | error failure =>
    intro same
    exact definite tokens short (isItem.trans same)
  | ok read =>
    obtain ⟨value, left⟩ := read
    obtain ⟨used, isTokens, -⟩ := sound _ _ _ isItem
    apply rests
    rw [isTokens, List.length_append] at short
    omega

theorem Chained.nonempty (nonempty : ∀ value, ¬Item [] value) {value : Value} :
    ¬Chained Item separator combine [] value := by
  intro chained
  generalize isTokens : ([] : List Token) = tokens at chained
  cases chained with
  | one isItem => exact nonempty value (isTokens ▸ isItem)
  | more => exact absurd isTokens.symm (List.append_ne_nil_of_right_ne_nil _ (List.cons_ne_nil _ _))

theorem Chained.lift {Good : List Token → Value → Prop} {length : ℕ}
    (items : ∀ used value, Item used value → used.length ≤ length → Good used value)
    (combined : ∀ tokens token others value right, Good tokens value → Good others right →
      Good (tokens ++ token :: others) (combine value right))
    {tokens : List Token} {value : Value} (chained : Chained Item separator combine tokens value)
    (short : tokens.length ≤ length) : Good tokens value := by
  induction chained with
  | one isItem => exact items _ _ isItem short
  | more chained separates isItem ih =>
    rw [List.length_append, List.length_cons] at short
    exact combined _ _ _ _ _ (ih (by omega)) (items _ _ isItem (by omega))

/-- Two chains around a separator are one chain, whose value is the same up to the order of
combination. -/
theorem Chained.append {Same : Value → Value → Prop} (refl : ∀ value, Same value value)
    (trans : ∀ {value other third}, Same value other → Same other third → Same value third)
    (left : ∀ {value other} right, Same value other → Same (combine value right)
      (combine other right))
    (assoc : ∀ value other third,
      Same (combine (combine value other) third) (combine value (combine other third)))
    {tokens others : List Token} {value right : Value} {token : Token}
    (chained : Chained Item separator combine tokens value) (separates : separator token)
    (further : Chained Item separator combine others right) :
    ∃ whole, Chained Item separator combine (tokens ++ token :: others) whole ∧
      Same whole (combine value right) := by
  induction further with
  | one isItem => exact ⟨_, chained.more separates isItem, refl _⟩
  | @more middle last value' right' token' further' separates' isItem ih =>
    obtain ⟨whole, isWhole, same⟩ := ih
    refine ⟨combine whole right', ?_, trans (left right' same) (assoc _ _ _)⟩
    have longer := isWhole.more separates' isItem
    rwa [List.append_assoc, List.cons_append] at longer

end Laws

end Parsing
