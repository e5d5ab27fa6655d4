import Mathlib.Data.Finset.Basic
import CoinRobotu.Query.Texts

/-!
# The evaluation of screener queries

A tree is evaluated under values of the fields.
-/

namespace Query

open Numeric (Double toDouble roundBinary)
open Runtime (lower lower_lower)

inductive Reading where
  | finite (value : ℚ)
  | infinite (negative : Bool)
  | nan
  deriving DecidableEq

namespace Reading

def ofDouble : Double → Reading
  | .finite value => finite value
  | .infinity => infinite false
  | .nan => nan

def less : Reading → Reading → Bool
  | finite left, finite right => left < right
  | finite _, infinite negative => !negative
  | infinite negative, finite _ => negative
  | infinite negative, infinite other => negative && !other
  | _, _ => false

def atMost (left right : Reading) : Bool := left.less right || left = right && left ≠ nan

/-- `abs(lhs - rhs)`. -/
def distance : Reading → Reading → Double
  | finite left, finite right => toDouble |left - right|
  | nan, _ => .nan
  | _, nan => .nan
  | infinite negative, infinite other => if negative = other then .nan else .infinity
  | _, _ => .infinity

end Reading

/-- `1e-9`. -/
def tolerance : ℚ := roundBinary (1 / 10 ^ 9)

def isWithin : Double → Bool
  | .finite value => value ≤ tolerance
  | _ => false

def isBeyond : Double → Bool
  | .finite value => tolerance < value
  | .infinity => true
  | .nan => false

section Evaluation

def Node.fields : Node → Finset String
  | .comparison leaf =>
    let named := insert (lower leaf.field)
      ((leaf.rhsField.filter (· ≠ "")).toList.map lower).toFinset
    named.filter (· ≠ "")
  | .logical _ left right => left.fields ∪ right.fields

def collectQueryFields (ast : Option Node) : Finset String := ast.elim ∅ Node.fields

/-- `_compare`. -/
def compare (left : Reading) (operator : String) (right : Reading) : Except QueryParseError Bool :=
  if operator = "<" then .ok (left.less right)
  else if operator = "<=" then .ok (left.atMost right)
  else if operator = ">" then .ok (right.less left)
  else if operator = ">=" then .ok (right.atMost left)
  else if operator = "=" then .ok (isWithin (left.distance right))
  else if operator = "!=" then .ok (isBeyond (left.distance right))
  else .error ⟨"Bilinmeyen operatör: " ++ operator⟩

/-- Whether a tree matched, the rules that matched and their fields. -/
structure Evaluation where
  matched : Bool
  rules : List String
  fields : List String
  deriving DecidableEq

def Evaluation.unmatched : Evaluation := ⟨false, [], []⟩

def Evaluation.both (left right : Evaluation) : Evaluation :=
  ⟨true, left.rules ++ right.rules, left.fields ++ right.fields⟩

def Logical.evaluate (left right : Evaluation) : Logical → Evaluation
  | .and => if left.matched && right.matched then left.both right else .unmatched
  | .or =>
    if left.matched && right.matched then left.both right
    else if left.matched then left
    else if right.matched then right
    else .unmatched

variable (values : String → Option Reading)

def Comparison.rightReading (comparison : Comparison) : Except QueryParseError Reading :=
  match comparison.valueType with
  | .number => .ok (.ofDouble comparison.value)
  | .field =>
    match comparison.rhsField.bind values with
    | some reading => .ok reading
    | none => .error ⟨"Karşılaştırma alanı bulunamadı: " ++ comparison.rhsField.getD "None"⟩

def Comparison.evaluate (comparison : Comparison) : Except QueryParseError Evaluation :=
  match values comparison.field with
  | none => .error ⟨"Alan değeri bulunamadı: " ++ comparison.field⟩
  | some left => do
    let right ← comparison.rightReading values
    let result ← compare left comparison.operator right
    if result then
      let rhsField := (comparison.rhsField.filter (· ≠ "")).toList
      return ⟨true, [comparison.text], comparison.field :: rhsField⟩
    else return .unmatched

def evaluateQueryAst : Node → Except QueryParseError Evaluation
  | .comparison leaf => leaf.evaluate values
  | .logical operator left right => do
    let left ← evaluateQueryAst left
    let right ← evaluateQueryAst right
    return operator.evaluate left right

end Evaluation

section Meaning

/-- Two readings stand in the relation of an operator. -/
def Related (left right : Reading) (operator : String) : Prop :=
  operator = "<" ∧ left.less right ∨ operator = "<=" ∧ left.atMost right ∨
    operator = ">" ∧ right.less left ∨ operator = ">=" ∧ right.atMost left ∨
    operator = "=" ∧ isWithin (left.distance right) ∨
    operator = "!=" ∧ isBeyond (left.distance right)

def Comparison.Holds (values : String → Option Reading) (comparison : Comparison) : Prop :=
  ∃ left right, values comparison.field = some left ∧
    comparison.rightReading values = .ok right ∧ Related left right comparison.operator

/-- The truth of a tree whose comparisons have the given truth. -/
def Node.Holds (truth : Comparison → Prop) : Node → Prop
  | .comparison leaf => truth leaf
  | .logical .and left right => left.Holds truth ∧ right.Holds truth
  | .logical .or left right => left.Holds truth ∨ right.Holds truth

/-- What is known of a comparison that the parser built. -/
structure Comparison.Parsed (comparison : Comparison) : Prop where
  operator : comparison.operator ∈ allowedComparisonOperators
  field : lower comparison.field = comparison.field ∧ comparison.field ≠ ""
  rhsField : comparison.valueType = .field → ∃ name, comparison.rhsField = some name ∧
    lower name = name ∧ name ≠ ""

variable {unicode : Unicode} {values : String → Option Reading} {comparison : Comparison}

theorem compare_related {left right : Reading} {operator : String}
    (allowed : operator ∈ allowedComparisonOperators) :
    ∃ result, compare left operator right = .ok result ∧
      (result = true ↔ Related left right operator) := by
  simp only [allowedComparisonOperators, List.mem_cons, List.not_mem_nil, or_false] at allowed
  rcases allowed with rfl | rfl | rfl | rfl | rfl | rfl
  all_goals exact ⟨_, rfl, by simp [Related]⟩

theorem ne_empty_of_supported {field : String} (supported : isSupportedField unicode field) :
    field ≠ "" := by
  rintro rfl
  obtain ⟨first, rest, isText, -⟩ := supported_first supported
  have empty : (lower (Runtime.strip "")).toList = [] := by decide +kernel
  rw [empty] at isText
  cases isText

theorem ReadFrom.parsed {tokens : List String} (read : ReadFrom unicode tokens comparison) :
    comparison.Parsed := by
  obtain ⟨field, operator, value, -, -, -, supported, allowed, isComparison⟩ := read
  have isField := And.intro (lower_lower field) (ne_empty_of_supported supported)
  unfold comparisonOf at isComparison
  dsimp only at isComparison
  split at isComparison
  · cases isComparison
    exact ⟨allowed, isField, nofun⟩
  · split at isComparison
    · next isRight =>
      cases isComparison
      exact ⟨allowed, isField, fun _ => ⟨_, rfl, lower_lower _, ne_empty_of_supported isRight⟩⟩
    · cases isComparison

end Meaning

section Correctness

variable {values : String → Option Reading}

/-- What an evaluation says of its tree. -/
structure Evaluation.Reports (values : String → Option Reading) (node : Node)
    (evaluation : Evaluation) : Prop where
  truth : evaluation.matched = true ↔ node.Holds (Comparison.Holds values)
  rules : ∀ rule ∈ evaluation.rules,
    ∃ comparison ∈ node.comparisons, comparison.text = rule ∧ comparison.Holds values
  nonempty : evaluation.rules ≠ [] ↔ evaluation.matched = true

namespace Evaluation.Reports

variable {node left right other : Node} {first second : Evaluation}

theorem unmatched (fails : ¬node.Holds (Comparison.Holds values)) :
    Evaluation.unmatched.Reports values node :=
  ⟨⟨nofun, fun holds => absurd holds fails⟩, nofun, by simp [Evaluation.unmatched]⟩

theorem fails (reports : first.Reports values node) (isFalse : first.matched = false) :
    ¬node.Holds (Comparison.Holds values) := by
  rw [← reports.truth, isFalse]
  exact Bool.false_ne_true

theorem widen (reports : first.Reports values node) (isTrue : first.matched = true)
    (holds : node.Holds (Comparison.Holds values) → other.Holds (Comparison.Holds values))
    (subset : node.comparisons ⊆ other.comparisons) : first.Reports values other := by
  refine ⟨⟨fun matched => holds (reports.truth.mp matched), fun _ => isTrue⟩, ?_, reports.nonempty⟩
  intro rule inside
  obtain ⟨comparison, within, facts⟩ := reports.rules rule inside
  exact ⟨comparison, subset within, facts⟩

theorem both (isFirst : first.Reports values left) (isSecond : second.Reports values right)
    (isTrue : first.matched = true) (leftIn : left.comparisons ⊆ other.comparisons)
    (rightIn : right.comparisons ⊆ other.comparisons)
    (holds : other.Holds (Comparison.Holds values)) :
    (first.both second).Reports values other := by
  have someRule : first.rules ≠ [] := isFirst.nonempty.mpr isTrue
  refine ⟨⟨fun _ => holds, fun _ => rfl⟩, ?_, ⟨fun _ => rfl, fun _ => ?_⟩⟩
  · intro rule inside
    rcases List.mem_append.mp inside with before | behind
    · obtain ⟨comparison, within, facts⟩ := isFirst.rules rule before
      exact ⟨comparison, leftIn within, facts⟩
    · obtain ⟨comparison, within, facts⟩ := isSecond.rules rule behind
      exact ⟨comparison, rightIn within, facts⟩
  · exact List.append_ne_nil_of_left_ne_nil someRule _

end Evaluation.Reports

theorem Comparison.Parsed.evaluate {comparison : Comparison} (parsed : comparison.Parsed)
    (covered : ∀ field ∈ Node.fields (.comparison comparison), (values field).isSome) :
    ∃ evaluation, comparison.evaluate values = .ok evaluation ∧
      evaluation.Reports values (.comparison comparison) := by
  obtain ⟨left, isLeft⟩ : ∃ left, values comparison.field = some left := by
    apply Option.isSome_iff_exists.mp
    apply covered
    simp [Node.fields, parsed.field.1, parsed.field.2]
  obtain ⟨right, isRight⟩ : ∃ right, comparison.rightReading values = .ok right := by
    unfold Comparison.rightReading
    cases isType : comparison.valueType with
    | number => exact ⟨_, rfl⟩
    | field =>
      obtain ⟨name, isName, isLower, nonempty⟩ := parsed.rhsField isType
      obtain ⟨right, isRight⟩ := Option.isSome_iff_exists.mp
        (covered name (by simp [Node.fields, isName, isLower, nonempty]))
      exact ⟨right, by simp [isName, isRight]⟩
  obtain ⟨result, isResult, iff⟩ := @compare_related left right _ parsed.operator
  have holds : comparison.Holds values ↔ result = true := by
    rw [iff]
    constructor
    · rintro ⟨left', right', isLeft', isRight', related⟩
      cases isLeft.symm.trans isLeft'
      cases isRight.symm.trans isRight'
      exact related
    · exact fun related => ⟨left, right, isLeft, isRight, related⟩
  have isEvaluation : comparison.evaluate values = .ok (if result then
      ⟨true, [comparison.text], comparison.field :: (comparison.rhsField.filter (· ≠ "")).toList⟩
      else .unmatched) := by
    unfold Comparison.evaluate
    rw [isLeft]
    simp only [isRight, isResult, bind, Except.bind, pure, Except.pure]
    cases result <;> rfl
  refine ⟨_, isEvaluation, ?_⟩
  cases result with
  | true =>
    refine ⟨by simpa [Node.Holds] using holds, ?_, by simp⟩
    intro rule inside
    obtain rfl := List.mem_singleton.mp inside
    exact ⟨comparison, by simp [Node.comparisons], rfl, holds.mpr rfl⟩
  | false => exact .unmatched fun isHeld => Bool.false_ne_true (holds.mp isHeld)

theorem Evaluation.Reports.logical {left right : Node} {first second : Evaluation}
    (isFirst : first.Reports values left) (isSecond : second.Reports values right)
    (operator : Logical) :
    (operator.evaluate first second).Reports values (.logical operator left right) := by
  have leftIn : left.comparisons ⊆ (Node.logical operator left right).comparisons :=
    List.subset_append_left _ _
  have rightIn : right.comparisons ⊆ (Node.logical operator left right).comparisons :=
    List.subset_append_right _ _
  unfold Logical.evaluate
  cases isLeft : first.matched with
  | false =>
    have leftFails : ¬left.Holds (Comparison.Holds values) := isFirst.fails isLeft
    cases operator with
    | and => exact .unmatched fun held => leftFails held.1
    | or =>
      cases isRight : second.matched with
      | false => exact .unmatched (Or.rec leftFails (isSecond.fails isRight))
      | true => exact isSecond.widen isRight .inr rightIn
  | true =>
    have leftHolds : left.Holds (Comparison.Holds values) := isFirst.truth.mp isLeft
    cases isRight : second.matched with
    | false =>
      have rightFails : ¬right.Holds (Comparison.Holds values) := isSecond.fails isRight
      cases operator with
      | and => exact .unmatched fun held => rightFails held.2
      | or => exact isFirst.widen isLeft .inl leftIn
    | true =>
      have rightHolds : right.Holds (Comparison.Holds values) := isSecond.truth.mp isRight
      cases operator with
      | and => exact isFirst.both isSecond isLeft leftIn rightIn ⟨leftHolds, rightHolds⟩
      | or => exact isFirst.both isSecond isLeft leftIn rightIn (.inl leftHolds)

/-- The induction is over the tree: whatever the comparisons are, covered fields are enough. -/
theorem evaluateQueryAst_reports {node : Node}
    (parsed : ∀ comparison ∈ node.comparisons, comparison.Parsed)
    (covered : ∀ field ∈ node.fields, (values field).isSome) :
    ∃ evaluation, evaluateQueryAst values node = .ok evaluation ∧
      evaluation.Reports values node := by
  induction node with
  | comparison leaf => exact (parsed leaf (List.mem_singleton.mpr rfl)).evaluate covered
  | logical operator left right leftIh rightIh =>
    obtain ⟨first, isFirst, firstReports⟩ := leftIh
      (fun each inside => parsed each (List.mem_append_left _ inside))
      (fun field inside => covered field (Finset.mem_union_left _ inside))
    obtain ⟨second, isSecond, secondReports⟩ := rightIh
      (fun each inside => parsed each (List.mem_append_right _ inside))
      (fun field inside => covered field (Finset.mem_union_right _ inside))
    refine ⟨_, ?_, firstReports.logical secondReports operator⟩
    simp only [evaluateQueryAst, isFirst, isSecond, bind, Except.bind, pure, Except.pure]

/-- Under values of its fields a parsed query is evaluated: to the truth of its tree, with rules
that are true comparisons of it, and with some rule just when it is true. -/
theorem evaluateQueryAst_parsed {unicode : Unicode} {query : Option String} {node : Node}
    (parsed : parseQueryExpression unicode query = .ok node)
    (covered : ∀ field ∈ collectQueryFields (some node), (values field).isSome) :
    ∃ evaluation, evaluateQueryAst values node = .ok evaluation ∧
      (evaluation.matched = true ↔ node.Holds (Comparison.Holds values)) ∧
      (∀ rule ∈ evaluation.rules,
        ∃ comparison ∈ node.comparisons, comparison.text = rule ∧ comparison.Holds values) ∧
      (evaluation.rules ≠ [] ↔ evaluation.matched = true) := by
  have isParsed (comparison : Comparison) (inside : comparison ∈ node.comparisons) :
      comparison.Parsed := by
    obtain ⟨tokens, -, read⟩ := exists_tokens parsed inside
    exact read.parsed
  obtain ⟨evaluation, isOk, reports⟩ := evaluateQueryAst_reports isParsed covered
  exact ⟨evaluation, isOk, reports.truth, reports.rules, reports.nonempty⟩

def closedAtThree (field : String) : Option Reading :=
  if field = "close" then some (.finite 3) else none

theorem evaluateQueryAst_parsed_close :
    let tree := Node.comparison (numberComparison "close" "<" (toDouble 5))
    ∃ evaluation, evaluateQueryAst closedAtThree tree = .ok evaluation ∧
      (evaluation.matched = true ↔ tree.Holds (Comparison.Holds closedAtThree)) ∧
      (∀ rule ∈ evaluation.rules,
        ∃ comparison ∈ tree.comparisons, comparison.text = rule ∧
          comparison.Holds closedAtThree) ∧
      (evaluation.rules ≠ [] ↔ evaluation.matched = true) :=
  evaluateQueryAst_parsed (parse_close "5" (.whole (by decide) (by decide)) (by decide +kernel))
    (by decide +kernel)

end Correctness

end Query
