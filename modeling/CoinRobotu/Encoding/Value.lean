import Mathlib.Data.List.TakeWhile
import CoinRobotu.Encoding.Json

/-!
# JSON values and their texts

A value, the items of an array and the members of an object are parts of one family, so that a
function of values is one recursion. A text is written in a style: what follows a comma and a
colon, and how strings are written. A number ends where no character of a number follows, an array
and an object where they are closed; so where the strings are self-delimiting, the text of a part
is read back in one way only. The members of an object may be sorted by their keys, at every level,
before the text is written.
-/

namespace Encoding

/-- The characters of a number. An infinite one is written as `Infinity`, and what is no number as
`NaN`. -/
def isNumberChar (character : Char) : Bool :=
  character.isDigit ||
    character ∈ ['-', '+', '.', 'e', 'E', 'I', 'n', 'f', 'i', 't', 'y', 'N', 'a']

def startsNumber (character : Char) : Bool := character.isDigit || character ∈ ['-', 'I', 'N']

structure Number where
  literal : List Char
  nonempty : literal ≠ []
  shaped : ∀ character ∈ literal, isNumberChar character
  started : ∀ character ∈ literal.head?, startsNumber character
  deriving DecidableEq

inductive Part where
  | value
  | items
  | members

inductive Json : Part → Type where
  | null : Json .value
  | bool (truth : Bool) : Json .value
  | number (figure : Number) : Json .value
  | string (text : String) : Json .value
  | array (items : Json .items) : Json .value
  | object (members : Json .members) : Json .value
  | noItems : Json .items
  | item (value : Json .value) (rest : Json .items) : Json .items
  | noMembers : Json .members
  | member (key : String) (value : Json .value) (rest : Json .members) : Json .members
  deriving DecidableEq

/-- What is left to choose when a text is written. -/
structure Style where
  afterComma : List Char
  afterColon : List Char
  text : String → List Char

namespace Json

variable {part : Part}

def isEnd : Json part → Bool
  | .noItems => true
  | .noMembers => true
  | _ => false

def truthy : Json .value → Bool
  | .null => false
  | .bool truth => truth
  | .number figure => figure.literal ∉ [['0'], ['0', '.', '0'], ['-', '0', '.', '0']]
  | .string text => text ≠ ""
  | .array items => !items.isEnd
  | .object members => !members.isEnd

section Writing

variable (style : Style)

def separator (rest : Json part) : List Char :=
  if rest.isEnd then [] else ',' :: style.afterComma

/-- The text of a part; that of the items and of the members is without the brackets. -/
def write : {part : Part} → Json part → List Char
  | _, .null => ['n', 'u', 'l', 'l']
  | _, .bool true => ['t', 'r', 'u', 'e']
  | _, .bool false => ['f', 'a', 'l', 's', 'e']
  | _, .number figure => figure.literal
  | _, .string text => style.text text
  | _, .array items => '[' :: (items.write ++ [']'])
  | _, .object members => '{' :: (members.write ++ ['}'])
  | _, .noItems => []
  | _, .item value rest =>
    value.write ++ (rest.separator style ++ rest.write)
  | _, .noMembers => []
  | _, .member key value rest =>
    style.text key ++
      (':' :: style.afterColon ++ (value.write ++ (rest.separator style ++ rest.write)))

variable {style}

attribute [local simp] write

variable {rest : List Char}

theorem write_array {items : Json .items} :
    (array items).write style ++ rest = '[' :: (items.write style ++ ']' :: rest) := by
  rw [write, List.cons_append, List.append_assoc, List.singleton_append]

theorem write_object {members : Json .members} :
    (object members).write style ++ rest = '{' :: (members.write style ++ '}' :: rest) := by
  rw [write, List.cons_append, List.append_assoc, List.singleton_append]

theorem write_item {value : Json .value} {items : Json .items} :
    (item value items).write style ++ rest =
      value.write style ++ (items.separator style ++ (items.write style ++ rest)) := by
  rw [write, List.append_assoc, List.append_assoc]

theorem write_member {key : String} {value : Json .value} {members : Json .members}
    :
    (member key value members).write style ++ rest =
      style.text key ++ (':' :: style.afterColon ++
        (value.write style ++ (members.separator style ++ (members.write style ++ rest)))) := by
  rw [write, List.append_assoc, List.append_assoc, List.append_assoc, List.append_assoc]

end Writing

def get (key : String) : {part : Part} → Json part → Option (Json .value)
  | _, .member other value rest => if other = key then some value else get key rest
  | _, _ => none

def set (key : String) (value : Json .value) : {part : Part} → Json part → Json part
  | _, .noMembers => .member key value .noMembers
  | _, .member other old rest =>
    if other = key then .member other value rest else .member other old (set key value rest)
  | _, unchanged => unchanged

def insertMember (key : String) (value : Json .value) : {part : Part} → Json part → Json part
  | _, .noMembers => .member key value .noMembers
  | _, .member other old rest =>
    if key ≤ other then .member key value (.member other old rest)
    else .member other old (insertMember key value rest)
  | _, unchanged => unchanged

/-- The part with the members of every object sorted by their keys. -/
def sortKeys : {part : Part} → Json part → Json part
  | _, .array items => .array items.sortKeys
  | _, .object members => .object members.sortKeys
  | _, .item value rest => .item value.sortKeys rest.sortKeys
  | _, .member key value rest => insertMember key value.sortKeys rest.sortKeys
  | _, .null => .null
  | _, .bool truth => .bool truth
  | _, .number figure => .number figure
  | _, .string text => .string text
  | _, .noItems => .noItems
  | _, .noMembers => .noMembers

section Lookups

attribute [local simp] get set insertMember sortKeys

variable {key other : String} {value : Json .value} {members : Json .members}

/-- A law of the members of an object, by induction on them. -/
theorem members_induction {Holds : Json .members → Prop} (noMembers : Holds .noMembers)
    (member : ∀ key value rest, Holds rest → Holds (.member key value rest))
    (members : Json .members) : Holds members := by
  have all : ∀ {part : Part} (json : Json part) (isMembers : part = .members),
      Holds (isMembers ▸ json) := by
    intro part json isMembers
    induction json with
    | noMembers => exact noMembers
    | member key value rest _ ih => exact member key value rest (ih rfl)
    | _ => cases isMembers
  exact all members rfl

theorem get_set :
    get other (set key value members) = if key = other then some value else get other members := by
  induction members using members_induction with
  | noMembers => rfl
  | member first old rest ih =>
    unfold set
    by_cases isFirst : first = key
    · rw [if_pos isFirst, isFirst]
      unfold get
      split <;> rfl
    · rw [if_neg isFirst]
      unfold get
      rw [ih]
      by_cases isOther : first = other
      · rw [if_pos isOther, if_neg (fun same => isFirst (isOther.trans same.symm)), if_pos isOther]
      · rw [if_neg isOther, if_neg isOther]

theorem get_insertMember :
    get other (insertMember key value members) =
      if key = other then some value else get other members := by
  induction members using members_induction with
  | noMembers => rfl
  | member first old rest ih =>
    unfold insertMember
    by_cases smaller : key ≤ first
    · rw [if_pos smaller, get]
    · rw [if_neg smaller, get, get, ih]
      by_cases isFirst : first = other
      · have apart : key ≠ other := by
          rintro rfl
          exact smaller (le_of_eq isFirst.symm)
        rw [if_pos isFirst, if_neg apart, if_pos isFirst]
      · rw [if_neg isFirst, if_neg isFirst]

theorem get_sortKeys : get other members.sortKeys = (get other members).map sortKeys := by
  induction members using members_induction with
  | noMembers => rfl
  | member first old rest ih =>
    rw [sortKeys, get_insertMember, ih, get]
    split <;> rfl

end Lookups

end Json

section Reading

/-- What a value begins with: each kind of value has characters of its own. -/
def Json.kind : {part : Part} → Json part → ℕ
  | _, .null => 0
  | _, .bool true => 1
  | _, .bool false => 2
  | _, .number _ => 3
  | _, .string _ => 4
  | _, .array _ => 5
  | _, .object _ => 6
  | _, _ => 7

/-- The kind of the value that begins with a character. -/
def kindOf (character : Char) : ℕ :=
  if startsNumber character then 3
  else if character = 'n' then 0
  else if character = 't' then 1
  else if character = 'f' then 2
  else if character = '"' then 4
  else if character = '[' then 5
  else if character = '{' then 6
  else 7

/-- Strings are written between quotes, so that they can be split off. -/
structure Style.Readable (style : Style) : Prop where
  delimited : SelfDelimiting style.text
  quoted : ∀ text, ∃ rest, style.text text = '"' :: rest

def compactStyle : Style := ⟨[], [], literal⟩

theorem compactStyle_readable : compactStyle.Readable where
  delimited := literal_selfDelimiting
  quoted := fun _ => ⟨_, rfl⟩

variable {style : Style} {part : Part}

/-- A text after which a part ends. -/
def Follows : Part → List Char → Prop
  | .value, rest => ∀ character ∈ rest.head?, isNumberChar character = false
  | .items, rest => ∃ tail, rest = ']' :: tail
  | .members, rest => ∃ tail, rest = '}' :: tail

theorem Json.write_kind (readable : style.Readable) (value : Json .value) :
    ∃ first rest, value.write style = first :: rest ∧ kindOf first = value.kind := by
  cases value with
  | null => exact ⟨_, _, rfl, by decide⟩
  | bool truth => cases truth <;> exact ⟨_, _, rfl, by decide⟩
  | number figure =>
    obtain ⟨first, rest, isLiteral⟩ := List.exists_cons_of_ne_nil figure.nonempty
    refine ⟨first, rest, isLiteral, ?_⟩
    have starts : startsNumber first := figure.started first (isLiteral ▸ rfl)
    unfold kindOf Json.kind
    rw [if_pos starts]
  | string text =>
    obtain ⟨rest, isText⟩ := readable.quoted text
    exact ⟨_, _, isText, rfl⟩
  | array | object => exact ⟨_, _, rfl, rfl⟩

variable {rest others : List Char}

theorem Json.kind_eq (readable : style.Readable) {value other : Json .value}
    (same : value.write style ++ rest = other.write style ++ others) : value.kind = other.kind := by
  obtain ⟨first, tail, isText, isKind⟩ := value.write_kind readable
  obtain ⟨otherFirst, otherTail, isOtherText, isOtherKind⟩ := other.write_kind readable
  rw [isText, isOtherText] at same
  rw [← isKind, ← isOtherKind, (List.cons.inj same).1]

theorem Number.literal_inj {figure other : Number}
    (follows : Follows .value rest) (otherFollows : Follows .value others)
    (same : figure.literal ++ rest = other.literal ++ others) : figure = other ∧ rest = others := by
  have stops : ∀ tail, Follows .value tail → tail.takeWhile isNumberChar = [] := by
    intro tail ends
    cases tail with
    | nil => rfl
    | cons first tail => rw [List.takeWhile_cons, ends first rfl]; rfl
  have split : ∀ (number : Number) tail, Follows .value tail →
      (number.literal ++ tail).takeWhile isNumberChar = number.literal := by
    intro number tail ends
    rw [List.takeWhile_append_of_pos number.shaped, stops tail ends, List.append_nil]
  have literals : figure.literal = other.literal := by
    rw [← split figure rest follows, same, split other others otherFollows]
  rw [literals] at same
  refine ⟨?_, List.append_cancel_left same⟩
  cases figure
  cases other
  congr

theorem Json.eq_noItems {items : Json .items} (ends : items.isEnd = true) : items = .noItems := by
  cases items with
  | noItems => rfl
  | item value rest => cases ends

theorem Json.eq_noMembers {members : Json .members} (ends : members.isEnd = true) :
    members = .noMembers := by
  cases members with
  | noMembers => rfl
  | member key value rest => cases ends

theorem Json.separator_inj {rest other : Json part} {tail otherTail : List Char} {close : Char}
    (closed : rest.isEnd = true → ∃ after, tail = close :: after)
    (otherClosed : other.isEnd = true → ∃ after, otherTail = close :: after) (apart : close ≠ ',')
    (same : rest.separator style ++ tail = other.separator style ++ otherTail) :
    rest.isEnd = other.isEnd ∧ tail = otherTail := by
  unfold separator at same
  cases ends : rest.isEnd with
  | true =>
    obtain ⟨after, isTail⟩ := closed ends
    cases otherEnds : other.isEnd with
    | true =>
      rw [ends, otherEnds] at same
      exact ⟨rfl, same⟩
    | false =>
      rw [ends, otherEnds, isTail] at same
      exact absurd (List.cons.inj same).1 apart
  | false =>
    cases otherEnds : other.isEnd with
    | true =>
      obtain ⟨after, isTail⟩ := otherClosed otherEnds
      rw [ends, otherEnds, isTail] at same
      exact absurd (List.cons.inj same).1.symm apart
    | false =>
      rw [ends, otherEnds] at same
      exact ⟨rfl, List.append_cancel_left (List.cons.inj same).2⟩

/-- A value may be followed by a separator, and by what closes the list that it stands in. -/
theorem follows_separator {rest : Json part} {tail : List Char} {close : Char}
    (closed : rest.isEnd = true → ∃ after, tail = close :: after)
    (figureless : isNumberChar close = false) : Follows .value (rest.separator style ++ tail) := by
  intro character isHead
  unfold Json.separator at isHead
  cases ends : rest.isEnd with
  | true =>
    obtain ⟨after, isTail⟩ := closed ends
    rw [ends, isTail] at isHead
    cases isHead
    exact figureless
  | false =>
    rw [ends] at isHead
    cases isHead
    decide

variable (readable : style.Readable)

include readable

theorem Json.closing_ne {value : Json .value} {close : Char} (closes : kindOf close = 7) :
    close :: rest ≠ value.write style ++ others := by
  intro same
  obtain ⟨first, tail, isText, isKind⟩ := value.write_kind readable
  rw [isText] at same
  have kinds : value.kind = 7 := by rw [← isKind, ← (List.cons.inj same).1, closes]
  cases value with
  | bool truth => cases truth <;> cases kinds
  | _ => cases kinds

/-- The text of a part is read back in one way only, before a text after which it ends. -/
theorem Json.write_inj {json other : Json part}
    (follows : Follows part rest) (otherFollows : Follows part others)
    (same : json.write style ++ rest = other.write style ++ others) :
    json = other ∧ rest = others := by
  induction json generalizing rest others with
  | null =>
    have kinds := kind_eq readable same
    cases other with
    | null => exact ⟨rfl, List.append_cancel_left same⟩
    | bool truth => cases truth <;> cases kinds
    | _ => cases kinds
  | bool truth =>
    have kinds := kind_eq readable same
    cases other with
    | bool otherTruth =>
      cases truth <;> cases otherTruth
      · exact ⟨rfl, List.append_cancel_left same⟩
      · cases kinds
      · cases kinds
      · exact ⟨rfl, List.append_cancel_left same⟩
    | _ => cases truth <;> cases kinds
  | number figure =>
    have kinds := kind_eq readable same
    cases other with
    | number otherFigure =>
      obtain ⟨rfl, isRest⟩ := Number.literal_inj follows otherFollows same
      exact ⟨rfl, isRest⟩
    | bool truth => cases truth <;> cases kinds
    | _ => cases kinds
  | string text =>
    have kinds := kind_eq readable same
    cases other with
    | string otherText =>
      obtain ⟨rfl, isRest⟩ := readable.delimited _ _ _ _ same
      exact ⟨rfl, isRest⟩
    | bool truth => cases truth <;> cases kinds
    | _ => cases kinds
  | array items ih =>
    have kinds := kind_eq readable same
    cases other with
    | array otherItems =>
      rw [write_array, write_array] at same
      obtain ⟨rfl, isRest⟩ := ih ⟨rest, rfl⟩ ⟨others, rfl⟩ (List.cons.inj same).2
      exact ⟨rfl, (List.cons.inj isRest).2⟩
    | bool truth => cases truth <;> cases kinds
    | _ => cases kinds
  | object members ih =>
    have kinds := kind_eq readable same
    cases other with
    | object otherMembers =>
      rw [write_object, write_object] at same
      obtain ⟨rfl, isRest⟩ := ih ⟨rest, rfl⟩ ⟨others, rfl⟩ (List.cons.inj same).2
      exact ⟨rfl, (List.cons.inj isRest).2⟩
    | bool truth => cases truth <;> cases kinds
    | _ => cases kinds
  | noItems =>
    cases other with
    | noItems => exact ⟨rfl, same⟩
    | item value items =>
      obtain ⟨tail, rfl⟩ := follows
      rw [write_item] at same
      exact absurd same (closing_ne readable (by decide))
  | item value items valueIh itemsIh =>
    cases other with
    | noItems =>
      obtain ⟨tail, rfl⟩ := otherFollows
      rw [write_item] at same
      exact absurd same.symm (closing_ne readable (by decide))
    | item otherValue otherItems =>
      rw [write_item, write_item] at same
      have closed : items.isEnd = true → ∃ after, items.write style ++ rest = ']' :: after := by
        intro ends
        rw [eq_noItems ends]
        exact follows
      have otherClosed : otherItems.isEnd = true →
          ∃ after, otherItems.write style ++ others = ']' :: after := by
        intro ends
        rw [eq_noItems ends]
        exact otherFollows
      obtain ⟨rfl, tails⟩ := valueIh (follows_separator closed (by decide))
        (follows_separator otherClosed (by decide)) same
      obtain ⟨_, texts⟩ := separator_inj closed otherClosed (by decide) tails
      obtain ⟨rfl, isRest⟩ := itemsIh follows otherFollows texts
      exact ⟨rfl, isRest⟩
  | noMembers =>
    cases other with
    | noMembers => exact ⟨rfl, same⟩
    | member key value members =>
      obtain ⟨tail, rfl⟩ := follows
      obtain ⟨text, isText⟩ := readable.quoted key
      rw [write_member, isText] at same
      exact absurd (List.cons.inj same).1 (by decide)
  | member key value members valueIh membersIh =>
    cases other with
    | noMembers =>
      obtain ⟨tail, rfl⟩ := otherFollows
      obtain ⟨text, isText⟩ := readable.quoted key
      rw [write_member, isText] at same
      exact absurd (List.cons.inj same).1 (by decide)
    | member otherKey otherValue otherMembers =>
      rw [write_member, write_member] at same
      have closed : members.isEnd = true → ∃ after, members.write style ++ rest = '}' :: after := by
        intro ends
        rw [eq_noMembers ends]
        exact follows
      have otherClosed : otherMembers.isEnd = true →
          ∃ after, otherMembers.write style ++ others = '}' :: after := by
        intro ends
        rw [eq_noMembers ends]
        exact otherFollows
      obtain ⟨rfl, afterKey⟩ := readable.delimited _ _ _ _ same
      obtain ⟨rfl, tails⟩ := valueIh (follows_separator closed (by decide))
        (follows_separator otherClosed (by decide)) (List.append_cancel_left afterKey)
      obtain ⟨_, texts⟩ := separator_inj closed otherClosed (by decide) tails
      obtain ⟨rfl, isRest⟩ := membersIh follows otherFollows texts
      exact ⟨rfl, isRest⟩

/-- A value is determined by its text. -/
theorem Json.write_injective :
    Function.Injective fun value : Json .value => value.write style := by
  intro value other same
  have nothing : Follows .value [] := by
    intro character isHead
    cases isHead
  exact (write_inj readable nothing nothing (congrArg (· ++ []) same)).1

end Reading

end Encoding
