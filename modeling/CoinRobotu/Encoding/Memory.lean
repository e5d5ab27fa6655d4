import CoinRobotu.Encoding.Members

/-!
# Values in memory and what is written for them

A dictionary in memory has keys of several kinds, and its keys are written as their texts. A value
without a JSON text of its own is written as the text that the program renders it as, and a
dictionary that stands at several places is written at each of them. A canonical text has the
members of every dictionary in the order in which the program sorts their keys.

A value is written, read back, and sorted by the texts of its keys. This is its canonical value
exactly if it is steady: the order of the keys in memory is that of their texts, without two of the
same, and nothing in it is rendered in two ways.
-/

namespace Encoding

/-- The key of a member in memory. -/
inductive Key where
  | string (text : String)
  | integer (value : ℤ)
  | float (figure : Number)
  | bool (truth : Bool)
  | null
  deriving DecidableEq

def Key.text : Key → String
  | .string text => text
  | .integer value => value.repr
  | .float figure => String.ofList figure.literal
  | .bool true => "true"
  | .bool false => "false"
  | .null => "null"

/-- A value without a JSON text: what `str` makes of it and of its deep copy, its truth, and whether
items can be set in it as in a dictionary. -/
structure Rendered where
  text : String
  copied : String
  truth : Bool
  mapping : Bool
  deriving DecidableEq

/-- A part of a value in memory. -/
inductive Memory : Part → Type where
  | null : Memory .value
  | bool (truth : Bool) : Memory .value
  | number (figure : Number) : Memory .value
  | string (text : String) : Memory .value
  | rendered (subject : Rendered) : Memory .value
  | shared : Memory .value
  | array (items : Memory .items) : Memory .value
  | object (members : Memory .members) : Memory .value
  | noItems : Memory .items
  | item (value : Memory .value) (rest : Memory .items) : Memory .items
  | noMembers : Memory .members
  | member (key : Key) (value : Memory .value) (rest : Memory .members) : Memory .members
  deriving DecidableEq

/-- How the items of a dictionary are sorted by their keys: which keys cannot be compared, and the
order of the others. It is one order of the items, whatever their values are. -/
structure Sorting where
  raises : List Key → Bool
  sorted : {Value : Type} → List (Key × Value) → List (Key × Value)
  perm : ∀ {Value : Type} (items : List (Key × Value)), (sorted items).Perm items
  natural : ∀ {Value Other : Type} (change : Value → Other) (items : List (Key × Value)),
    sorted (items.map (Prod.map id change)) = (sorted items).map (Prod.map id change)

def Sorting.increasing {Value : Type} (sorting : Sorting) (items : List (Key × Value)) : Bool :=
  ((sorting.sorted items).map (·.1.text)).Pairwise (· < ·)

section Orders

variable {Value : Type} {sorting : Sorting} {items : List (Key × Value)} {members : Json .members}
  {render : Value → Json .value} {Agrees : Value → Prop}

theorem Sorting.increasing_iff : sorting.increasing items = true ↔
    ((sorting.sorted items).map (·.1.text)).Pairwise (· < ·) := decide_eq_true_iff

theorem Sorting.distinct (increasing : sorting.increasing items = true) :
    (items.map (·.1.text)).Nodup := by
  have apart := (increasing_iff.mp increasing).imp fun smaller => ne_of_lt smaller
  exact ((sorting.perm items).map _).nodup_iff.mp apart

/-- Sorted items are the members of an object that has been sorted by its keys exactly if the texts
increase and each item agrees with what is looked up there. -/
theorem Sorting.ofEntries_iff (distinct : members.keys.Nodup)
    (covered : (items.map (·.1.text)).Nodup →
      ∀ key, key ∉ items.map (·.1.text) → Json.get key members = none)
    (each : (items.map (·.1.text)).Nodup → ∀ item ∈ items, ∃ value,
      Json.get item.1.text members = some value ∧
        (render item.2 = value.sortKeys ↔ Agrees item.2)) :
    Json.ofEntries ((sorting.sorted items).map fun item => (item.1.text, render item.2)) =
        members.sortKeys ↔
      sorting.increasing items = true ∧ ∀ item ∈ items, Agrees item.2 := by
  rw [Json.ofEntries_eq_sortKeys distinct, List.map_map, increasing_iff]
  apply and_congr_right
  intro increasing
  have apart := Sorting.distinct (increasing_iff.mpr increasing)
  have listed : ∀ key value, (key, value) ∈ (sorting.sorted items).map
      (fun item => (item.1.text, render item.2)) ↔
        ∃ item ∈ items, item.1.text = key ∧ render item.2 = value := by
    intro key value
    rw [List.mem_map]
    simp only [Prod.mk.injEq, (sorting.perm items).mem_iff]
  constructor
  · intro same item inside
    obtain ⟨value, isValue, agrees⟩ := each apart item inside
    apply agrees.mp
    have looked := (same item.1.text (render item.2)).mp ((listed _ _).mpr ⟨item, inside, rfl, rfl⟩)
    rw [isValue] at looked
    exact (Option.some.inj looked).symm
  · intro all key value
    rw [listed]
    constructor
    · rintro ⟨item, inside, rfl, rfl⟩
      obtain ⟨value, isValue, agrees⟩ := each apart item inside
      rw [isValue, agrees.mpr (all item inside)]
      rfl
    · intro looked
      obtain ⟨found, isFound, rfl⟩ := Option.map_eq_some_iff.mp looked
      have present : key ∈ items.map (·.1.text) := by
        by_contra absent
        rw [covered apart key absent] at isFound
        cases isFound
      obtain ⟨item, inside, rfl⟩ := List.mem_map.mp present
      obtain ⟨value, isValue, agrees⟩ := each apart item inside
      have same : found = value := Option.some.inj (isFound.symm.trans isValue)
      exact ⟨item, inside, rfl, same ▸ agrees.mpr (all item inside)⟩

def Key.isString : Key → Bool
  | .string _ => true
  | _ => false

def Key.rank : Key → Option ℤ
  | .integer value => some value
  | .bool truth => some (if truth then 1 else 0)
  | _ => none

def Key.before : Key → Key → Bool
  | .string first, .string second => first ≤ second
  | first, second => first.rank.getD 0 ≤ second.rank.getD 0

/-- Strings are sorted, and so are integers and truth values; others are not compared. -/
def plainSorting : Sorting where
  raises keys := 1 < keys.length ∧ ¬(keys.all Key.isString ∨ keys.all (·.rank.isSome))
  sorted items := items.insertionSort fun first second => first.1.before second.1
  perm items := List.perm_insertionSort _ items
  natural change items :=
    (List.map_insertionSort _ _ (Prod.map id change) items fun _ _ _ _ => Iff.rfl).symm

end Orders

namespace Memory

variable {part : Part}

/-- The truth of a value. -/
def truthy : Memory .value → Bool
  | .null => false
  | .bool truth => truth
  | .number figure => (Json.number figure).truthy
  | .string text => text ≠ ""
  | .rendered subject => subject.truth
  | .shared => true
  | .array .noItems => false
  | .array _ => true
  | .object .noMembers => false
  | .object _ => true

def entries : {part : Part} → Memory part → List (Key × Memory .value)
  | _, .member key value rest => (key, value) :: rest.entries
  | _, _ => []

def ofEntries : List (Key × Memory .value) → Memory .members
  | [] => .noMembers
  | (key, value) :: rest => .member key value (ofEntries rest)

def texts (members : Memory part) : List String := members.entries.map (·.1.text)

def get (key : String) : {part : Part} → Memory part → Option (Memory .value)
  | _, .member other value rest => if other = .string key then some value else get key rest
  | _, _ => none

def set (key : String) (value : Memory .value) : {part : Part} → Memory part → Memory part
  | _, .noMembers => .member (.string key) value .noMembers
  | _, .member other old rest =>
    if other = .string key then .member other value rest
    else .member other old (set key value rest)
  | _, unchanged => unchanged

def find (text : String) : {part : Part} → Memory part → Option (Memory .value)
  | _, .member key value rest => if key.text = text then some value else find text rest
  | _, _ => none

/-- `json.dumps`, for what objects are rendered as and what is written for the shared dictionary. -/
def written (render : Rendered → String) (dictionary : Json .value) :
    {part : Part} → Memory part → Json part
  | _, .null => .null
  | _, .bool truth => .bool truth
  | _, .number figure => .number figure
  | _, .string text => .string text
  | _, .rendered subject => .string (render subject)
  | _, .shared => dictionary
  | _, .array items => .array (items.written render dictionary)
  | _, .object members => .object (members.written render dictionary)
  | _, .noItems => .noItems
  | _, .item value rest => .item (value.written render dictionary) (rest.written render dictionary)
  | _, .noMembers => .noMembers
  | _, .member key value rest =>
    .member key.text (value.written render dictionary) (rest.written render dictionary)

def shares : {part : Part} → Memory part → Bool
  | _, .shared => true
  | _, .array items => items.shares
  | _, .object members => members.shares
  | _, .item value rest => value.shares || rest.shares
  | _, .member _ value rest => value.shares || rest.shares
  | _, _ => false

/-- Nothing in a part is rendered, and nothing in the shared dictionary where that stands in it. -/
def plain (dictionary : Bool) : {part : Part} → Memory part → Bool
  | _, .rendered _ => false
  | _, .shared => dictionary
  | _, .array items => items.plain dictionary
  | _, .object members => members.plain dictionary
  | _, .item value rest => value.plain dictionary && rest.plain dictionary
  | _, .member _ value rest => value.plain dictionary && rest.plain dictionary
  | _, _ => true

section Orders

variable (sorting : Sorting)

def sortable : {part : Part} → Memory part → Bool
  | _, .array items => items.sortable
  | _, .object members => !sorting.raises (members.entries.map (·.1)) && members.sortable
  | _, .item value rest => value.sortable && rest.sortable
  | _, .member _ value rest => value.sortable && rest.sortable
  | _, _ => true

def ordered : {part : Part} → Memory part → Memory part
  | _, .array items => .array items.ordered
  | _, .object members => .object (ofEntries (sorting.sorted members.ordered.entries))
  | _, .item value rest => .item value.ordered rest.ordered
  | _, .member key value rest => .member key value.ordered rest.ordered
  | _, unchanged => unchanged

def canonical (dictionary : Json .value) (value : Memory part) : Json part :=
  (value.ordered sorting).written Rendered.copied dictionary

/-- The order of the keys is that of their texts, and nothing is rendered or written in two ways. -/
def steady : {part : Part} → Memory part → Bool
  | _, .rendered subject => subject.text = subject.copied
  | _, .shared => false
  | _, .array items => items.steady
  | _, .object members => sorting.increasing members.entries && members.steady
  | _, .item value rest => value.steady && rest.steady
  | _, .member _ value rest => value.steady && rest.steady
  | _, _ => true

end Orders

section Members

attribute [local simp] entries ofEntries get set find written ordered

variable {sorting : Sorting} {render : Rendered → String} {dictionary : Json .value}
  {key text : String} {value : Memory .value} {members : Memory .members}

/-- A law of the members of a dictionary, by induction on them. -/
theorem members_induction {Holds : Memory .members → Prop} (noMembers : Holds .noMembers)
    (member : ∀ key value rest, Holds rest → Holds (.member key value rest))
    (members : Memory .members) : Holds members := by
  have all : ∀ {part : Part} (memory : Memory part) (isMembers : part = .members),
      Holds (isMembers ▸ memory) := by
    intro part memory isMembers
    induction memory with
    | noMembers => exact noMembers
    | member key value rest _ ih => exact member key value rest (ih rfl)
    | _ => cases isMembers
  exact all members rfl

theorem entries_ofEntries {listed : List (Key × Memory .value)} :
    (ofEntries listed).entries = listed := by
  induction listed with
  | nil => rfl
  | cons entry listed ih => rw [ofEntries, entries, ih]

theorem texts_member {first : Key} :
    (member first value members).texts = first.text :: members.texts := rfl

theorem texts_distinct {first : Key} : (member first value members).texts.Nodup ↔
    first.text ∉ members.texts ∧ members.texts.Nodup := List.nodup_cons

theorem get_set {other : String} :
    get other (set key value members) = if key = other then some value else get other members := by
  induction members using members_induction with
  | noMembers => simp only [set, get, Key.string.injEq]
  | member first old rest ih =>
    unfold set
    by_cases isFirst : first = .string key
    · rw [if_pos isFirst, isFirst]
      simp only [get, Key.string.injEq]
      split <;> rfl
    · rw [if_neg isFirst, get, get, ih]
      by_cases isOther : first = .string other
      · have apart : key ≠ other := by
          rintro rfl
          exact isFirst isOther
        rw [if_pos isOther, if_neg apart, if_pos isOther]
      · rw [if_neg isOther, if_neg isOther]

theorem set_of_get (present : get key members = some value) : set key value members = members := by
  induction members using members_induction with
  | noMembers => cases present
  | member first old rest ih =>
    unfold get at present
    unfold set
    by_cases isFirst : first = .string key
    · rw [if_pos isFirst] at present
      rw [if_pos isFirst, Option.some.inj present]
    · rw [if_neg isFirst] at present
      rw [if_neg isFirst, ih present]

theorem texts_set (present : (get key members).isSome) :
    (set key value members).texts = members.texts := by
  induction members using members_induction with
  | noMembers => cases present
  | member first old rest ih =>
    unfold get at present
    unfold set
    by_cases isFirst : first = .string key
    · rw [if_pos isFirst]
      rfl
    · rw [if_neg isFirst] at present
      rw [if_neg isFirst, texts_member, texts_member, ih present]

theorem find_eq_none : find text members = none ↔ text ∉ members.texts := by
  induction members using members_induction with
  | noMembers => exact iff_of_true rfl List.not_mem_nil
  | member first old rest ih =>
    rw [find, texts_member, List.mem_cons, not_or]
    by_cases isFirst : first.text = text
    · rw [if_pos isFirst]
      exact iff_of_false nofun fun absent => absent.1 isFirst.symm
    · rw [if_neg isFirst, ih]
      exact (and_iff_right (Ne.symm isFirst)).symm

theorem mem_texts_of_find (found : find text members = some value) : text ∈ members.texts := by
  by_contra absent
  rw [find_eq_none.mpr absent] at found
  cases found

/-- Where no text stands twice, the value of a member is found by the text of its key. -/
theorem find_of_mem (distinct : members.texts.Nodup) {item : Key × Memory .value}
    (inside : item ∈ members.entries) : find item.1.text members = some item.2 := by
  induction members using members_induction with
  | noMembers => cases inside
  | member first old rest ih =>
    obtain ⟨absent, restDistinct⟩ := texts_distinct.mp distinct
    rw [find]
    rcases List.mem_cons.mp inside with rfl | later
    · rw [if_pos rfl]
    · have listed : item.1.text ∈ rest.texts := List.mem_map_of_mem later
      have apart : first.text ≠ item.1.text := fun same => absent (same ▸ listed)
      rw [if_neg apart, ih restDistinct later]

theorem mem_of_get (present : get key members = some value) :
    (Key.string key, value) ∈ members.entries := by
  induction members using members_induction with
  | noMembers => cases present
  | member first old rest ih =>
    unfold get at present
    unfold entries
    by_cases isFirst : first = .string key
    · rw [if_pos isFirst] at present
      rw [isFirst, Option.some.inj present]
      exact List.mem_cons_self
    · rw [if_neg isFirst] at present
      exact List.mem_cons_of_mem _ (ih present)

/-- Where no text stands twice, a string key is found by its text. -/
theorem find_of_get (distinct : members.texts.Nodup) (present : get key members = some value) :
    find key members = some value := by
  induction members using members_induction with
  | noMembers => cases present
  | member first old rest ih =>
    obtain ⟨absent, restDistinct⟩ := texts_distinct.mp distinct
    rw [get] at present
    rw [find]
    by_cases isFirst : first = .string key
    · rw [if_pos isFirst] at present
      rw [if_pos (isFirst ▸ rfl), present]
    · rw [if_neg isFirst] at present
      have found := ih restDistinct present
      have apart : first.text ≠ key := fun same => absent (same ▸ mem_texts_of_find found)
      rw [if_neg apart, found]

theorem find_set (distinct : (set key value members).texts.Nodup) :
    find text (set key value members) = if key = text then some value else find text members := by
  induction members using members_induction with
  | noMembers => rfl
  | member first old rest ih =>
    unfold set at distinct ⊢
    by_cases isFirst : first = .string key
    · rw [if_pos isFirst, isFirst]
      rw [find, find]
      show (if key = text then _ else _) = if key = text then _ else if key = text then _ else _
      split <;> rfl
    · rw [if_neg isFirst] at distinct ⊢
      obtain ⟨absent, restDistinct⟩ := texts_distinct.mp distinct
      rw [find, find, ih restDistinct]
      by_cases isText : first.text = text
      · have present : get key (set key value rest) = some value := by rw [get_set, if_pos rfl]
        have inside := mem_texts_of_find (find_of_get restDistinct present)
        have apart : key ≠ text := fun same => absent (isText.trans same.symm ▸ inside)
        rw [if_pos isText, if_neg apart, if_pos isText]
      · rw [if_neg isText, if_neg isText]

theorem get_written :
    Json.get text (members.written render dictionary) =
      (find text members).map (written render dictionary) := by
  induction members using members_induction with
  | noMembers => rfl
  | member first old rest ih =>
    rw [written, Json.get, find, ih]
    split <;> rfl

theorem keys_written : (members.written render dictionary).keys = members.texts := by
  induction members using members_induction with
  | noMembers => rfl
  | member first old rest ih =>
    rw [written, Json.keys_member, texts_member, ih]

theorem entries_ordered :
    (members.ordered sorting).entries = members.entries.map (Prod.map id (ordered sorting)) := by
  induction members using members_induction with
  | noMembers => rfl
  | member first old rest ih => rw [ordered, entries, ih]; rfl

theorem written_ofEntries {listed : List (Key × Memory .value)} :
    (ofEntries listed).written render dictionary =
      Json.ofEntries (listed.map fun item => (item.1.text, item.2.written render dictionary)) := by
  induction listed with
  | nil => rfl
  | cons entry listed ih =>
    rw [ofEntries, written, ih]
    rfl

theorem canonical_object :
    (object members).canonical sorting dictionary =
      .object (Json.ofEntries ((sorting.sorted members.entries).map fun item =>
        (item.1.text, item.2.canonical sorting dictionary))) := by
  unfold canonical
  rw [ordered, written, entries_ordered, sorting.natural, written_ofEntries, List.map_map]
  rfl

theorem get_document (distinct : members.texts.Nodup) :
    Json.get text (Json.loadInto .noMembers (members.written render dictionary).loaded) =
      (find text members).map fun value => (value.written render dictionary).loaded := by
  have apart : (members.written render dictionary).loaded.keys.Nodup := by
    rw [Json.keys_loaded, keys_written]
    exact distinct
  rw [Json.get_loadInto apart, Json.get_loaded, get_written, Option.map_map]
  exact Option.or_none

end Members

section Agreement

variable {sorting : Sorting} {first second : Json .value}

theorem steady_members {members : Memory .members} :
    members.steady sorting = true ↔ ∀ item ∈ members.entries, item.2.steady sorting = true := by
  induction members using members_induction with
  | noMembers => exact iff_of_true rfl nofun
  | member key value rest ih =>
    rw [steady, entries, Bool.and_eq_true, ih, List.forall_mem_cons]

/-- What a part has in common with what is read back of it: the canonical one and the one that has
been sorted by the texts of the keys are the same exactly if the part is steady. -/
def Agrees (sorting : Sorting) (first second : Json .value) : {part : Part} → Memory part → Prop
  | .members, members => ∀ item ∈ members.entries,
    (item.2.canonical sorting first = (item.2.written Rendered.text second).loaded.sortKeys ↔
      item.2.steady sorting = true)
  | _, memory =>
    memory.canonical sorting first = (memory.written Rendered.text second).loaded.sortKeys ↔
      memory.steady sorting = true

theorem agrees_object {members : Memory .members} (agrees : Agrees sorting first second members) :
    Agrees sorting first second (object members) := by
  show (object members).canonical sorting first = (Json.object _).sortKeys ↔ _
  rw [canonical_object, Json.sortKeys, Json.object.injEq, steady, Bool.and_eq_true, steady_members]
  apply @Sorting.ofEntries_iff _ sorting members.entries _ (canonical sorting first)
    (fun value => value.steady sorting = true)
  · exact Json.loadInto_distinct List.nodup_nil
  · intro distinct key absent
    rw [get_document distinct, find_eq_none.mpr absent]
    rfl
  · intro distinct item inside
    refine ⟨_, ?_, agrees item inside⟩
    rw [get_document distinct, find_of_mem distinct inside]
    rfl

/-- The canonical value of a part is what is read back of it and sorted by the texts of the keys,
exactly if the part is steady, where this is not so of the shared dictionary. -/
theorem agrees (apart : first ≠ second.loaded.sortKeys) {part : Part} (memory : Memory part) :
    Agrees sorting first second memory := by
  induction memory with
  | null | bool | number | string | noItems => exact iff_of_true rfl rfl
  | rendered subject =>
    show Json.string subject.copied = Json.string subject.text ↔ _
    rw [steady, Json.string.injEq, decide_eq_true_iff]
    exact eq_comm
  | shared => exact iff_of_false apart nofun
  | array items itemsIh =>
    show Json.array _ = Json.array _ ↔ _
    rw [Json.array.injEq]
    exact itemsIh
  | object members membersIh => exact agrees_object membersIh
  | item value rest valueIh ih =>
    show Json.item _ _ = Json.item _ _ ↔ _
    rw [Json.item.injEq, steady, Bool.and_eq_true]
    exact and_congr valueIh ih
  | noMembers => exact nofun
  | member key value rest valueIh ih =>
    intro item inside
    rcases List.mem_cons.mp inside with rfl | later
    · exact valueIh
    · exact ih item later

end Agreement

end Memory

end Encoding
