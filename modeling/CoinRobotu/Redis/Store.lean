import Mathlib.Data.List.Basic

/-!
# Lists, sets and counters of a Redis server

Each command is one atomic function of the store. List positions may be
negative and then count from the end, as the server defines them; an absent key
is an empty list, an empty set or a zero counter.
-/

namespace Redis

structure Store (Value : Type) where
  lists : String → List Value
  sets : String → List String
  counters : String → Int

inductive Command (Value : Type) where
  | incr (key : String)
  | rpush (key : String) (values : List Value)
  | brpoplpush (source destination : String)
  | lrem (key : String) (count : Int) (value : Value)
  | lrange (key : String) (start stop : Int)
  | ltrim (key : String) (start stop : Int)
  | delete (key : String)
  | sismember (key member : String)
  | sadd (key member : String)

/-- What each command answers. -/
@[reducible] def Command.Reply {Value : Type} : Command Value → Type
  | .incr _ => Int
  | .rpush _ _ => Nat
  | .brpoplpush _ _ => Option Value
  | .lrem _ _ _ => Nat
  | .lrange _ _ _ => List Value
  | .ltrim _ _ _ => Unit
  | .delete _ => Unit
  | .sismember _ _ => Bool
  | .sadd _ _ => Unit

section Segments

variable {Value : Type}

def position (length : Nat) (index : Int) : Int :=
  if index < 0 then length + index else index

/-- The elements from `start` to `stop`, both included. -/
def segment (values : List Value) (start stop : Int) : List Value :=
  (values.take (position values.length stop + 1).toNat).drop (position values.length start).toNat

@[simp] theorem position_natCast (length index : Nat) : position length index = index :=
  if_neg (Int.not_lt.mpr (Int.natCast_nonneg index))

@[simp] theorem position_last (length : Nat) : position length (-1) + 1 = length := by
  unfold position
  omega

theorem segment_to_end (values : List Value) (count : Nat) :
    segment values count (-1) = values.drop count := by
  unfold segment
  rw [position_last]
  simp

theorem mem_of_segment {values : List Value} {start stop : Int} {value : Value}
    (inside : value ∈ segment values start stop) : value ∈ values :=
  List.mem_of_mem_take (List.mem_of_mem_drop inside)

variable [DecidableEq Value]

/-- Remove the first `count` occurrences of the value. -/
def eraseFirst (value : Value) : Nat → List Value → List Value
  | 0, values => values
  | _ + 1, [] => []
  | count + 1, head :: values =>
      if head = value then eraseFirst value count values
      else head :: eraseFirst value (count + 1) values

/-- Occurrences are removed from the head for a positive count, from the end
for a negative one, and all of them for zero. -/
def remove (count : Int) (value : Value) (values : List Value) : List Value :=
  if count = 0 then values.filter (· ≠ value)
  else if 0 < count then eraseFirst value count.toNat values
  else (eraseFirst value count.natAbs values.reverse).reverse

theorem mem_of_eraseFirst {value other : Value} {count : Nat} {values : List Value}
    (inside : other ∈ eraseFirst value count values) : other ∈ values := by
  induction values generalizing count with
  | nil => cases count <;> exact inside
  | cons head values ih =>
    cases count with
    | zero => exact inside
    | succ count =>
      unfold eraseFirst at inside
      split at inside
      · exact List.mem_cons_of_mem head (ih inside)
      · exact List.mem_cons.mpr ((List.mem_cons.mp inside).imp_right ih)

theorem mem_of_remove {value other : Value} {count : Int} {values : List Value}
    (inside : other ∈ remove count value values) : other ∈ values := by
  unfold remove at inside
  split at inside
  · exact List.mem_of_mem_filter inside
  · split at inside
    · exact mem_of_eraseFirst inside
    · exact List.mem_reverse.mp (mem_of_eraseFirst (List.mem_reverse.mp inside))

end Segments

namespace Store

variable {Value : Type}

def put (store : Store Value) (key : String) (values : List Value) : Store Value :=
  { store with lists := Function.update store.lists key values }

@[simp] theorem put_lists (store : Store Value) (key : String) (values : List Value) :
    (store.put key values).lists = Function.update store.lists key values := rfl

@[simp] theorem put_sets (store : Store Value) (key : String) (values : List Value) :
    (store.put key values).sets = store.sets := rfl

@[simp] theorem put_counters (store : Store Value) (key : String) (values : List Value) :
    (store.put key values).counters = store.counters := rfl

def popPush (store : Store Value) (source destination : String) : Store Value × Option Value :=
  match (store.lists source).getLast? with
  | none => (store, none)
  | some value =>
      let popped := store.put source (store.lists source).dropLast
      (popped.put destination (value :: popped.lists destination), some value)

/-- A pop finds the source empty, or it takes the source's last element, puts
it before the destination's elements and leaves every other list alone. -/
theorem popPush_cases (store : Store Value) {source destination : String}
    (different : source ≠ destination) :
    (store.lists source = [] ∧ store.popPush source destination = (store, none)) ∨
      ∃ front value, store.lists source = front ++ [value] ∧
        store.popPush source destination =
          ((store.put source front).put destination (value :: store.lists destination),
            some value) := by
  rcases List.eq_nil_or_concat (store.lists source) with empty | ⟨front, value, filled⟩
  · exact .inl ⟨empty, by simp [popPush, empty]⟩
  · rw [List.concat_eq_append] at filled
    refine .inr ⟨front, value, filled, ?_⟩
    simp [popPush, filled, Function.update_of_ne different.symm]

variable [DecidableEq Value]

/-- Execute one command atomically. -/
def perform (store : Store Value) : (command : Command Value) → Store Value × command.Reply
  | .incr key =>
      ({ store with counters := Function.update store.counters key (store.counters key + 1) },
        store.counters key + 1)
  | .rpush key values =>
      (store.put key (store.lists key ++ values), (store.lists key ++ values).length)
  | .brpoplpush source destination => store.popPush source destination
  | .lrem key count value =>
      (store.put key (remove count value (store.lists key)),
        (store.lists key).length - (remove count value (store.lists key)).length)
  | .lrange key start stop => (store, segment (store.lists key) start stop)
  | .ltrim key start stop => (store.put key (segment (store.lists key) start stop), ())
  | .delete key =>
      (⟨Function.update store.lists key [], Function.update store.sets key [],
        Function.update store.counters key 0⟩, ())
  | .sismember key member => (store, decide (member ∈ store.sets key))
  | .sadd key member =>
      ({ store with
        sets := Function.update store.sets key
          (if member ∈ store.sets key then store.sets key else member :: store.sets key) }, ())

/-- An element of a list was in it before the command, or was pushed to it, or came from
the list that a pop took it from. -/
theorem mem_of_perform {store : Store Value} {command : Command Value} {key : String}
    {value : Value} (inside : value ∈ (store.perform command).1.lists key) :
    value ∈ store.lists key ∨ (∃ values, command = .rpush key values ∧ value ∈ values) ∨
      ∃ source, command = .brpoplpush source key ∧ value ∈ store.lists source := by
  have replaced : ∀ {changed : String} {values : List Value},
      value ∈ (store.put changed values).lists key →
        (∀ other ∈ values, other ∈ store.lists changed) → value ∈ store.lists key := by
    intro changed values inside subset
    by_cases same : key = changed
    · subst same
      exact subset value (by simpa using inside)
    · simpa [same] using inside
  cases command with
  | rpush changed values =>
    by_cases same : key = changed
    · subst same
      rcases List.mem_append.mp (by simpa [perform] using inside) with earlier | pushed
      · exact .inl earlier
      · exact .inr (.inl ⟨values, rfl, pushed⟩)
    · exact .inl (by simpa [perform, same] using inside)
  | brpoplpush source destination =>
    simp only [perform, popPush] at inside
    split at inside
    · exact .inl inside
    · rename_i last found
      have taken : last ∈ store.lists source := List.mem_of_getLast? found
      have shrunk : ∀ other ∈ (store.lists source).dropLast, other ∈ store.lists source :=
        fun _ listed => (List.dropLast_sublist _).subset listed
      by_cases same : key = destination
      · subst same
        rcases List.mem_cons.mp (by simpa using inside) with isLast | earlier
        · exact .inr (.inr ⟨source, rfl, isLast ▸ taken⟩)
        · exact .inl (replaced earlier shrunk)
      · exact .inl (replaced (by simpa [same] using inside) shrunk)
  | lrem changed count removed => exact .inl (replaced inside fun _ => mem_of_remove)
  | ltrim changed start stop => exact .inl (replaced inside fun _ => mem_of_segment)
  | delete changed => exact .inl (@replaced changed [] inside (by simp))
  | _ => exact .inl inside

end Store

end Redis
