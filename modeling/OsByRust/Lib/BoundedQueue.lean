import Mathlib.Data.List.Basic

/-!
# Bounded FIFO queues

A queue of fixed capacity, as a list of entries in arrival order whose length never
exceeds the capacity: the bound is a field of the structure, so a queue over capacity
cannot be built. `push` appends at the back and fails exactly when the queue is full;
`pop` takes the front. This is the behaviour of a lock-free array queue such as
`crossbeam_queue::ArrayQueue` seen by one producer and one consumer that never run at the
same time, which is how an interrupt handler and the task it preempts see it.
-/

universe u

/-- A FIFO of at most `capacity` entries, front first. -/
structure BoundedQueue (α : Type u) (capacity : Nat) where
  items : List α
  length_le : items.length ≤ capacity

namespace BoundedQueue

variable {α : Type u} {capacity : Nat}

/-- The queue with no entries. -/
def empty : BoundedQueue α capacity := ⟨[], Nat.zero_le _⟩

/-- The number of entries. -/
def len (queue : BoundedQueue α capacity) : Nat := queue.items.length

/-- Appends `value` at the back; `none` when the queue already holds `capacity` entries. -/
def push (queue : BoundedQueue α capacity) (value : α) : Option (BoundedQueue α capacity) :=
  if roomLeft : queue.items.length < capacity then
    some ⟨queue.items ++ [value], by simp only [List.length_append, List.length_singleton]; omega⟩
  else none

/-- Takes the front entry, if any, and returns it with the rest of the queue. -/
def pop (queue : BoundedQueue α capacity) : Option α × BoundedQueue α capacity :=
  match queue with
  | ⟨[], bound⟩ => (none, ⟨[], bound⟩)
  | ⟨front :: rest, bound⟩ =>
      (some front, ⟨rest, Nat.le_of_succ_le (by simpa using bound)⟩)

@[ext]
theorem ext {first second : BoundedQueue α capacity} (sameItems : first.items = second.items) :
    first = second := by
  cases first
  cases second
  cases sameItems
  rfl

@[simp]
theorem empty_items : (empty : BoundedQueue α capacity).items = [] := rfl

@[simp]
theorem len_eq (queue : BoundedQueue α capacity) : queue.len = queue.items.length := rfl

theorem push_eq_none_iff {queue : BoundedQueue α capacity} {value : α} :
    queue.push value = none ↔ queue.items.length = capacity := by
  have := queue.length_le
  rw [push]
  split <;> simp <;> omega

theorem push_eq_some_iff {queue pushed : BoundedQueue α capacity} {value : α} :
    queue.push value = some pushed ↔
      queue.items.length < capacity ∧ pushed.items = queue.items ++ [value] := by
  rw [push]
  split
  · rename_i roomLeft
    simp only [Option.some.injEq, roomLeft, true_and]
    constructor
    · rintro rfl
      rfl
    · intro sameItems
      exact ext sameItems.symm
  · rename_i full
    simp only [reduceCtorEq, false_iff, not_and]
    intro roomLeft
    omega

theorem push_cases (queue : BoundedQueue α capacity) (value : α) :
    (∃ pushed, queue.push value = some pushed ∧ pushed.items = queue.items ++ [value]) ∨
      (queue.push value = none ∧ queue.items.length = capacity) := by
  cases pushed : queue.push value with
  | none => exact Or.inr ⟨rfl, push_eq_none_iff.mp pushed⟩
  | some next => exact Or.inl ⟨next, rfl, (push_eq_some_iff.mp pushed).2⟩

@[simp]
theorem pop_fst (queue : BoundedQueue α capacity) : queue.pop.1 = queue.items.head? := by
  rcases queue with ⟨_ | ⟨front, rest⟩, bound⟩ <;> rfl

@[simp]
theorem pop_snd_items (queue : BoundedQueue α capacity) :
    queue.pop.2.items = queue.items.tail := by
  rcases queue with ⟨_ | ⟨front, rest⟩, bound⟩ <;> rfl

end BoundedQueue

/-!
## The bounded FIFO as a specification

`offer` is what a bounded FIFO of `capacity` entries does with a value: below capacity it
appends it; at capacity it either rejects it or evicts the oldest entry to make room.
Together with taking the front entry this is the abstract behaviour a queue with an
overflow policy is meant to have.
-/

/-- What a full bounded FIFO does with a new value. -/
inductive Overflow where
  | rejectNew
  | evictOldest
  deriving DecidableEq, Repr

/-- The entries after offering `value`, and whether it was accepted. -/
def offer {α : Type u} (overflow : Overflow) (capacity : Nat) (entries : List α) (value : α) :
    List α × Bool :=
  if entries.length < capacity then (entries ++ [value], true)
  else
    match overflow with
    | .rejectNew => (entries, false)
    | .evictOldest => (entries.tail ++ [value], true)

section Offer

variable {α : Type u} {capacity : Nat} {entries : List α} {value : α}

theorem offer_of_lt (room : entries.length < capacity) (overflow : Overflow) :
    offer overflow capacity entries value = (entries ++ [value], true) := by
  simp [offer, room]

theorem offer_rejectNew_of_le (full : capacity ≤ entries.length) :
    offer .rejectNew capacity entries value = (entries, false) := by
  simp [offer, Nat.not_lt.mpr full]

theorem offer_evictOldest_of_le (full : capacity ≤ entries.length) :
    offer .evictOldest capacity entries value = (entries.tail ++ [value], true) := by
  simp [offer, Nat.not_lt.mpr full]

/-- Appending one value to both sides keeps a suffix a suffix. -/
private theorem isSuffix_append_singleton {entries offered : List α}
    (newest : entries <:+ offered) (value : α) : entries ++ [value] <:+ offered ++ [value] := by
  obtain ⟨front, rfl⟩ := newest
  exact ⟨front, by rw [List.append_assoc]⟩

/-- Under eviction the entries stay the newest values offered: a suffix of everything
offered, and, after what was taken from the front, a subsequence of it. -/
theorem offer_evictOldest_history {offered taken : List α}
    (newest : entries <:+ offered) (ordered : (taken ++ entries).Sublist offered) :
    (offer .evictOldest capacity entries value).1 <:+ offered ++ [value] ∧
      (taken ++ (offer .evictOldest capacity entries value).1).Sublist (offered ++ [value]) := by
  by_cases room : entries.length < capacity
  · rw [offer_of_lt room]
    refine ⟨isSuffix_append_singleton newest value, ?_⟩
    rw [← List.append_assoc]
    exact ordered.append (List.Sublist.refl _)
  · -- The oldest entry is evicted: what stays is a suffix of what was there.
    rw [offer_evictOldest_of_le (by omega)]
    refine ⟨isSuffix_append_singleton ((List.tail_suffix entries).trans newest) value, ?_⟩
    rw [← List.append_assoc]
    apply List.Sublist.append _ (List.Sublist.refl _)
    exact ((List.tail_sublist entries).append_left taken).trans ordered

end Offer
