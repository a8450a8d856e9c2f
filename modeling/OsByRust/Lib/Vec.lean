import Mathlib.Data.List.Basic

/-!
# Vectors as lists

A `Vec` whose elements are only read, pushed and removed is a list in index order.
`Vec::swap_remove(index)` removes the element at `index` by moving the last element into
its place, so it keeps every element before `index` where it was and changes the order of
the rest: up to permutation it is removal of that one element.

A `Vec` keeps its elements in a buffer of some capacity. A push onto a full `Vec` grows the
buffer by `RawVec`'s amortized rule: to twice the capacity, and to at least four elements
for elements of at most 1 KiB. Growing calls the global allocator: an allocation when the
`Vec` has no buffer yet, and otherwise a reallocation, which the default
`GlobalAlloc::realloc` makes as an allocation followed by a free.
-/

universe u

namespace List

variable {α : Type u}

/-- `Vec::swap_remove(index)` without its result: the last element is written over the one
at `index`, then the vector is shortened by one. -/
def swapRemove (entries : List α) (index : Nat) : List α :=
  match entries.getLast? with
  | some last => (entries.set index last).dropLast
  | none => entries

/-- The two shapes of `swap_remove`: at the last index it drops the last element, below it
the last element takes the removed one's place. -/
private theorem swapRemove_concat (front : List α) (last : α) (index : Nat) :
    (front ++ [last]).swapRemove index =
      if index = front.length then front else front.set index last := by
  simp only [swapRemove, getLast?_concat]
  split
  · rename_i atLast
    rw [atLast, set_append_right _ _ (Nat.le_refl _), Nat.sub_self, set_cons_zero,
      dropLast_concat]
  · rename_i notLast
    rcases Nat.lt_or_ge index front.length with below | beyond
    · rw [set_append_left _ _ below, dropLast_concat]
    · -- Past the end `Vec::swap_remove` would panic; `tick` never calls it there.
      obtain ⟨past, offset⟩ : ∃ past, index - front.length = past + 1 :=
        ⟨index - front.length - 1, by omega⟩
      rw [set_append_right _ _ beyond, offset, set_cons_succ, set_nil, dropLast_concat,
        set_eq_of_length_le beyond]

private theorem exists_concat {entries : List α} {index : Nat} (inBounds : index < entries.length) :
    ∃ front last, entries = front ++ [last] := by
  rcases eq_nil_or_concat entries with empty | ⟨front, last, split⟩
  · subst empty
    simp at inBounds
  · exact ⟨front, last, by rw [split, concat_eq_append]⟩

theorem length_swapRemove {entries : List α} {index : Nat} (inBounds : index < entries.length) :
    (entries.swapRemove index).length = entries.length - 1 := by
  rcases exists_concat inBounds with ⟨front, last, rfl⟩
  rw [swapRemove_concat]
  split <;> simp

/-- `swap_remove` takes out the element at `index` and keeps the others. -/
theorem perm_swapRemove {entries : List α} {index : Nat} (inBounds : index < entries.length) :
    entries.Perm (entries[index] :: entries.swapRemove index) := by
  rcases exists_concat inBounds with ⟨front, last, rfl⟩
  have below : index ≤ front.length := by
    simp only [length_append, length_singleton] at inBounds
    omega
  rw [swapRemove_concat]
  split
  · rename_i atLast
    subst atLast
    rw [getElem_concat_length rfl]
    exact perm_append_singleton last front
  · rename_i notLast
    have inFront : index < front.length := by omega
    rw [getElem_append_left inFront, set_eq_take_cons_drop last inFront]
    conv_lhs => rw [← take_append_drop index front, drop_eq_getElem_cons inFront]
    simp only [append_assoc, cons_append]
    refine perm_middle.trans (Perm.cons _ (Perm.append_left _ ?_))
    exact perm_append_singleton last _

theorem take_swapRemove {entries : List α} {index : Nat} (inBounds : index < entries.length) :
    (entries.swapRemove index).take index = entries.take index := by
  rcases exists_concat inBounds with ⟨front, last, rfl⟩
  have below : index ≤ front.length := by
    simp only [length_append, length_singleton] at inBounds
    omega
  rw [swapRemove_concat, take_append_of_le_length below]
  split
  · rename_i atLast
    subst atLast
    rw [take_length]
  · rw [take_set_of_le (Nat.le_refl _)]

/-- A list that splits, up to order, into a part that passes `keep` and a part that does not
is, up to order, that first part once filtered by `keep`. -/
theorem filter_perm_of_perm_append {keep : α → Bool} {entries kept dropped : List α}
    (split : entries.Perm (kept ++ dropped)) (passes : ∀ entry ∈ kept, keep entry)
    (fails : ∀ entry ∈ dropped, ¬keep entry) : (entries.filter keep).Perm kept := by
  have filtered := split.filter keep
  rw [filter_append, filter_eq_self.mpr passes, filter_eq_nil_iff.mpr fails, append_nil]
    at filtered
  exact filtered

end List

namespace Vec

/-- The capacity a full `Vec` grows to on a push. -/
def grownCapacity (capacity : Nat) : Nat := max 4 (2 * capacity)

/-- The capacity after a push onto a `Vec` of `length` elements. -/
def capacityAfterPush (length capacity : Nat) : Nat :=
  if length < capacity then capacity else grownCapacity capacity

/-- The calls to the global allocator that a push onto a `Vec` of `length` elements makes. -/
def pushHeapCalls (length capacity : Nat) : Nat :=
  if length < capacity then 0 else if capacity = 0 then 1 else 2

/-- The calls to the global allocator that `count` pushes make. -/
def pushesHeapCalls : (count length capacity : Nat) → Nat
  | 0, _, _ => 0
  | count + 1, length, capacity =>
      pushHeapCalls length capacity +
        pushesHeapCalls count (length + 1) (capacityAfterPush length capacity)

/-- A new `Vec` calls the allocator as soon as something is pushed onto it. -/
theorem pushesHeapCalls_new_eq_zero_iff (count : Nat) :
    pushesHeapCalls count 0 0 = 0 ↔ count = 0 := by
  cases count with
  | zero => simp [pushesHeapCalls]
  | succ count => simp [pushesHeapCalls, pushHeapCalls]

end Vec
