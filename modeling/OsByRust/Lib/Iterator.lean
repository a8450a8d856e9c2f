import Mathlib.Data.List.Nodup
import Mathlib.Data.List.Range

/-!
# Iterators as lists

A finite Rust iterator is the list of the items its calls of `next` return. Two pieces of
the iterator library are modelled here. `(start..stop).step_by(step)` yields `start`,
`start + step`, and so on, below `stop`. `Iterator::nth(n)` calls `next` `n + 1` times and
returns the last item; on an iterator made by `map` every one of these calls runs the
closure. A closure that can panic therefore makes a list of fallible items, and `nth` meets
the first failure among the first `n + 1` of them.

`nth_map_ok` says that over items that cannot fail `nth` is list indexing, and
`filterMap_range_getElem?` says which items `n` successive calls of `nth` at `0, 1, ...`
return: the first `n` items.
-/

namespace Iter

universe u v

variable {ε : Type u} {α : Type v}

/-- `(start..stop).step_by(step)`: `⌈(stop - start) / step⌉` items, `step` apart. -/
def stepBy (start stop step : Nat) : List Nat :=
  List.range' start ((stop - start + step - 1) / step) step

/-- `Iterator::nth(n)` on an iterator whose items can fail. -/
def nth : List (Except ε α) → Nat → Except ε (Option α)
  | [], _ => .ok none
  | item :: _, 0 => item.map some
  | item :: rest, n + 1 => item >>= fun _ => nth rest n

theorem nth_map_ok (items : List α) (n : Nat) :
    nth (items.map Except.ok : List (Except ε α)) n = .ok items[n]? := by
  induction items generalizing n with
  | nil => rfl
  | cons item rest ih =>
      cases n with
      | zero => rfl
      | succ n =>
          rw [List.map_cons, nth, List.getElem?_cons_succ, ← ih n]
          rfl

theorem mem_stepBy {start stop step address : Nat} (positive : 0 < step) :
    address ∈ stepBy start stop step ↔
      ∃ index, start + step * index < stop ∧ address = start + step * index := by
  rw [stepBy, List.mem_range']
  apply exists_congr
  intro index
  have below : index < (stop - start + step - 1) / step ↔ start + step * index < stop := by
    rw [Nat.lt_iff_add_one_le, Nat.le_div_iff_mul_le positive, Nat.add_mul, Nat.one_mul,
      Nat.mul_comm index step]
    omega
  rw [below]

theorem nodup_stepBy (start stop : Nat) {step : Nat} (positive : 0 < step) :
    (stepBy start stop step).Nodup :=
  List.nodup_range' step positive

@[simp]
theorem length_stepBy (start stop step : Nat) :
    (stepBy start stop step).length = (stop - start + step - 1) / step :=
  List.length_range'

/-- The items returned by `nth` at `0, 1, ..., count - 1`, the `none`s dropped, are the first
`count` items. -/
theorem filterMap_range_getElem? (items : List α) (count : Nat) :
    ((List.range count).map fun index => items[index]?).filterMap id = items.take count := by
  induction count with
  | zero => simp
  | succ count ih =>
      rw [List.range_succ, List.map_append, List.filterMap_append, ih, List.take_add_one,
        List.map_singleton]
      cases items[count]? <;> rfl

end Iter
