import OsByRust.Allocator.Basic
import OsByRust.Lib.Transition

/-!
# The bump allocator

`src/allocator/bump.rs`. `BumpAllocator` hands out memory from `next` upwards: `alloc` rounds
`next` up to the layout's alignment, places the allocation there and moves `next` past it.
Memory is never given back one allocation at a time. `allocations` counts the allocations
not yet freed, and `dealloc` only decrements it; when it reaches zero, `next` goes back to
`heap_start` and the whole heap is free again.

That reset is sound only if the count is exact, and `alloc` returns its start address as
the pointer. An allocation that starts at address `0` therefore reads as the null pointer
of a failed allocation although it was counted. This can only happen on a heap that starts
at `0`.

`BumpAllocatorHeap` is the allocator together with the allocations its callers hold, as in
`OsByRust.Allocator.LinkedListHeap`. Every call is made under the `spin::Mutex` of
`Locked`, so a call is one atomic step.
-/

namespace OsByRust

/-- `BumpAllocator`. -/
structure BumpAllocator where
  heapStart : Nat
  heapEnd : Nat
  next : Nat
  allocations : Nat
  deriving DecidableEq, Repr

namespace BumpAllocator

/-- `BumpAllocator::new`. -/
def new : BumpAllocator := ⟨0, 0, 0, 0⟩

/-- `BumpAllocator::init`. It leaves `allocations` as it is. -/
def init (bump : BumpAllocator) (heapStart heapSize : Nat) : Except Panic BumpAllocator := do
  let heapEnd ← usizeAdd heapStart heapSize
  return { bump with heapStart := heapStart, heapEnd := heapEnd, next := heapStart }

/-- `GlobalAlloc::alloc` for `Locked<BumpAllocator>`: the allocator after the call and the
returned pointer, `0` for `ptr::null_mut()`. -/
def alloc (bump : BumpAllocator) (layout : Layout) : Except Panic (BumpAllocator × Nat) := do
  let allocStart ← alignUp bump.next layout.align
  match checkedAdd allocStart layout.size with
  | none => return (bump, 0)
  | some allocEnd =>
      if allocEnd > bump.heapEnd then return (bump, 0)
      else
        let allocations ← usizeAdd bump.allocations 1
        return ({ bump with next := allocEnd, allocations := allocations }, allocStart)

/-- `GlobalAlloc::dealloc` for `Locked<BumpAllocator>`. The pointer and the layout are not
read. -/
def dealloc (bump : BumpAllocator) (_ptr : Nat) (_layout : Layout) :
    Except Panic BumpAllocator := do
  let allocations ← usizeSub bump.allocations 1
  if allocations = 0 then return { bump with allocations := allocations, next := bump.heapStart }
  else return { bump with allocations := allocations }

theorem init_eq_ok {bump next : BumpAllocator} {heapStart heapSize : Nat}
    (returned : bump.init heapStart heapSize = .ok next) :
    next =
      { bump with heapStart := heapStart, heapEnd := heapStart + heapSize, next := heapStart } := by
  cases added : usizeAdd heapStart heapSize with
  | error reason => simp [init, added, bind, Except.bind] at returned
  | ok heapEnd =>
      rcases usizeAdd_eq_ok.mp added with ⟨-, rfl⟩
      simp only [init, added, bind, Except.bind, pure, Except.pure, Except.ok.injEq] at returned
      exact returned.symm

/-- `alloc` either returns null and leaves the allocator as it was, or places the allocation
at `next` rounded up to the alignment, inside the heap, and moves `next` past it. -/
theorem alloc_eq_ok {bump next : BumpAllocator} {layout : Layout} {ptr : Nat}
    (returned : bump.alloc layout = .ok (next, ptr)) :
    (ptr = 0 ∧ next = bump) ∨
      (ptr = roundUp bump.next layout.align ∧ ptr + layout.size ≤ bump.heapEnd ∧
        next = { bump with next := ptr + layout.size, allocations := bump.allocations + 1 }) := by
  simp only [alloc, bind, Except.bind] at returned
  cases rounded : alignUp bump.next layout.align with
  | error reason => simp [rounded] at returned
  | ok allocStart =>
      rcases alignUp_eq_ok rounded with ⟨-, rfl⟩
      simp only [rounded] at returned
      cases ended : checkedAdd (roundUp bump.next layout.align) layout.size with
      | none =>
          simp only [ended, pure, Except.pure, Except.ok.injEq, Prod.mk.injEq] at returned
          exact Or.inl ⟨returned.2.symm, returned.1.symm⟩
      | some allocEnd =>
          rcases checkedAdd_eq_some.mp ended with ⟨-, rfl⟩
          simp only [ended] at returned
          split at returned
          · simp only [pure, Except.pure, Except.ok.injEq, Prod.mk.injEq] at returned
            exact Or.inl ⟨returned.2.symm, returned.1.symm⟩
          · rename_i fits
            cases counted : usizeAdd bump.allocations 1 with
            | error reason => simp [counted] at returned
            | ok allocations =>
                rcases usizeAdd_eq_ok.mp counted with ⟨-, rfl⟩
                simp only [counted, pure, Except.pure, Except.ok.injEq, Prod.mk.injEq] at returned
                rcases returned with ⟨rfl, rfl⟩
                exact Or.inr ⟨rfl, by omega, rfl⟩

/-- With an allocation outstanding, `dealloc` returns: it decrements the count, and resets
`next` when the count reaches zero. -/
theorem dealloc_of_pos {bump : BumpAllocator} (ptr : Nat) (layout : Layout)
    (outstanding : 0 < bump.allocations) :
    bump.dealloc ptr layout =
      .ok (if bump.allocations - 1 = 0 then
          { bump with allocations := bump.allocations - 1, next := bump.heapStart }
        else { bump with allocations := bump.allocations - 1 }) := by
  have decremented : usizeSub bump.allocations 1 = .ok (bump.allocations - 1) :=
    usizeSub_eq_ok.mpr ⟨outstanding, rfl⟩
  simp only [dealloc, decremented, bind, Except.bind]
  split <;> rfl

end BumpAllocator

/-- The bump allocator with the allocations its callers hold: pointer and layout. -/
structure BumpAllocatorHeap where
  allocator : BumpAllocator
  live : List (Nat × Layout)

namespace BumpAllocatorHeap

open BumpAllocator Transition

/-- The addresses of a live allocation: the bump allocator reserves exactly `size` bytes. -/
def allocationSpan (allocation : Nat × Layout) : Span := ⟨allocation.1, allocation.2.size⟩

/-- One call that returns. A null pointer is a failed allocation and is not live; a
`dealloc` gives back a live allocation with its layout. -/
inductive Step : BumpAllocatorHeap → AllocatorCall → BumpAllocatorHeap → Prop where
  | alloc {heap : BumpAllocatorHeap} {layout : Layout} {next : BumpAllocator} {ptr : Nat} :
      heap.allocator.alloc layout = .ok (next, ptr) →
      Step heap (.alloc layout)
        ⟨next, if ptr = 0 then heap.live else (ptr, layout) :: heap.live⟩
  | dealloc {heap : BumpAllocatorHeap} {ptr : Nat} {layout : Layout} {next : BumpAllocator} :
      (ptr, layout) ∈ heap.live → heap.allocator.dealloc ptr layout = .ok next →
      Step heap (.dealloc ptr layout) ⟨next, heap.live.erase (ptr, layout)⟩

/-- The state right after `init(heap_start, heap_size)` on a new allocator. -/
def Initial (heapStart heapSize : Nat) (heap : BumpAllocatorHeap) : Prop :=
  BumpAllocator.new.init heapStart heapSize = .ok heap.allocator ∧ heap.live = []

/-- What every call keeps true: `next` stays within the heap, the count is the number of
live allocations, and these lie below `next`, aligned and pairwise disjoint. -/
structure Invariant (heapStart heapSize : Nat) (heap : BumpAllocatorHeap) : Prop where
  start_eq : heap.allocator.heapStart = heapStart
  end_eq : heap.allocator.heapEnd = heapStart + heapSize
  start_le : heapStart ≤ heap.allocator.next
  next_le : heap.allocator.next ≤ heap.allocator.heapEnd
  counted : heap.allocator.allocations = heap.live.length
  live_within : ∀ allocation ∈ heap.live,
    heapStart ≤ allocation.1 ∧ allocation.1 + allocation.2.size ≤ heap.allocator.next
  live_aligned : ∀ allocation ∈ heap.live, allocation.1 % allocation.2.align = 0
  disjoint : Span.PairwiseDisjoint (heap.live.map allocationSpan)

variable {heapStart heapSize : Nat}

theorem invariant_initial {heap : BumpAllocatorHeap} (initial : Initial heapStart heapSize heap) :
    Invariant heapStart heapSize heap := by
  rcases initial with ⟨returned, empty⟩
  have allocator := init_eq_ok returned
  refine ⟨?_, ?_, ?_, ?_, ?_, ?_, ?_, ?_⟩ <;> simp [allocator, empty, new, Span.PairwiseDisjoint]

/-- A successful `alloc` places the new allocation at or above `next`, so it is disjoint from
every live allocation, which all lie below `next`. -/
theorem invariant_alloc {heap : BumpAllocatorHeap} {layout : Layout} {next : BumpAllocator} {ptr : Nat}
    (positive : 0 < heapStart) (invariant : Invariant heapStart heapSize heap)
    (returned : heap.allocator.alloc layout = .ok (next, ptr)) :
    Invariant heapStart heapSize
      ⟨next, if ptr = 0 then heap.live else (ptr, layout) :: heap.live⟩ := by
  rcases alloc_eq_ok returned with ⟨rfl, rfl⟩ | ⟨rfl, fits, rfl⟩
  · rw [if_pos rfl]
    exact invariant
  · have above : heap.allocator.next ≤ roundUp heap.allocator.next layout.align := le_roundUp
    have nonzero : roundUp heap.allocator.next layout.align ≠ 0 := by
      have := invariant.start_le
      omega
    rw [if_neg nonzero]
    constructor
    · exact invariant.start_eq
    · exact invariant.end_eq
    · have := invariant.start_le
      dsimp only
      omega
    · exact fits
    · simp [invariant.counted]
    · intro allocation allocationMem
      rcases List.mem_cons.mp allocationMem with rfl | older
      · have := invariant.start_le
        dsimp only
        omega
      · obtain ⟨lower, upper⟩ := invariant.live_within allocation older
        dsimp only
        omega
    · intro allocation allocationMem
      rcases List.mem_cons.mp allocationMem with rfl | older
      · exact roundUp_mod _ layout.align_pos
      · exact invariant.live_aligned allocation older
    · rw [List.map_cons, Span.pairwiseDisjoint_cons]
      refine ⟨?_, invariant.disjoint⟩
      intro other otherMem
      obtain ⟨allocation, allocationMem, rfl⟩ := List.mem_map.mp otherMem
      obtain ⟨-, upper⟩ := invariant.live_within allocation allocationMem
      apply Span.disjoint_iff.mpr
      simp only [allocationSpan, Span.stop_eq]
      omega

/-- A `dealloc` of a live allocation removes it and decrements the count; when the count
reaches zero no allocation is live, so moving `next` back to the heap start is sound. -/
theorem invariant_dealloc {heap : BumpAllocatorHeap} {ptr : Nat} {layout : Layout} {next : BumpAllocator}
    (invariant : Invariant heapStart heapSize heap) (isLive : (ptr, layout) ∈ heap.live)
    (returned : heap.allocator.dealloc ptr layout = .ok next) :
    Invariant heapStart heapSize ⟨next, heap.live.erase (ptr, layout)⟩ := by
  have shorter := List.length_erase_of_mem isLive
  have outstanding : 0 < heap.allocator.allocations := by
    rw [invariant.counted]
    exact List.length_pos_of_mem isLive
  rw [dealloc_of_pos ptr layout outstanding, Except.ok.injEq] at returned
  have erasedMem := fun allocation (mem : allocation ∈ heap.live.erase (ptr, layout)) =>
    List.mem_of_mem_erase mem
  have disjoint : Span.PairwiseDisjoint ((heap.live.erase (ptr, layout)).map allocationSpan) :=
    invariant.disjoint.sublist ((List.erase_sublist ..).map _)
  split at returned
  · -- the last live allocation is given back: the heap is empty again
    rename_i drained
    have empty : heap.live.erase (ptr, layout) = [] := by
      rw [← List.length_eq_zero_iff, shorter, ← invariant.counted]
      exact drained
    subst returned
    rw [empty]
    refine ⟨invariant.start_eq, invariant.end_eq, ?_, ?_, ?_, by simp, by simp,
      by simp [Span.PairwiseDisjoint]⟩
    · exact (invariant.start_eq).ge
    · have := invariant.start_eq
      have := invariant.start_le
      have := invariant.next_le
      dsimp only
      omega
    · simp [drained]
  · subst returned
    refine ⟨invariant.start_eq, invariant.end_eq, invariant.start_le, invariant.next_le, ?_, ?_,
      ?_, disjoint⟩
    · rw [shorter, invariant.counted]
    · intro allocation allocationMem
      exact invariant.live_within allocation (erasedMem allocation allocationMem)
    · intro allocation allocationMem
      exact invariant.live_aligned allocation (erasedMem allocation allocationMem)

theorem invariant_step {heap next : BumpAllocatorHeap} {call : AllocatorCall} (positive : 0 < heapStart)
    (invariant : Invariant heapStart heapSize heap) (step : Step heap call next) :
    Invariant heapStart heapSize next := by
  cases step with
  | alloc returned => exact invariant_alloc positive invariant returned
  | dealloc isLive returned => exact invariant_dealloc invariant isLive returned

theorem invariant_of_reachable (positive : 0 < heapStart) {heap : BumpAllocatorHeap}
    (reachable : Reachable (Initial heapStart heapSize) Step heap) :
    Invariant heapStart heapSize heap :=
  reachable.invariant (fun _ initial => invariant_initial initial)
    (fun _ _ _ invariant step => invariant_step positive invariant step)

/-- The bump allocator over every run on a heap that does not start at address `0`: `next`
stays in the heap, the count is the number of live allocations, every live allocation lies
in `[heap_start, next)`, is aligned as asked and overlaps no other, an `alloc` that returns
null changes nothing, and a `dealloc` of a live allocation returns. -/
theorem bump_allocations_tracked (positive : 0 < heapStart) {heap : BumpAllocatorHeap}
    (reachable : Reachable (Initial heapStart heapSize) Step heap) :
    heapStart ≤ heap.allocator.next ∧ heap.allocator.next ≤ heap.allocator.heapEnd ∧
      heap.allocator.heapEnd = heapStart + heapSize ∧
      heap.allocator.allocations = heap.live.length ∧
      (∀ allocation ∈ heap.live, heapStart ≤ allocation.1 ∧
        allocation.1 + allocation.2.size ≤ heap.allocator.next ∧
        allocation.1 % allocation.2.align = 0) ∧
      Span.PairwiseDisjoint (heap.live.map allocationSpan) ∧
      (∀ layout next, heap.allocator.alloc layout = .ok (next, 0) → next = heap.allocator) ∧
      (∀ allocation ∈ heap.live, ∃ next,
        heap.allocator.dealloc allocation.1 allocation.2 = .ok next) := by
  have invariant := invariant_of_reachable positive reachable
  refine ⟨invariant.start_le, invariant.next_le, invariant.end_eq, invariant.counted, ?_,
    invariant.disjoint, ?_, ?_⟩
  · intro allocation allocationMem
    obtain ⟨lower, upper⟩ := invariant.live_within allocation allocationMem
    exact ⟨lower, upper, invariant.live_aligned allocation allocationMem⟩
  · intro layout next returned
    rcases alloc_eq_ok returned with ⟨-, unchanged⟩ | ⟨atZero, -, -⟩
    · exact unchanged
    · have above : heap.allocator.next ≤ roundUp heap.allocator.next layout.align := le_roundUp
      have := invariant.start_le
      omega
  · intro allocation allocationMem
    have outstanding : 0 < heap.allocator.allocations := by
      rw [invariant.counted]
      exact List.length_pos_of_mem allocationMem
    exact ⟨_, dealloc_of_pos allocation.1 allocation.2 outstanding⟩

/-- The kernel's heap after an 8-byte allocation, a 16-byte allocation aligned to 16 and
the free of the first: the count is one, and the allocation left lies below `next`. -/
theorem bump_allocations_tracked_after_free :
    0 < Allocator.heapStart ∧ ∃ heap : BumpAllocatorHeap,
      Reachable (Initial Allocator.heapStart Allocator.heapSize) Step heap ∧
        heap.live = [(Allocator.heapStart + 16, ⟨16, 16, ⟨4, rfl⟩, by decide⟩)] ∧
        heap.allocator.allocations = heap.live.length ∧
        heap.allocator.next = Allocator.heapStart + 32 ∧
        Allocator.heapStart + 16 + 16 ≤ heap.allocator.next := by
  have positive : 0 < Allocator.heapStart := by decide
  have initial : Initial Allocator.heapStart Allocator.heapSize
      ⟨⟨Allocator.heapStart, Allocator.heapStart + Allocator.heapSize, Allocator.heapStart, 0⟩,
        []⟩ := ⟨by rfl, rfl⟩
  have first : BumpAllocator.alloc
      ⟨Allocator.heapStart, Allocator.heapStart + Allocator.heapSize, Allocator.heapStart, 0⟩
      ⟨8, 8, ⟨3, rfl⟩, by decide⟩ =
      .ok (⟨Allocator.heapStart, Allocator.heapStart + Allocator.heapSize,
        Allocator.heapStart + 8, 1⟩, Allocator.heapStart) := by
    rfl
  have second : BumpAllocator.alloc
      ⟨Allocator.heapStart, Allocator.heapStart + Allocator.heapSize, Allocator.heapStart + 8, 1⟩
      ⟨16, 16, ⟨4, rfl⟩, by decide⟩ =
      .ok (⟨Allocator.heapStart, Allocator.heapStart + Allocator.heapSize,
        Allocator.heapStart + 32, 2⟩, Allocator.heapStart + 16) := by
    rfl
  have freed : BumpAllocator.dealloc
      ⟨Allocator.heapStart, Allocator.heapStart + Allocator.heapSize, Allocator.heapStart + 32, 2⟩
      Allocator.heapStart ⟨8, 8, ⟨3, rfl⟩, by decide⟩ =
      .ok ⟨Allocator.heapStart, Allocator.heapStart + Allocator.heapSize,
        Allocator.heapStart + 32, 1⟩ := by
    rfl
  have reachable := (((Reachable.init initial).tail (Step.alloc first)).tail
    (Step.alloc second)).tail (Step.dealloc (by decide) freed)
  obtain ⟨heap, reachable, left, bumped⟩ : ∃ heap, Reachable (Initial Allocator.heapStart
      Allocator.heapSize) Step heap ∧ heap.live =
        [(Allocator.heapStart + 16, ⟨16, 16, ⟨4, rfl⟩, by decide⟩)] ∧
        heap.allocator.next = Allocator.heapStart + 32 :=
    ⟨_, reachable, by decide, rfl⟩
  have tracked := bump_allocations_tracked positive reachable
  refine ⟨positive, heap, reachable, left, tracked.2.2.2.1, bumped, ?_⟩
  exact (tracked.2.2.2.2.1 _ (by rw [left]; exact List.mem_singleton_self _)).2.1

/-- On a heap at address `0` the first allocation starts at `0`: `alloc` counts it and moves
`next`, but returns it as the null pointer, so the caller holds no allocation while
`allocations` is `1`. -/
theorem bump_allocation_at_zero_reads_as_null :
    ∃ heap : BumpAllocatorHeap, Reachable (Initial 0 4096) Step heap ∧ heap.live = [] ∧
      heap.allocator.allocations = 1 ∧ heap.allocator.next = 8 := by
  have initial : Initial 0 4096 ⟨⟨0, 4096, 0, 0⟩, []⟩ := ⟨by rfl, rfl⟩
  have returned : BumpAllocator.alloc ⟨0, 4096, 0, 0⟩ ⟨8, 8, ⟨3, rfl⟩, by decide⟩ =
      .ok (⟨0, 4096, 8, 1⟩, 0) := by
    rfl
  exact ⟨_, (Reachable.init initial).tail (Step.alloc returned), rfl, rfl, rfl⟩

/-! ### Giving back every allocation frees the whole heap -/

/-- Once no allocation is live, `next` is back at the heap start. -/
def Drained (heapStart : Nat) (heap : BumpAllocatorHeap) : Prop :=
  heap.live = [] → heap.allocator.next = heapStart

theorem drained_initial {heap : BumpAllocatorHeap} (initial : Initial heapStart heapSize heap) :
    Drained heapStart heap := by
  intro _
  rw [init_eq_ok initial.1]

/-- An `alloc` that returns a pointer makes an allocation live; one that returns null
changes nothing. A `dealloc` that leaves the count at zero moves `next` back, and one that
does not leaves an allocation live, since the count is exact. -/
theorem drained_step {heap next : BumpAllocatorHeap} {call : AllocatorCall}
    (positive : 0 < heapStart) (invariant : Invariant heapStart heapSize heap)
    (drained : Drained heapStart heap) (step : Step heap call next) : Drained heapStart next := by
  cases step with
  | @alloc layout _ _ returned =>
      rcases alloc_eq_ok returned with ⟨rfl, rfl⟩ | ⟨rfl, -, rfl⟩
      · rw [if_pos rfl]
        exact drained
      · have above : heap.allocator.next ≤ roundUp heap.allocator.next layout.align := le_roundUp
        have nonzero : roundUp heap.allocator.next layout.align ≠ 0 := by
          have := invariant.start_le
          omega
        intro empty
        rw [if_neg nonzero] at empty
        cases empty
  | @dealloc ptr layout _ isLive returned =>
      have outstanding : 0 < heap.allocator.allocations := by
        rw [invariant.counted]
        exact List.length_pos_of_mem isLive
      rw [dealloc_of_pos ptr layout outstanding, Except.ok.injEq] at returned
      intro empty
      split at returned
      · rw [← returned]
        exact invariant.start_eq
      · -- the count after the call is the number of allocations still live
        rename_i remaining
        have shorter := List.length_erase_of_mem isLive
        dsimp only at empty
        rw [empty, List.length_nil, ← invariant.counted] at shorter
        exact absurd shorter.symm remaining

/-- On a heap that does not start at address `0`, whenever the callers hold no allocation,
`next` is back at `heap_start` and the count is zero: every run that gives back all it took
can use the whole heap again. -/
theorem bump_drained_heap_is_free (positive : 0 < heapStart) {heap : BumpAllocatorHeap}
    (reachable : Reachable (Initial heapStart heapSize) Step heap) (empty : heap.live = []) :
    heap.allocator.next = heapStart ∧ heap.allocator.allocations = 0 := by
  have both : Invariant heapStart heapSize heap ∧ Drained heapStart heap := by
    apply reachable.invariant
    · intro start initial
      exact ⟨invariant_initial initial, drained_initial initial⟩
    · intro state call after ⟨invariant, drained⟩ step
      exact ⟨invariant_step positive invariant step, drained_step positive invariant drained step⟩
  refine ⟨both.2 empty, ?_⟩
  rw [both.1.counted, empty, List.length_nil]

/-- The kernel's heap after one allocation of 8 bytes has been given back. -/
theorem bump_drained_heap_is_free_after_free :
    ∃ heap : BumpAllocatorHeap,
      Reachable (Initial Allocator.heapStart Allocator.heapSize) Step heap ∧ heap.live = [] ∧
        heap.allocator.next = Allocator.heapStart ∧ heap.allocator.allocations = 0 := by
  have initial : Initial Allocator.heapStart Allocator.heapSize
      ⟨⟨Allocator.heapStart, Allocator.heapStart + Allocator.heapSize, Allocator.heapStart, 0⟩,
        []⟩ := ⟨by rfl, rfl⟩
  have allocated : BumpAllocator.alloc
      ⟨Allocator.heapStart, Allocator.heapStart + Allocator.heapSize, Allocator.heapStart, 0⟩
      ⟨8, 8, ⟨3, rfl⟩, by decide⟩ =
      .ok (⟨Allocator.heapStart, Allocator.heapStart + Allocator.heapSize,
        Allocator.heapStart + 8, 1⟩, Allocator.heapStart) := by
    rfl
  have freed : BumpAllocator.dealloc
      ⟨Allocator.heapStart, Allocator.heapStart + Allocator.heapSize, Allocator.heapStart + 8, 1⟩
      Allocator.heapStart ⟨8, 8, ⟨3, rfl⟩, by decide⟩ =
      .ok ⟨Allocator.heapStart, Allocator.heapStart + Allocator.heapSize,
        Allocator.heapStart, 0⟩ := by
    rfl
  have reachable := ((Reachable.init initial).tail (Step.alloc allocated)).tail
    (Step.dealloc (by decide) freed)
  have empty : ((if Allocator.heapStart = 0 then [] else
      [(Allocator.heapStart, (⟨8, 8, ⟨3, rfl⟩, by decide⟩ : Layout))]).erase
        (Allocator.heapStart, ⟨8, 8, ⟨3, rfl⟩, by decide⟩) : List (Nat × Layout)) = [] := by
    decide
  exact ⟨_, reachable, empty, bump_drained_heap_is_free (by decide) reachable empty⟩

end BumpAllocatorHeap

end OsByRust
