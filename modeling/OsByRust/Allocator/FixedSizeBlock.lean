import OsByRust.Allocator.Basic

/-!
# The fixed-size block allocator

`src/allocator/fixed_size_block.rs`, the kernel's global allocator. A request whose size
fits one of the nine block sizes is served from the free list of the first such size;
when that list is empty a fresh block of exactly that size, aligned to its size, is taken
from the fallback heap. Larger requests go to the fallback heap directly. A freed block is
pushed on the list of its size class; a freed large allocation goes back to the fallback.

The free lists are intrusive: a free block holds the `ListNode` pointing to the next free
block of its list. The model keeps each list as the list of its block addresses, head
first. The fallback is `linked_list_allocator::Heap`, a crate outside the repository: its
state is a type parameter `H` and its three operations are the fields of `FallbackHeap`.
What the allocator relies on of them is stated separately, as hypotheses of the theorems
that need it.

The two assertions of `dealloc` compare `size_of` and `align_of` of this module's
`ListNode` (one pointer, 8 bytes) with the block size; `listNode_fits_block` shows that they
hold for every size class, so the model leaves them out.
-/

namespace OsByRust

/-- `BLOCK_SIZES`. -/
def blockSizes : List Nat := [8, 16, 32, 64, 128, 256, 512, 1024, 2048]

/-- `list_index`: the first size class whose block size holds `layout.size()`. -/
def listIndex (layout : Layout) : Option (Fin blockSizes.length) :=
  blockSizes.findFinIdx? fun blockSize => decide (layout.size ≤ blockSize)

/-- The size of the blocks of a size class. -/
def blockSize (index : Fin blockSizes.length) : Nat := blockSizes.get index

theorem blockSize_isPowerOfTwo (index : Fin blockSizes.length) :
    (blockSize index).isPowerOfTwo := by
  revert index
  decide

theorem listNode_fits_block (index : Fin blockSizes.length) : 8 ≤ blockSize index := by
  revert index
  decide

/-- `Layout::from_size_align(block_size, block_align).unwrap()` with `block_align` equal to
`block_size`. -/
def blockLayout (index : Fin blockSizes.length) : Layout where
  size := blockSize index
  align := blockSize index
  align_isPowerOfTwo := blockSize_isPowerOfTwo index
  size_le := by
    revert index
    decide

theorem fromSizeAlign_blockSize (index : Fin blockSizes.length) :
    Layout.fromSizeAlign (blockSize index) (blockSize index) = some (blockLayout index) := by
  rw [Layout.fromSizeAlign_eq_some]
  exact ⟨blockSize_isPowerOfTwo index, (blockLayout index).size_le, rfl, rfl⟩

/-- The operations of `linked_list_allocator::Heap` that the allocator calls, over a heap
state of type `H`. -/
structure FallbackHeap (H : Type) where
  /-- `Heap::empty()`. -/
  empty : H
  /-- `Heap::init(heap_start, heap_size)`. -/
  init : H → Nat → Nat → H
  /-- `Heap::allocate_first_fit`: the heap afterwards and the pointer, `none` for `Err(())`. -/
  allocateFirstFit : H → Layout → H × Option Nat
  /-- `Heap::deallocate`. -/
  deallocate : H → Nat → Layout → H

/-- `FixedSizeBlockAllocator`: the nine free lists and the fallback heap. -/
structure FixedSizeBlockAllocator (H : Type) where
  listHeads : Fin blockSizes.length → List Nat
  fallbackAllocator : H

namespace FixedSizeBlockAllocator

variable {H : Type} (fallback : FallbackHeap H)

/-- `FixedSizeBlockAllocator::new`. -/
def new : FixedSizeBlockAllocator H := ⟨fun _ => [], fallback.empty⟩

/-- `FixedSizeBlockAllocator::init`. -/
def init (allocator : FixedSizeBlockAllocator H) (heapStart heapSize : Nat) :
    FixedSizeBlockAllocator H :=
  { allocator with
    fallbackAllocator := fallback.init allocator.fallbackAllocator heapStart heapSize }

/-- `fallback_alloc`: the pointer from the fallback heap, `0` for `ptr::null_mut()`. -/
def fallbackAlloc (allocator : FixedSizeBlockAllocator H) (layout : Layout) :
    FixedSizeBlockAllocator H × Nat :=
  match fallback.allocateFirstFit allocator.fallbackAllocator layout with
  | (heap, some ptr) => ({ allocator with fallbackAllocator := heap }, ptr)
  | (heap, none) => ({ allocator with fallbackAllocator := heap }, 0)

/-- `GlobalAlloc::alloc`: the allocator after the call and the returned pointer. -/
def alloc (allocator : FixedSizeBlockAllocator H) (layout : Layout) :
    FixedSizeBlockAllocator H × Nat :=
  match listIndex layout with
  | some index =>
      match allocator.listHeads index with
      | node :: next =>
          ({ allocator with listHeads := Function.update allocator.listHeads index next }, node)
      | [] => fallbackAlloc fallback allocator (blockLayout index)
  | none => fallbackAlloc fallback allocator layout

/-- `GlobalAlloc::dealloc`; a large allocation at the null address makes
`NonNull::new(ptr).unwrap()` panic. -/
def dealloc (allocator : FixedSizeBlockAllocator H) (ptr : Nat) (layout : Layout) :
    Except Panic (FixedSizeBlockAllocator H) :=
  match listIndex layout with
  | some index =>
      .ok { allocator with
        listHeads := Function.update allocator.listHeads index (ptr :: allocator.listHeads index) }
  | none =>
      if ptr = 0 then .error .unwrapOnNone
      else .ok { allocator with
        fallbackAllocator := fallback.deallocate allocator.fallbackAllocator ptr layout }

end FixedSizeBlockAllocator

theorem listIndex_eq_some {layout : Layout} {index : Fin blockSizes.length}
    (chosen : listIndex layout = some index) : layout.size ≤ blockSize index := by
  have fits := (List.findFinIdx?_eq_some_iff.mp chosen).1
  simpa [blockSize] using fits

theorem listIndex_eq_none {layout : Layout} (large : listIndex layout = none) :
    2048 < layout.size := by
  have tooSmall := List.findFinIdx?_eq_none_iff.mp large 2048 (by simp [blockSizes])
  simpa using tooSmall

namespace FixedSizeBlockAllocator

variable {H : Type} (fallback : FallbackHeap H)

theorem fallbackAlloc_eq {allocator next : FixedSizeBlockAllocator H} {layout : Layout}
    {ptr : Nat} (returned : fallbackAlloc fallback allocator layout = (next, ptr)) :
    next.listHeads = allocator.listHeads ∧
      ∃ result, fallback.allocateFirstFit allocator.fallbackAllocator layout =
        (next.fallbackAllocator, result) ∧ ptr = result.getD 0 := by
  simp only [fallbackAlloc] at returned
  split at returned
  · rename_i heap pointer allocated
    simp only [Prod.mk.injEq] at returned
    rcases returned with ⟨rfl, rfl⟩
    exact ⟨rfl, some pointer, allocated, rfl⟩
  · rename_i heap allocated
    simp only [Prod.mk.injEq] at returned
    rcases returned with ⟨rfl, rfl⟩
    exact ⟨rfl, none, allocated, rfl⟩

/-- The three ways `alloc` serves a request. -/
theorem alloc_cases (allocator : FixedSizeBlockAllocator H) (layout : Layout) :
    (∃ index node rest, listIndex layout = some index ∧
      allocator.listHeads index = node :: rest ∧
      alloc fallback allocator layout =
        ({ allocator with listHeads := Function.update allocator.listHeads index rest }, node)) ∨
    (∃ index, listIndex layout = some index ∧ allocator.listHeads index = [] ∧
      alloc fallback allocator layout = fallbackAlloc fallback allocator (blockLayout index)) ∨
    (listIndex layout = none ∧
      alloc fallback allocator layout = fallbackAlloc fallback allocator layout) := by
  cases chosen : listIndex layout with
  | none => exact Or.inr (Or.inr ⟨rfl, by simp [alloc, chosen]⟩)
  | some index =>
      cases heads : allocator.listHeads index with
      | nil => exact Or.inr (Or.inl ⟨index, rfl, heads, by simp [alloc, chosen, heads]⟩)
      | cons node rest =>
          exact Or.inl ⟨index, node, rest, rfl, heads, by simp [alloc, chosen, heads]⟩

theorem dealloc_of_listIndex {allocator : FixedSizeBlockAllocator H} {ptr : Nat}
    {layout : Layout} {index : Fin blockSizes.length} (chosen : listIndex layout = some index) :
    dealloc fallback allocator ptr layout =
      .ok { allocator with
        listHeads := Function.update allocator.listHeads index
          (ptr :: allocator.listHeads index) } := by
  simp [dealloc, chosen]

theorem dealloc_of_large {allocator : FixedSizeBlockAllocator H} {ptr : Nat}
    {layout : Layout} (large : listIndex layout = none) (nonNull : ptr ≠ 0) :
    dealloc fallback allocator ptr layout =
      .ok { allocator with
        fallbackAllocator := fallback.deallocate allocator.fallbackAllocator ptr layout } := by
  simp [dealloc, large, nonNull]

end FixedSizeBlockAllocator

end OsByRust
