import OsByRust.Allocator.FixedSizeBlock
import OsByRust.Lib.Transition
import Mathlib.Data.List.Basic

/-!
# Runs of the fixed-size block allocator

The kernel's global allocator is `Locked<FixedSizeBlockAllocator>`. A client initialises it
on a heap, then calls `alloc` and `dealloc` in any order, each `dealloc` freeing a pointer
returned by an earlier `alloc` and not freed since, with the layout it was allocated with.

The allocator's soundness rests on its fallback heap. `FallbackHeap.Reachable` follows the
fallback through any sequence of its own calls from `init`, together with the allocations
it has handed out and not had back. `FallbackHeap.Sound` is what the allocator relies on of
`linked_list_allocator::Heap` along such a sequence: `allocate_first_fit` returns a
non-null pointer aligned to and inside the heap for the layout it is given, and never
overlapping an allocation it handed out and did not get back.

The invariant of the allocator is that the blocks it owns, the free blocks of each list
and the block behind each live allocation, are exactly the allocations the fallback has
handed out and not had back. The fallback's soundness then makes all of them disjoint.
-/

namespace OsByRust

variable {H : Type}

/-- The addresses of an allocation `(ptr, layout)`: `[ptr, ptr + layout.size())`. -/
def allocationSpan (allocation : Nat × Layout) : Span := ⟨allocation.1, allocation.2.size⟩

namespace FallbackHeap

variable (fallback : FallbackHeap H) (heapStart heapSize : Nat)

/-- A state of the fallback heap reached from `init` by its own calls, with the allocations
it has handed out and not had back, newest first. -/
inductive Reachable : H → List (Nat × Layout) → Prop where
  | init : Reachable (fallback.init fallback.empty heapStart heapSize) []
  | allocate {heap : H} {outstanding : List (Nat × Layout)} {layout : Layout} {next : H}
      {ptr : Nat} :
      Reachable heap outstanding → fallback.allocateFirstFit heap layout = (next, some ptr) →
      Reachable next ((ptr, layout) :: outstanding)
  | allocateFailed {heap : H} {outstanding : List (Nat × Layout)} {layout : Layout} {next : H} :
      Reachable heap outstanding → fallback.allocateFirstFit heap layout = (next, none) →
      Reachable next outstanding
  | deallocate {heap : H} {outstanding : List (Nat × Layout)} {ptr : Nat} {layout : Layout} :
      Reachable heap outstanding → (ptr, layout) ∈ outstanding →
      Reachable (fallback.deallocate heap ptr layout) (outstanding.erase (ptr, layout))

/-- What the allocator relies on of `linked_list_allocator::Heap` initialised on
`[heapStart, heapStart + heapSize)`. -/
structure Sound : Prop where
  allocate : ∀ heap outstanding layout next ptr,
    Reachable fallback heapStart heapSize heap outstanding →
    fallback.allocateFirstFit heap layout = (next, some ptr) →
    0 < ptr ∧ ptr % layout.align = 0 ∧
      (allocationSpan (ptr, layout)).Within ⟨heapStart, heapSize⟩ ∧
      ∀ allocation ∈ outstanding, (allocationSpan (ptr, layout)).Disjoint (allocationSpan allocation)

variable {fallback heapStart heapSize}

/-- Along the fallback's own calls, what it has handed out is pairwise disjoint, non-null,
aligned and inside the heap. -/
theorem Sound.outstanding (sound : fallback.Sound heapStart heapSize) {heap : H}
    {outstanding : List (Nat × Layout)}
    (reachable : Reachable fallback heapStart heapSize heap outstanding) :
    Span.PairwiseDisjoint (outstanding.map allocationSpan) ∧
      ∀ allocation ∈ outstanding, 0 < allocation.1 ∧ allocation.1 % allocation.2.align = 0 ∧
        (allocationSpan allocation).Within ⟨heapStart, heapSize⟩ := by
  induction reachable with
  | init => simp [Span.PairwiseDisjoint]
  | allocate previous allocated ih =>
      rcases sound.allocate _ _ _ _ _ previous allocated with
        ⟨nonNull, aligned, inside, separated⟩
      refine ⟨?_, ?_⟩
      · rw [List.map_cons, Span.pairwiseDisjoint_cons]
        refine ⟨?_, ih.1⟩
        simp only [List.mem_map]
        rintro _ ⟨allocation, allocationMem, rfl⟩
        exact separated allocation allocationMem
      · intro allocation allocationMem
        rcases List.mem_cons.mp allocationMem with rfl | older
        · exact ⟨nonNull, aligned, inside⟩
        · exact ih.2 allocation older
  | allocateFailed _ _ ih => exact ih
  | deallocate _ _ ih =>
      refine ⟨?_, ?_⟩
      · exact ih.1.sublist (List.Sublist.map _ (List.erase_sublist))
      · intro allocation allocationMem
        exact ih.2 allocation (List.mem_of_mem_erase allocationMem)

end FallbackHeap

/-- A heap that hands out memory upwards from the bottom of the heap and never reuses it,
rounding each request as `HoleList::align_layout` of `linked_list_allocator` does: at least
two words, a multiple of eight bytes. For requests aligned to at most eight bytes with
nothing deallocated it returns what `allocate_first_fit` returns; the concrete runs below
use it as the fallback. -/
structure BumpHeap where
  next : Nat
  top : Nat
  deriving DecidableEq, Repr

/-- The bytes a request occupies in the heap: `align_layout`'s size. -/
def bumpSize (layout : Layout) : Nat := roundUp (max layout.size 16) 8

def bumpHeap : FallbackHeap BumpHeap where
  empty := ⟨0, 0⟩
  init _ heapStart heapSize := ⟨heapStart, heapStart + heapSize⟩
  allocateFirstFit heap layout :=
    if roundUp heap.next layout.align + bumpSize layout ≤ heap.top then
      (⟨roundUp heap.next layout.align + bumpSize layout, heap.top⟩,
        some (roundUp heap.next layout.align))
    else (heap, none)
  deallocate heap _ _ := heap

namespace BumpHeap

variable {heapStart heapSize : Nat}

/-- What a reachable bump heap has handed out lies between the bottom of the heap and its
next free byte. -/
def Placed (heapStart heapSize : Nat) (heap : BumpHeap) (outstanding : List (Nat × Layout)) :
    Prop :=
  heap.top = heapStart + heapSize ∧ heapStart ≤ heap.next ∧
    ∀ allocation ∈ outstanding, heapStart ≤ allocation.1 ∧
      allocation.1 + allocation.2.size ≤ heap.next

theorem allocateFirstFit_eq_some {heap next : BumpHeap} {layout : Layout} {ptr : Nat}
    (allocated : bumpHeap.allocateFirstFit heap layout = (next, some ptr)) :
    ptr = roundUp heap.next layout.align ∧ ptr + bumpSize layout ≤ heap.top ∧
      next = ⟨ptr + bumpSize layout, heap.top⟩ := by
  simp only [bumpHeap] at allocated
  split at allocated
  · rename_i fits
    simp only [Prod.mk.injEq, Option.some.injEq] at allocated
    rcases allocated with ⟨rfl, rfl⟩
    exact ⟨rfl, fits, rfl⟩
  · simp at allocated

theorem allocateFirstFit_eq_none {heap next : BumpHeap} {layout : Layout}
    (failed : bumpHeap.allocateFirstFit heap layout = (next, none)) : next = heap := by
  simp only [bumpHeap] at failed
  split at failed
  · simp at failed
  · simp only [Prod.mk.injEq] at failed
    exact failed.1.symm

theorem le_bumpSize (layout : Layout) : layout.size ≤ bumpSize layout :=
  (le_max_left _ _).trans le_roundUp

theorem placed_of_reachable {heap : BumpHeap} {outstanding : List (Nat × Layout)}
    (reachable : bumpHeap.Reachable heapStart heapSize heap outstanding) :
    Placed heapStart heapSize heap outstanding := by
  induction reachable with
  | init => exact ⟨rfl, le_refl _, by simp⟩
  | @allocate heap _ layout _ _ _ allocated ih =>
      rcases allocateFirstFit_eq_some allocated with ⟨rfl, fits, rfl⟩
      rcases ih with ⟨top, above, older⟩
      have rounded : heap.next ≤ roundUp heap.next layout.align := le_roundUp
      have covers := le_bumpSize layout
      refine ⟨top, ?_, ?_⟩
      · exact above.trans (rounded.trans (Nat.le_add_right _ _))
      · intro allocation allocationMem
        rcases List.mem_cons.mp allocationMem with rfl | earlier
        · exact ⟨above.trans rounded, Nat.add_le_add_left covers _⟩
        · have placed := older allocation earlier
          dsimp only
          omega
  | allocateFailed _ failed ih =>
      rw [allocateFirstFit_eq_none failed]
      exact ih
  | deallocate _ _ ih =>
      refine ⟨ih.1, ih.2.1, ?_⟩
      intro allocation allocationMem
      exact ih.2.2 allocation (List.mem_of_mem_erase allocationMem)

/-- The bump heap is a sound fallback for a heap that does not start at the null address. -/
theorem sound (positive : 0 < heapStart) : bumpHeap.Sound heapStart heapSize := by
  constructor
  intro heap outstanding layout next ptr reachable allocated
  rcases placed_of_reachable reachable with ⟨top, above, older⟩
  rcases allocateFirstFit_eq_some allocated with ⟨rfl, fits, -⟩
  have rounded : heap.next ≤ roundUp heap.next layout.align := le_roundUp
  have covers := le_bumpSize layout
  refine ⟨by omega, roundUp_mod _ layout.align_pos, ?_, ?_⟩
  · rw [Span.within_iff]
    simp only [allocationSpan]
    omega
  · intro allocation allocationMem
    have placed := older allocation allocationMem
    rw [Span.disjoint_iff]
    simp only [allocationSpan, Span.stop_eq]
    omega

end BumpHeap

/-- The kernel allocator with the allocations its callers hold. -/
structure FixedSizeBlockHeap (H : Type) where
  allocator : FixedSizeBlockAllocator H
  live : List (Nat × Layout)

namespace FixedSizeBlockHeap

open FixedSizeBlockAllocator Transition

variable (fallback : FallbackHeap H)

/-- One call that returns. A null pointer from `alloc` is a failed allocation. -/
inductive Step : FixedSizeBlockHeap H → AllocatorCall → FixedSizeBlockHeap H → Prop where
  | alloc {heap : FixedSizeBlockHeap H} {layout : Layout} {next : FixedSizeBlockAllocator H}
      {ptr : Nat} :
      alloc fallback heap.allocator layout = (next, ptr) →
      Step heap (.alloc layout) ⟨next, if ptr = 0 then heap.live else (ptr, layout) :: heap.live⟩
  | dealloc {heap : FixedSizeBlockHeap H} {ptr : Nat} {layout : Layout}
      {next : FixedSizeBlockAllocator H} :
      (ptr, layout) ∈ heap.live → dealloc fallback heap.allocator ptr layout = .ok next →
      Step heap (.dealloc ptr layout) ⟨next, heap.live.erase (ptr, layout)⟩

/-- The state right after `init(heap_start, heap_size)` on `FixedSizeBlockAllocator::new()`. -/
def Initial (heapStart heapSize : Nat) (heap : FixedSizeBlockHeap H) : Prop :=
  heap.allocator = (FixedSizeBlockAllocator.new fallback).init fallback heapStart heapSize ∧
    heap.live = []

/-- The kernel's heap right after `init_heap`, over the bump fallback. -/
def bootHeap : FixedSizeBlockHeap BumpHeap :=
  ⟨(FixedSizeBlockAllocator.new bumpHeap).init bumpHeap Allocator.heapStart Allocator.heapSize, []⟩

theorem initial_bootHeap : Initial bumpHeap Allocator.heapStart Allocator.heapSize bootHeap :=
  ⟨rfl, rfl⟩

/-- The call as a function, for replaying a concrete run: `none` when a `dealloc` frees
what is not live or panics. -/
def perform (heap : FixedSizeBlockHeap H) : AllocatorCall → Option (FixedSizeBlockHeap H)
  | .alloc layout =>
      match alloc fallback heap.allocator layout with
      | (next, ptr) => some ⟨next, if ptr = 0 then heap.live else (ptr, layout) :: heap.live⟩
  | .dealloc ptr layout =>
      if (ptr, layout) ∈ heap.live then
        match dealloc fallback heap.allocator ptr layout with
        | .ok next => some ⟨next, heap.live.erase (ptr, layout)⟩
        | .error _ => none
      else none

theorem step_of_perform (heap : FixedSizeBlockHeap H) (call : AllocatorCall)
    (next : FixedSizeBlockHeap H) (performed : perform fallback heap call = some next) :
    Step fallback heap call next := by
  cases call with
  | alloc layout =>
      simp only [perform, Option.some.injEq] at performed
      subst performed
      exact Step.alloc rfl
  | dealloc ptr layout =>
      simp only [perform] at performed
      split at performed
      · rename_i isLive
        split at performed
        · rename_i allocator returned
          cases performed
          exact Step.dealloc isLive returned
        · cases performed
      · cases performed

/-- The free blocks of one list, each with the block layout of its size class. -/
def freeSegment (listHeads : Fin blockSizes.length → List Nat) (index : Fin blockSizes.length) :
    List (Nat × Layout) :=
  (listHeads index).map fun node => (node, blockLayout index)

/-- The blocks on all free lists. -/
def freeBlocks (allocator : FixedSizeBlockAllocator H) : List (Nat × Layout) :=
  (List.finRange blockSizes.length).flatMap (freeSegment allocator.listHeads)

/-- The block behind a live allocation: the whole block of its size class, or the
allocation itself when it is too large for every class. -/
def liveBlock (allocation : Nat × Layout) : Nat × Layout :=
  match listIndex allocation.2 with
  | some index => (allocation.1, blockLayout index)
  | none => allocation

/-- The blocks the allocator owns are what the fallback has handed out and not had back. -/
def Invariant (heapStart heapSize : Nat) (heap : FixedSizeBlockHeap H) : Prop :=
  ∃ outstanding, fallback.Reachable heapStart heapSize heap.allocator.fallbackAllocator outstanding ∧
    outstanding.Perm (freeBlocks heap.allocator ++ heap.live.map liveBlock)

private theorem flatMap_finRange_extract {β : Type} {n : Nat} (segments : Fin n → List β)
    (index : Fin n) :
    ((List.finRange n).flatMap segments).Perm
      (segments index ++ (List.finRange n).flatMap (Function.update segments index [])) := by
  rcases List.append_of_mem (List.mem_finRange index) with ⟨before, after, split⟩
  have distinct := List.nodup_finRange n
  rw [split, List.nodup_append] at distinct
  have notBefore : index ∉ before := fun indexMem =>
    distinct.2.2 index indexMem index List.mem_cons_self rfl
  have notAfter : index ∉ after := (List.nodup_cons.mp distinct.2.1).1
  have unchanged : ∀ others : List (Fin n), index ∉ others →
      others.flatMap (Function.update segments index []) = others.flatMap segments := by
    intro others notIn
    apply List.flatMap_congr
    intro other otherMem
    have differs : other ≠ index := by
      rintro rfl
      exact notIn otherMem
    rw [Function.update_of_ne differs]
  rw [split, List.flatMap_append, List.flatMap_cons, List.flatMap_append, List.flatMap_cons,
    unchanged before notBefore, unchanged after notAfter, Function.update_self,
    List.nil_append]
  exact List.perm_append_comm_assoc _ _ _

theorem freeBlocks_update (allocator : FixedSizeBlockAllocator H) (index : Fin blockSizes.length)
    (nodes : List Nat) :
    (freeBlocks { allocator with listHeads := Function.update allocator.listHeads index nodes }).Perm
      ((nodes.map fun node => (node, blockLayout index)) ++
        (List.finRange blockSizes.length).flatMap
          (Function.update (freeSegment allocator.listHeads) index [])) := by
  have segments : freeSegment (Function.update allocator.listHeads index nodes) =
      Function.update (freeSegment allocator.listHeads) index
        (nodes.map fun node => (node, blockLayout index)) := by
    funext other
    by_cases same : other = index
    · subst same
      simp [freeSegment]
    · simp [freeSegment, Function.update_of_ne same]
  simp only [freeBlocks, segments]
  apply (flatMap_finRange_extract _ index).trans
  simp [Function.update_idem]

theorem freeBlocks_perm (allocator : FixedSizeBlockAllocator H) (index : Fin blockSizes.length) :
    (freeBlocks allocator).Perm
      (freeSegment allocator.listHeads index ++
        (List.finRange blockSizes.length).flatMap
          (Function.update (freeSegment allocator.listHeads) index [])) :=
  flatMap_finRange_extract _ index

variable {fallback} {heapStart heapSize : Nat}

theorem liveBlock_of_listIndex {ptr : Nat} {layout : Layout} {index : Fin blockSizes.length}
    (chosen : listIndex layout = some index) :
    liveBlock (ptr, layout) = (ptr, blockLayout index) := by
  simp [liveBlock, chosen]

theorem liveBlock_of_large {ptr : Nat} {layout : Layout} (large : listIndex layout = none) :
    liveBlock (ptr, layout) = (ptr, layout) := by
  simp [liveBlock, large]

theorem freeBlocks_of_listHeads {allocator other : FixedSizeBlockAllocator H}
    (sameHeads : other.listHeads = allocator.listHeads) :
    freeBlocks other = freeBlocks allocator := by
  simp [freeBlocks, sameHeads]

/-- A request the fallback serves adds its allocation both to what the fallback handed out
and, when it succeeds, to the live allocations. -/
theorem invariant_fallbackAlloc (sound : fallback.Sound heapStart heapSize)
    {heap : FixedSizeBlockHeap H} {layout request : Layout} {next : FixedSizeBlockAllocator H}
    {ptr : Nat} (invariant : Invariant fallback heapStart heapSize heap)
    (served : ∀ pointer, liveBlock (pointer, layout) = (pointer, request))
    (returned : fallbackAlloc fallback heap.allocator request = (next, ptr)) :
    Invariant fallback heapStart heapSize
      ⟨next, if ptr = 0 then heap.live else (ptr, layout) :: heap.live⟩ := by
  rcases invariant with ⟨outstanding, reachable, owned⟩
  rcases fallbackAlloc_eq fallback returned with ⟨sameHeads, result, allocated, rfl⟩
  have sameFree := freeBlocks_of_listHeads sameHeads
  cases result with
  | none =>
      refine ⟨outstanding, reachable.allocateFailed allocated, ?_⟩
      simpa [sameFree] using owned
  | some pointer =>
      have nonNull := (sound.allocate _ _ _ _ _ reachable allocated).1
      refine ⟨(pointer, request) :: outstanding, reachable.allocate allocated, ?_⟩
      simp only [Option.getD_some, Nat.pos_iff_ne_zero.mp nonNull, if_false, List.map_cons,
        served, sameFree]
      exact (owned.cons _).trans List.perm_middle.symm

theorem invariant_alloc (sound : fallback.Sound heapStart heapSize)
    {heap : FixedSizeBlockHeap H} {layout : Layout} {next : FixedSizeBlockAllocator H}
    {ptr : Nat} (invariant : Invariant fallback heapStart heapSize heap)
    (returned : alloc fallback heap.allocator layout = (next, ptr)) :
    Invariant fallback heapStart heapSize
      ⟨next, if ptr = 0 then heap.live else (ptr, layout) :: heap.live⟩ := by
  rcases alloc_cases fallback heap.allocator layout with
    ⟨index, node, rest, chosen, heads, popped⟩ | ⟨index, chosen, -, fresh⟩ | ⟨large, fresh⟩
  · rw [popped, Prod.mk.injEq] at returned
    rcases returned with ⟨rfl, rfl⟩
    rcases invariant with ⟨outstanding, reachable, owned⟩
    have before := freeBlocks_perm heap.allocator index
    have after := freeBlocks_update heap.allocator index rest
    simp only [freeSegment, heads, List.map_cons] at before
    have nodeMem : (node, blockLayout index) ∈ outstanding :=
      owned.symm.subset (List.mem_append_left _ (before.symm.subset List.mem_cons_self))
    have nonNull : node ≠ 0 := (Nat.pos_iff_ne_zero.mp ((sound.outstanding reachable).2 _ nodeMem).1)
    refine ⟨outstanding, reachable, ?_⟩
    simp only [nonNull, if_false, List.map_cons, liveBlock_of_listIndex chosen]
    refine owned.trans ((before.append_right _).trans (List.Perm.trans ?_
      (after.symm.append_right _)))
    rw [List.cons_append, List.cons_append]
    exact List.perm_middle.symm
  · rw [fresh] at returned
    exact invariant_fallbackAlloc sound invariant
      (fun pointer => liveBlock_of_listIndex chosen) returned
  · rw [fresh] at returned
    exact invariant_fallbackAlloc sound invariant
      (fun pointer => liveBlock_of_large large) returned

theorem invariant_dealloc (sound : fallback.Sound heapStart heapSize)
    {heap : FixedSizeBlockHeap H} {ptr : Nat} {layout : Layout}
    {next : FixedSizeBlockAllocator H} (invariant : Invariant fallback heapStart heapSize heap)
    (isLive : (ptr, layout) ∈ heap.live)
    (returned : dealloc fallback heap.allocator ptr layout = .ok next) :
    Invariant fallback heapStart heapSize ⟨next, heap.live.erase (ptr, layout)⟩ := by
  rcases invariant with ⟨outstanding, reachable, owned⟩
  have livePerm := (List.perm_cons_erase isLive).map liveBlock
  rw [List.map_cons] at livePerm
  cases chosen : listIndex layout with
  | some index =>
      rw [dealloc_of_listIndex fallback chosen, Except.ok.injEq] at returned
      subst returned
      refine ⟨outstanding, reachable, ?_⟩
      have before := freeBlocks_perm heap.allocator index
      have after := freeBlocks_update heap.allocator index (ptr :: heap.allocator.listHeads index)
      rw [liveBlock_of_listIndex chosen] at livePerm
      refine owned.trans ((before.append livePerm).trans (List.Perm.trans ?_
        (after.symm.append_right _)))
      simp only [freeSegment, List.map_cons, List.cons_append]
      exact List.perm_middle
  | none =>
      rw [liveBlock_of_large chosen] at livePerm
      have blockMem : (ptr, layout) ∈ outstanding :=
        owned.symm.subset (List.mem_append_right _ (livePerm.symm.subset List.mem_cons_self))
      have nonNull : ptr ≠ 0 :=
        Nat.pos_iff_ne_zero.mp ((sound.outstanding reachable).2 _ blockMem).1
      rw [dealloc_of_large fallback chosen nonNull, Except.ok.injEq] at returned
      subst returned
      refine ⟨outstanding.erase (ptr, layout), reachable.deallocate blockMem, ?_⟩
      have split : outstanding.Perm ((ptr, layout) ::
          (freeBlocks heap.allocator ++ (heap.live.erase (ptr, layout)).map liveBlock)) :=
        owned.trans ((List.Perm.append_left _ livePerm).trans List.perm_middle)
      exact List.Perm.cons_inv ((List.perm_cons_erase blockMem).symm.trans split)

theorem invariant_step (sound : fallback.Sound heapStart heapSize)
    {heap next : FixedSizeBlockHeap H} {call : AllocatorCall}
    (invariant : Invariant fallback heapStart heapSize heap) (step : Step fallback heap call next) :
    Invariant fallback heapStart heapSize next := by
  cases step with
  | alloc returned => exact invariant_alloc sound invariant returned
  | dealloc isLive returned => exact invariant_dealloc sound invariant isLive returned

theorem invariant_of_reachable (sound : fallback.Sound heapStart heapSize)
    {heap : FixedSizeBlockHeap H}
    (reachable : Reachable (Initial fallback heapStart heapSize) (Step fallback) heap) :
    Invariant fallback heapStart heapSize heap := by
  apply reachable.invariant
  · rintro start ⟨initialised, noLive⟩
    refine ⟨[], ?_, ?_⟩
    · rw [initialised]
      exact FallbackHeap.Reachable.init
    · simp [initialised, noLive, freeBlocks, freeSegment, FixedSizeBlockAllocator.init,
        FixedSizeBlockAllocator.new]
  · intro state call next invariant step
    exact invariant_step sound invariant step

theorem mem_freeBlocks {allocator : FixedSizeBlockAllocator H} {index : Fin blockSizes.length}
    {node : Nat} (nodeMem : node ∈ allocator.listHeads index) :
    (node, blockLayout index) ∈ freeBlocks allocator := by
  simp only [freeBlocks, List.mem_flatMap, List.mem_finRange, true_and, freeSegment, List.mem_map]
  exact ⟨index, node, nodeMem, rfl⟩

theorem within_liveBlock (allocation : Nat × Layout) :
    (allocationSpan allocation).Within (allocationSpan (liveBlock allocation)) := by
  rcases allocation with ⟨ptr, layout⟩
  cases chosen : listIndex layout with
  | some index =>
      have fits := listIndex_eq_some chosen
      rw [liveBlock_of_listIndex chosen, Span.within_iff]
      simp only [allocationSpan, blockLayout]
      omega
  | none =>
      rw [liveBlock_of_large chosen, Span.within_iff]
      omega

/-- Under a sound fallback, the blocks the allocator owns are pairwise disjoint, non-null,
aligned to their layout and inside the heap. -/
theorem Invariant.blocks (sound : fallback.Sound heapStart heapSize)
    {heap : FixedSizeBlockHeap H} (invariant : Invariant fallback heapStart heapSize heap) :
    Span.PairwiseDisjoint
        ((freeBlocks heap.allocator ++ heap.live.map liveBlock).map allocationSpan) ∧
      ∀ block ∈ freeBlocks heap.allocator ++ heap.live.map liveBlock,
        0 < block.1 ∧ block.1 % block.2.align = 0 ∧
          (allocationSpan block).Within ⟨heapStart, heapSize⟩ := by
  rcases invariant with ⟨outstanding, reachable, owned⟩
  have handedOut := sound.outstanding reachable
  refine ⟨handedOut.1.perm (owned.map allocationSpan), ?_⟩
  intro block blockMem
  exact handedOut.2 block (owned.symm.subset blockMem)

/-- `list_index` picks the class from the size alone, so an 8-byte request aligned to 32
bytes is served with an 8-byte block aligned only to 8: after one 8-byte allocation from a
fresh heap the fallback hands out the block 16 bytes past the heap start. -/
theorem fixedSizeBlock_overaligned_misplaced :
    bumpHeap.Sound Allocator.heapStart Allocator.heapSize ∧
      ¬ ∀ heap : FixedSizeBlockHeap BumpHeap,
        Reachable (Initial bumpHeap Allocator.heapStart Allocator.heapSize) (Step bumpHeap) heap →
        ∀ layout : Layout, (alloc bumpHeap heap.allocator layout).2 = 0 ∨
          (alloc bumpHeap heap.allocator layout).2 % layout.align = 0 := by
  refine ⟨BumpHeap.sound (by decide), ?_⟩
  intro aligned
  have replayed : (run (perform bumpHeap) bootHeap [.alloc ⟨8, 8, ⟨3, rfl⟩, by decide⟩]).map
        (fun heap => (alloc bumpHeap heap.allocator ⟨8, 32, ⟨5, rfl⟩, by decide⟩).2) =
      some (Allocator.heapStart + 16) := by
    decide
  obtain ⟨heap, final, served⟩ := Option.map_eq_some_iff.mp replayed
  have reachable := reachable_of_run (step_of_perform bumpHeap)
    (Reachable.init initial_bootHeap) final
  have misplaced := aligned heap reachable ⟨8, 32, ⟨5, rfl⟩, by decide⟩
  rw [served] at misplaced
  simp only [Allocator.heapStart] at misplaced
  omega

/-- Under the invariant, every block on free list `i` and every block behind a live
allocation of class `i` is one the fallback handed out with the layout of class `i`. -/
theorem Invariant.classes {heap : FixedSizeBlockHeap H}
    (invariant : Invariant fallback heapStart heapSize heap) :
    ∃ outstanding, fallback.Reachable heapStart heapSize heap.allocator.fallbackAllocator outstanding ∧
      outstanding.Perm (freeBlocks heap.allocator ++ heap.live.map liveBlock) ∧
      (∀ index, ∀ node ∈ heap.allocator.listHeads index, (node, blockLayout index) ∈ outstanding) ∧
      ∀ allocation ∈ heap.live, ∀ index, listIndex allocation.2 = some index →
        (allocation.1, blockLayout index) ∈ outstanding := by
  rcases invariant with ⟨outstanding, reachable, owned⟩
  refine ⟨outstanding, reachable, owned, ?_, ?_⟩
  · intro index node nodeMem
    exact owned.symm.subset (List.mem_append_left _ (mem_freeBlocks nodeMem))
  · rintro ⟨ptr, layout⟩ allocationMem index chosen
    have blockMem : liveBlock (ptr, layout) ∈ heap.live.map liveBlock :=
      List.mem_map_of_mem allocationMem
    rw [liveBlock_of_listIndex chosen] at blockMem
    exact owned.symm.subset (List.mem_append_right _ blockMem)

/-- A `dealloc` of an allocation of class `i` pushes its pointer on free list `i` and leaves
the other lists and the fallback heap alone. -/
theorem step_dealloc_of_listIndex {heap next : FixedSizeBlockHeap H} {ptr : Nat}
    {layout : Layout} {index : Fin blockSizes.length} (chosen : listIndex layout = some index)
    (step : Step fallback heap (.dealloc ptr layout) next) :
    next.allocator.listHeads =
        Function.update heap.allocator.listHeads index (ptr :: heap.allocator.listHeads index) ∧
      next.allocator.fallbackAllocator = heap.allocator.fallbackAllocator := by
  cases step with
  | dealloc _ returned =>
      rw [dealloc_of_listIndex fallback chosen, Except.ok.injEq] at returned
      subst returned
      exact ⟨rfl, rfl⟩

/-- Along every run, live allocations are pairwise disjoint; the free blocks are distinct,
each a block of its list's size aligned to that size inside the heap; and no free block
overlaps another or the block behind a live allocation, that block being the block of the
allocation's size class. What the fallback has handed out and not had back is exactly
these blocks, each with the layout it was handed out with: a block on free list `i`, like
the block of a live allocation of class `i`, is a class-`i` block. A `dealloc` of a
class-`i` allocation returns its block to list `i` and to no other list. -/
theorem fixedSizeBlock_no_double_handout (sound : fallback.Sound heapStart heapSize)
    {heap : FixedSizeBlockHeap H}
    (reachable : Reachable (Initial fallback heapStart heapSize) (Step fallback) heap) :
    Span.PairwiseDisjoint (heap.live.map allocationSpan) ∧
      (freeBlocks heap.allocator).Nodup ∧
      Span.PairwiseDisjoint
        ((freeBlocks heap.allocator ++ heap.live.map liveBlock).map allocationSpan) ∧
      (∀ index, ∀ node ∈ heap.allocator.listHeads index,
        node % blockSize index = 0 ∧
          (⟨node, blockSize index⟩ : Span).Within ⟨heapStart, heapSize⟩) ∧
      (∃ outstanding,
        fallback.Reachable heapStart heapSize heap.allocator.fallbackAllocator outstanding ∧
        outstanding.Perm (freeBlocks heap.allocator ++ heap.live.map liveBlock) ∧
        (∀ index, ∀ node ∈ heap.allocator.listHeads index,
          (node, blockLayout index) ∈ outstanding) ∧
        ∀ allocation ∈ heap.live, ∀ index, listIndex allocation.2 = some index →
          (allocation.1, blockLayout index) ∈ outstanding) ∧
      ∀ ptr layout index next, listIndex layout = some index →
        Step fallback heap (.dealloc ptr layout) next →
        next.allocator.listHeads =
            Function.update heap.allocator.listHeads index
              (ptr :: heap.allocator.listHeads index) ∧
          next.allocator.fallbackAllocator = heap.allocator.fallbackAllocator := by
  have invariant := invariant_of_reachable sound reachable
  rcases invariant.blocks sound with ⟨apart, placed⟩
  rw [List.map_append] at apart
  have liveApart : Span.PairwiseDisjoint ((heap.live.map liveBlock).map allocationSpan) :=
    apart.sublist (List.sublist_append_right _ _)
  have freeApart : Span.PairwiseDisjoint ((freeBlocks heap.allocator).map allocationSpan) :=
    apart.sublist (List.sublist_append_left _ _)
  refine ⟨?_, ?_, ?_, ?_, ?_, ?_⟩
  · rw [List.map_map] at liveApart
    exact liveApart.shrink fun allocation _ => within_liveBlock allocation
  · apply freeApart.nodup
    rintro ⟨node, blockLayout'⟩ blockMem
    simp only [freeBlocks, List.mem_flatMap, freeSegment, List.mem_map, Prod.mk.injEq] at blockMem
    rcases blockMem with ⟨index, -, node', -, -, rfl⟩
    have large := listNode_fits_block index
    simp only [allocationSpan, blockLayout]
    omega
  · rw [List.map_append]
    exact apart
  · intro index node nodeMem
    exact (placed _ (List.mem_append_left _ (mem_freeBlocks nodeMem))).2
  · exact invariant.classes
  · intro ptr layout index next chosen step
    exact step_dealloc_of_listIndex chosen step

/-- Two 8-byte allocations on a fresh heap, then the first one freed: its block is back on
list 0, and it is the class-0 block the fallback handed out. -/
theorem fixedSizeBlock_no_double_handout_after_free :
    bumpHeap.Sound Allocator.heapStart Allocator.heapSize ∧
      ∃ heap, run (perform bumpHeap) bootHeap [.alloc ⟨8, 8, ⟨3, rfl⟩, by decide⟩,
          .alloc ⟨8, 8, ⟨3, rfl⟩, by decide⟩,
          .dealloc Allocator.heapStart ⟨8, 8, ⟨3, rfl⟩, by decide⟩] = some heap ∧
        heap.allocator.listHeads ⟨0, by decide⟩ = [Allocator.heapStart] ∧
        ∃ outstanding, bumpHeap.Reachable Allocator.heapStart Allocator.heapSize
            heap.allocator.fallbackAllocator outstanding ∧
          (Allocator.heapStart, blockLayout ⟨0, by decide⟩) ∈ outstanding := by
  have sound : bumpHeap.Sound Allocator.heapStart Allocator.heapSize :=
    BumpHeap.sound (by decide)
  have heads : (run (perform bumpHeap) bootHeap [.alloc ⟨8, 8, ⟨3, rfl⟩, by decide⟩,
      .alloc ⟨8, 8, ⟨3, rfl⟩, by decide⟩,
      .dealloc Allocator.heapStart ⟨8, 8, ⟨3, rfl⟩, by decide⟩]).map
        (fun heap => heap.allocator.listHeads ⟨0, by decide⟩) = some [Allocator.heapStart] := by
    decide
  obtain ⟨heap, final, listed⟩ := Option.map_eq_some_iff.mp heads
  have reachable := reachable_of_run (step_of_perform bumpHeap)
    (Reachable.init initial_bootHeap) final
  obtain ⟨outstanding, fallbackReachable, -, onList, -⟩ :=
    (fixedSizeBlock_no_double_handout sound reachable).2.2.2.2.1
  refine ⟨sound, heap, final, listed, outstanding, fallbackReachable, ?_⟩
  exact onList _ _ (by rw [listed]; exact List.mem_cons_self)

end FixedSizeBlockHeap

end OsByRust
