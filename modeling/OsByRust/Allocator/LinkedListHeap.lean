import OsByRust.Allocator.LinkedList
import OsByRust.Lib.Transition
import Mathlib

/-!
# Runs of the linked-list allocator

A caller of `Locked<LinkedListAllocator>` initialises it on a heap and then calls `alloc`
and `dealloc` in any order, each `dealloc` giving back a pointer that an `alloc` returned
and that was not given back yet, with the layout it was allocated with. `LinkedListHeap`
is the allocator together with those live allocations, and `Step` is one call. A null
pointer returned by `alloc` is a failed allocation and is not live.

The state also counts, as `skipped`, the bytes that allocations stepped over: `alloc`
starts an allocation at `align_up(region.start_addr(), align)` and gives back to the list
only the tail after `alloc_end`, so the bytes between the start of the chosen region and
the start of the allocation leave the free list for good. The count is not a variable of
the source; it only serves to state where the heap's bytes are.

`Invariant` is what every call keeps true: the free regions and the live allocations are
pairwise disjoint and inside the heap, every free region starts at an address aligned for
a `ListNode` and can hold one, and every live pointer is aligned to the alignment
`size_align` computed for its layout.
-/

namespace OsByRust

open LinkedListAllocator Transition

/-- The bytes `alloc` reserves for `layout`: the first component of `size_align`. -/
def allocationSize (layout : Layout) : Nat :=
  match sizeAlign layout with
  | .ok (size, _) => size
  | .error _ => 0

/-- The addresses of a live allocation `(ptr, layout)` as the allocator reserved them. -/
def liveSpan (allocation : Nat × Layout) : Span := ⟨allocation.1, allocationSize allocation.2⟩

theorem allocationSize_of_sizeAlign {layout : Layout} {size align : Nat}
    (computed : sizeAlign layout = .ok (size, align)) : allocationSize layout = size := by
  simp [allocationSize, computed]

/-- The linked-list allocator with the allocations its callers hold. -/
structure LinkedListHeap where
  allocator : LinkedListAllocator
  live : List (Nat × Layout)
  skipped : Nat

namespace LinkedListHeap

/-- The bytes between the start of the region `alloc` carves `layout` from and the start of
the allocation. -/
def frontPadding (allocator : LinkedListAllocator) (layout : Layout) : Nat :=
  match sizeAlign layout with
  | .ok (size, align) =>
      match findRegion allocator.regions size align with
      | .ok (some (region, allocStart, _)) => allocStart - region.startAddr
      | _ => 0
  | .error _ => 0

/-- One call that returns. -/
inductive Step : LinkedListHeap → AllocatorCall → LinkedListHeap → Prop where
  | alloc {heap : LinkedListHeap} {layout : Layout} {next : LinkedListAllocator} {ptr : Nat} :
      heap.allocator.alloc layout = .ok (next, ptr) →
      Step heap (.alloc layout)
        ⟨next, if ptr = 0 then heap.live else (ptr, layout) :: heap.live,
          heap.skipped + frontPadding heap.allocator layout⟩
  | dealloc {heap : LinkedListHeap} {ptr : Nat} {layout : Layout} {next : LinkedListAllocator} :
      (ptr, layout) ∈ heap.live → heap.allocator.dealloc ptr layout = .ok next →
      Step heap (.dealloc ptr layout) ⟨next, heap.live.erase (ptr, layout), heap.skipped⟩

/-- The state right after `init(heap_start, heap_size)` on a new allocator. -/
def Initial (heapStart heapSize : Nat) (heap : LinkedListHeap) : Prop :=
  LinkedListAllocator.new.init heapStart heapSize = .ok heap.allocator ∧ heap.live = [] ∧
    heap.skipped = 0

/-- The heap as a range of addresses. -/
def heapSpan (heapStart heapSize : Nat) : Span := ⟨heapStart, heapSize⟩

/-- The free regions followed by the live allocations. -/
def pieces (heap : LinkedListHeap) : List Span :=
  heap.allocator.regions.map ListNode.span ++ heap.live.map liveSpan

/-- What every call keeps true of the free list and the live allocations. -/
structure Invariant (heapStart heapSize : Nat) (heap : LinkedListHeap) : Prop where
  disjoint : Span.PairwiseDisjoint heap.pieces
  regions_within : ∀ region ∈ heap.allocator.regions,
    region.span.Within (heapSpan heapStart heapSize)
  regions_aligned : ∀ region ∈ heap.allocator.regions, region.startAddr % listNodeAlign = 0
  regions_large : ∀ region ∈ heap.allocator.regions, listNodeSize ≤ region.size
  live_within : ∀ allocation ∈ heap.live, (liveSpan allocation).Within (heapSpan heapStart heapSize)
  live_aligned : ∀ allocation ∈ heap.live, ∃ align,
    sizeAlign allocation.2 = .ok (allocationSize allocation.2, align) ∧
      allocation.1 % align = 0

variable {heapStart heapSize : Nat}

theorem invariant_initial (startAligned : heapStart % listNodeAlign = 0)
    (largeEnough : listNodeSize ≤ heapSize) {heap : LinkedListHeap}
    (initial : Initial heapStart heapSize heap) : Invariant heapStart heapSize heap := by
  rcases initial with ⟨initialised, noLive, -⟩
  have regions : heap.allocator.regions = [⟨heapStart, heapSize⟩] := by
    rcases addFreeRegion_eq_ok initialised with ⟨-, -, regions⟩
    simpa [LinkedListAllocator.new] using regions
  constructor
  · simp [pieces, regions, noLive, Span.PairwiseDisjoint]
  · simp [regions, heapSpan, Span.Within, ListNode.span]
  · simpa [regions] using startAligned
  · simpa [regions] using largeEnough
  · simp [noLive]
  · simp [noLive]

theorem invariant_congr {heap other : LinkedListHeap} (invariant : Invariant heapStart heapSize heap)
    (sameAllocator : other.allocator = heap.allocator) (sameLive : other.live = heap.live) :
    Invariant heapStart heapSize other := by
  rcases other with ⟨allocator, live, skipped⟩
  simp only at sameAllocator sameLive
  subst sameAllocator sameLive
  exact ⟨invariant.1, invariant.2, invariant.3, invariant.4, invariant.5, invariant.6⟩

private theorem pieces_perm_split {before after : List ListNode} {region : ListNode}
    {allocations : List (Nat × Layout)} :
    ((before ++ region :: after).map ListNode.span ++ allocations.map liveSpan).Perm
      (region.span :: ((before ++ after).map ListNode.span ++ allocations.map liveSpan)) := by
  apply List.perm_iff_count.mpr
  intro span
  simp only [List.map_append, List.map_cons, List.count_append, List.count_cons]
  omega

private theorem pieces_perm_carve {tail before after : List ListNode}
    {carved allocations : List (Nat × Layout)} :
    ((tail ++ (before ++ after)).map ListNode.span ++ (carved ++ allocations).map liveSpan).Perm
      ((tail.map ListNode.span ++ carved.map liveSpan) ++
        ((before ++ after).map ListNode.span ++ allocations.map liveSpan)) := by
  apply List.perm_iff_count.mpr
  intro span
  simp only [List.map_append, List.count_append]
  omega

/-- The chosen region is cut into the allocation and, when it is not empty, the tail that goes
back on the list: both lie inside the region, and apart. -/
private theorem carve_pieces {region : ListNode} {layout : Layout}
    {allocStart size excessSize : Nat} (sized : allocationSize layout = size)
    (startLe : region.startAddr ≤ allocStart)
    (fits : allocStart + size ≤ region.startAddr + region.size)
    (excessEq : excessSize = region.startAddr + region.size - (allocStart + size)) :
    let tail : List ListNode := if 0 < excessSize then [⟨allocStart + size, excessSize⟩] else []
    let carved : List (Nat × Layout) := if allocStart = 0 then [] else [(allocStart, layout)]
    (∀ node ∈ tail, node.span.Within region.span) ∧
      (∀ allocation ∈ carved, (liveSpan allocation).Within region.span) ∧
      Span.PairwiseDisjoint (tail.map ListNode.span ++ carved.map liveSpan) := by
  dsimp only
  refine ⟨?_, ?_, ?_⟩
  · intro node nodeMem
    split_ifs at nodeMem with excess
    · simp only [List.mem_singleton] at nodeMem
      subst nodeMem
      simp only [Span.Within, ListNode.span, Span.stop_eq]
      omega
    · simp at nodeMem
  · intro allocation allocationMem
    split_ifs at allocationMem with isNull
    · simp at allocationMem
    · simp only [List.mem_singleton] at allocationMem
      subst allocationMem
      simp only [Span.Within, liveSpan, sized, ListNode.span, Span.stop_eq]
      omega
  · split_ifs <;> simp [Span.PairwiseDisjoint, Span.disjoint_iff, liveSpan, sized,
      ListNode.span]

theorem invariant_alloc {heap : LinkedListHeap} {layout : Layout} {next : LinkedListAllocator}
    {ptr : Nat} (invariant : Invariant heapStart heapSize heap)
    (returned : heap.allocator.alloc layout = .ok (next, ptr)) :
    Invariant heapStart heapSize
      ⟨next, if ptr = 0 then heap.live else (ptr, layout) :: heap.live,
        heap.skipped + frontPadding heap.allocator layout⟩ := by
  rcases alloc_eq_ok returned with
    ⟨size, align, computed, ⟨-, rfl, rfl⟩ | ⟨region, remaining, found, regions⟩⟩
  · exact invariant_congr invariant rfl (by simp)
  rcases findRegion_eq_some found with ⟨before, after, split, rfl, accepted, -⟩
  rcases allocFromRegion_eq_some accepted with ⟨positive, rfl, fits, -, tailFits⟩
  have regionMem : region ∈ heap.allocator.regions := by simp [split]
  have regionWithin := invariant.regions_within region regionMem
  have startLe : region.startAddr ≤ roundUp region.startAddr align := le_roundUp
  have sized : allocationSize layout = size := allocationSize_of_sizeAlign computed
  set allocStart := roundUp region.startAddr align with allocStartEq
  set excessSize := region.startAddr + region.size - (allocStart + size) with excessEq
  set tail : List ListNode := if 0 < excessSize then [⟨allocStart + size, excessSize⟩] else []
    with tailEq
  set carved : List (Nat × Layout) := if allocStart = 0 then [] else [(allocStart, layout)]
    with carvedEq
  have tailRegions : next.regions = tail ++ (before ++ after) := regions
  have newLive : (if allocStart = 0 then heap.live else (allocStart, layout) :: heap.live) =
      carved ++ heap.live := by
    by_cases isNull : allocStart = 0 <;> simp [carvedEq, isNull]
  obtain ⟨tailWithin, carvedWithin, newPieces⟩ := carve_pieces sized startLe fits excessEq
  have keptMem : ∀ node ∈ before ++ after, node ∈ heap.allocator.regions := by
    intro node nodeMem
    simp only [List.mem_append] at nodeMem
    simp only [split, List.mem_append, List.mem_cons]
    tauto
  have startAligned : allocStart % listNodeAlign = 0 :=
    Nat.mod_eq_zero_of_dvd (Nat.dvd_trans (sizeAlign_dvd_align computed).1
      (Nat.dvd_of_mod_eq_zero (roundUp_mod region.startAddr positive)))
  have nextRegion : ∀ node ∈ next.regions,
      (node = ⟨allocStart + size, excessSize⟩ ∧ 0 < excessSize) ∨ node ∈ heap.allocator.regions := by
    intro node nodeMem
    rw [tailRegions, List.mem_append] at nodeMem
    rcases nodeMem with inTail | kept
    · simp only [tailEq] at inTail
      split_ifs at inTail with excess
      · exact Or.inl ⟨List.mem_singleton.mp inTail, excess⟩
      · simp at inTail
    · exact Or.inr (keptMem node kept)
  have nextLive : ∀ allocation ∈ carved ++ heap.live,
      (allocation = (allocStart, layout)) ∨ allocation ∈ heap.live := by
    intro allocation allocationMem
    rw [List.mem_append] at allocationMem
    rcases allocationMem with inCarved | kept
    · simp only [carvedEq] at inCarved
      split_ifs at inCarved
      · simp at inCarved
      · exact Or.inl (List.mem_singleton.mp inCarved)
    · exact Or.inr kept
  constructor
  · show Span.PairwiseDisjoint (next.regions.map ListNode.span ++
        (if allocStart = 0 then heap.live else (allocStart, layout) :: heap.live).map liveSpan)
    rw [tailRegions, newLive]
    apply Span.PairwiseDisjoint.perm pieces_perm_carve.symm
    have oldPieces := invariant.disjoint
    simp only [pieces, split] at oldPieces
    refine Span.PairwiseDisjoint.replace (oldPieces.perm pieces_perm_split) ?_ newPieces
    intro piece pieceMem
    simp only [List.mem_append, List.mem_map] at pieceMem
    rcases pieceMem with ⟨node, nodeMem, rfl⟩ | ⟨allocation, allocationMem, rfl⟩
    · exact tailWithin node nodeMem
    · exact carvedWithin allocation allocationMem
  · intro node nodeMem
    rcases nextRegion node nodeMem with ⟨rfl, excess⟩ | kept
    · exact (tailWithin _ (by simp [excess])).trans regionWithin
    · exact invariant.regions_within node kept
  · intro node nodeMem
    rcases nextRegion node nodeMem with ⟨rfl, -⟩ | kept
    · show (allocStart + size) % listNodeAlign = 0
      rw [Nat.add_mod, startAligned, (sizeAlign_size computed).1]
      rfl
    · exact invariant.regions_aligned node kept
  · intro node nodeMem
    rcases nextRegion node nodeMem with ⟨rfl, excess⟩ | kept
    · show listNodeSize ≤ excessSize
      omega
    · exact invariant.regions_large node kept
  · intro allocation allocationMem
    rw [newLive] at allocationMem
    rcases nextLive allocation allocationMem with rfl | kept
    · apply Span.Within.trans _ regionWithin
      simp only [Span.Within, liveSpan, sized, ListNode.span, Span.stop_eq]
      omega
    · exact invariant.live_within allocation kept
  · intro allocation allocationMem
    rw [newLive] at allocationMem
    rcases nextLive allocation allocationMem with rfl | kept
    · exact ⟨align, by rw [sized]; exact computed, roundUp_mod region.startAddr positive⟩
    · exact invariant.live_aligned allocation kept

theorem invariant_dealloc {heap : LinkedListHeap} {ptr : Nat} {layout : Layout}
    {next : LinkedListAllocator} (invariant : Invariant heapStart heapSize heap)
    (isLive : (ptr, layout) ∈ heap.live)
    (returned : heap.allocator.dealloc ptr layout = .ok next) :
    Invariant heapStart heapSize ⟨next, heap.live.erase (ptr, layout), heap.skipped⟩ := by
  rcases invariant.live_aligned _ isLive with ⟨align, computed, aligned⟩
  rw [dealloc_eq computed] at returned
  rcases addFreeRegion_eq_ok returned with ⟨ptrAligned, large, regions⟩
  have livePerm : heap.live.Perm ((ptr, layout) :: heap.live.erase (ptr, layout)) :=
    List.perm_cons_erase isLive
  have erasedMem : ∀ allocation ∈ heap.live.erase (ptr, layout), allocation ∈ heap.live :=
    fun _ allocationMem => List.mem_of_mem_erase allocationMem
  have freedSpan : (⟨ptr, allocationSize layout⟩ : ListNode).span = liveSpan (ptr, layout) := rfl
  have nextRegion : ∀ node ∈ next.regions,
      node = ⟨ptr, allocationSize layout⟩ ∨ node ∈ heap.allocator.regions := by
    intro node nodeMem
    rw [regions, List.mem_cons] at nodeMem
    exact nodeMem
  constructor
  · apply invariant.disjoint.perm
    apply List.perm_iff_count.mpr
    intro span
    have liveCount := (livePerm.map liveSpan).count_eq span
    simp only [pieces, regions, List.map_cons, List.count_append,
      List.count_cons, freedSpan] at liveCount ⊢
    omega
  · intro node nodeMem
    rcases nextRegion node nodeMem with rfl | kept
    · exact invariant.live_within _ isLive
    · exact invariant.regions_within node kept
  · intro node nodeMem
    rcases nextRegion node nodeMem with rfl | kept
    · exact ptrAligned
    · exact invariant.regions_aligned node kept
  · intro node nodeMem
    rcases nextRegion node nodeMem with rfl | kept
    · exact large
    · exact invariant.regions_large node kept
  · intro allocation allocationMem
    exact invariant.live_within allocation (erasedMem allocation allocationMem)
  · intro allocation allocationMem
    exact invariant.live_aligned allocation (erasedMem allocation allocationMem)

theorem invariant_step {heap next : LinkedListHeap} {call : AllocatorCall}
    (invariant : Invariant heapStart heapSize heap) (step : Step heap call next) :
    Invariant heapStart heapSize next := by
  cases step with
  | alloc returned => exact invariant_alloc invariant returned
  | dealloc isLive returned => exact invariant_dealloc invariant isLive returned

theorem invariant_of_reachable (startAligned : heapStart % listNodeAlign = 0)
    (largeEnough : listNodeSize ≤ heapSize) {heap : LinkedListHeap}
    (reachable : Reachable (Initial heapStart heapSize) Step heap) :
    Invariant heapStart heapSize heap :=
  reachable.invariant (fun _ initial => invariant_initial startAligned largeEnough initial)
    (fun _ _ _ invariant step => invariant_step invariant step)

/-- `Step` as a function, `none` where the call panics or frees a pointer that is not live. -/
def perform : LinkedListHeap → AllocatorCall → Option LinkedListHeap
  | heap, .alloc layout =>
      match heap.allocator.alloc layout with
      | .ok (next, ptr) =>
          some ⟨next, if ptr = 0 then heap.live else (ptr, layout) :: heap.live,
            heap.skipped + frontPadding heap.allocator layout⟩
      | .error _ => none
  | heap, .dealloc ptr layout =>
      if heap.live.contains (ptr, layout) then
        match heap.allocator.dealloc ptr layout with
        | .ok next => some ⟨next, heap.live.erase (ptr, layout), heap.skipped⟩
        | .error _ => none
      else none

theorem step_of_perform (heap : LinkedListHeap) (call : AllocatorCall) (next : LinkedListHeap)
    (performed : heap.perform call = some next) : Step heap call next := by
  cases call with
  | alloc layout =>
      simp only [perform] at performed
      split at performed
      · rename_i allocator ptr returned
        cases performed
        exact Step.alloc returned
      · cases performed
  | dealloc ptr layout =>
      simp only [perform] at performed
      split at performed
      · rename_i isLive
        split at performed
        · rename_i allocator returned
          cases performed
          exact Step.dealloc (List.contains_iff_mem.mp isLive) returned
        · cases performed
      · cases performed

/-- The kernel's heap right after `init_heap`. -/
def bootHeap : LinkedListHeap := ⟨⟨[⟨Allocator.heapStart, Allocator.heapSize⟩]⟩, [], 0⟩

theorem initial_bootHeap : Initial Allocator.heapStart Allocator.heapSize bootHeap :=
  ⟨rfl, rfl, rfl⟩

/-- The free list of the linked-list allocator is sound over every run: its regions are
pairwise disjoint, inside the heap, aligned and large enough for a `ListNode`, and overlap
no live allocation; every pointer `alloc` returns is aligned as asked; `alloc` never fails
an assertion of `add_free_region`, and `dealloc` of a live allocation always returns. -/
theorem linkedList_free_list_sound {heapStart heapSize : Nat}
    (startAligned : heapStart % listNodeAlign = 0) (largeEnough : listNodeSize ≤ heapSize)
    {heap : LinkedListHeap} (reachable : Reachable (Initial heapStart heapSize) Step heap) :
    Span.PairwiseDisjoint (heap.allocator.regions.map ListNode.span) ∧
    (∀ region ∈ heap.allocator.regions,
      region.span.Within (heapSpan heapStart heapSize) ∧
      region.startAddr % listNodeAlign = 0 ∧ listNodeSize ≤ region.size ∧
      ∀ allocation ∈ heap.live, region.span.Disjoint (liveSpan allocation)) ∧
    (∀ layout next ptr, heap.allocator.alloc layout = .ok (next, ptr) →
      ptr % layout.align = 0) ∧
    (∀ layout reason, heap.allocator.alloc layout = .error reason →
      reason ≠ .freeRegionMisaligned ∧ reason ≠ .freeRegionTooSmall) ∧
    (∀ allocation ∈ heap.live, ∃ next,
      heap.allocator.dealloc allocation.1 allocation.2 = .ok next) := by
  have invariant := invariant_of_reachable startAligned largeEnough reachable
  have split := List.pairwise_append.mp invariant.disjoint
  refine ⟨split.1, ?_, fun _ _ _ returned => alloc_aligned returned, ?_, ?_⟩
  · intro region regionMem
    refine ⟨invariant.regions_within region regionMem,
      invariant.regions_aligned region regionMem, invariant.regions_large region regionMem, ?_⟩
    intro allocation allocationMem
    exact split.2.2 _ (List.mem_map_of_mem regionMem) _ (List.mem_map_of_mem allocationMem)
  · intro layout reason failed
    rcases alloc_eq_error failed with rfl | rfl <;> simp
  · intro allocation allocationMem
    rcases invariant.live_aligned allocation allocationMem with ⟨align, computed, aligned⟩
    rcases sizeAlign_size computed with ⟨sizeAligned, large⟩
    have ptrAligned : allocation.1 % listNodeAlign = 0 :=
      Nat.mod_eq_zero_of_dvd (Nat.dvd_trans (sizeAlign_dvd_align computed).1
        (Nat.dvd_of_mod_eq_zero aligned))
    exact ⟨_, (dealloc_eq computed).trans (addFreeRegion_of_aligned ptrAligned large)⟩

/-- The kernel's heap after a 24-byte allocation, a 16-byte allocation aligned to 16 and the
free of the first: two free regions, apart, and the allocation left can be freed. -/
theorem linkedList_free_list_sound_after_free :
    Allocator.heapStart % listNodeAlign = 0 ∧ listNodeSize ≤ Allocator.heapSize ∧
      ∃ heap, Reachable (Initial Allocator.heapStart Allocator.heapSize) Step heap ∧
        heap.allocator.regions = [⟨Allocator.heapStart, 24⟩,
          ⟨Allocator.heapStart + 48, Allocator.heapSize - 48⟩] ∧
        Span.PairwiseDisjoint (heap.allocator.regions.map ListNode.span) ∧
        ∀ allocation ∈ heap.live, ∃ next,
          heap.allocator.dealloc allocation.1 allocation.2 = .ok next := by
  have startAligned : Allocator.heapStart % listNodeAlign = 0 := by decide
  have largeEnough : listNodeSize ≤ Allocator.heapSize := by decide
  have replayed : (run perform bootHeap [.alloc ⟨24, 8, ⟨3, rfl⟩, by decide⟩,
      .alloc ⟨16, 16, ⟨4, rfl⟩, by decide⟩,
      .dealloc Allocator.heapStart ⟨24, 8, ⟨3, rfl⟩, by decide⟩]).map
        (fun heap => heap.allocator.regions) = some [⟨Allocator.heapStart, 24⟩,
          ⟨Allocator.heapStart + 48, Allocator.heapSize - 48⟩] := by
    decide
  obtain ⟨heap, final, regions⟩ := Option.map_eq_some_iff.mp replayed
  have reachable := reachable_of_run step_of_perform (Reachable.init initial_bootHeap) final
  have sound := linkedList_free_list_sound startAligned largeEnough reachable
  exact ⟨startAligned, largeEnough, heap, reachable, regions, sound.1, sound.2.2.2.2⟩

/-- The bytes on the free list. -/
def freeBytes (heap : LinkedListHeap) : Nat := (heap.allocator.regions.map ListNode.size).sum

/-- The bytes reserved for the live allocations, `size_align(layout).0` for each. -/
def liveBytes (heap : LinkedListHeap) : Nat :=
  (heap.live.map fun allocation => allocationSize allocation.2).sum

theorem frontPadding_of_found {allocator : LinkedListAllocator} {layout : Layout}
    {size align allocStart : Nat} {region : ListNode} {remaining : List ListNode}
    (computed : sizeAlign layout = .ok (size, align))
    (found : findRegion allocator.regions size align = .ok (some (region, allocStart, remaining))) :
    frontPadding allocator layout = allocStart - region.startAddr := by
  simp [frontPadding, computed, found]

theorem frontPadding_of_not_found {allocator : LinkedListAllocator} {layout : Layout}
    {size align : Nat} (computed : sizeAlign layout = .ok (size, align))
    (notFound : findRegion allocator.regions size align = .ok none) :
    frontPadding allocator layout = 0 := by
  simp [frontPadding, computed, notFound]

/-- Where the heap's bytes are: on the free list, in a live allocation, or skipped over. -/
def Accounted (heapSize : Nat) (heap : LinkedListHeap) : Prop :=
  heap.freeBytes + heap.liveBytes + heap.skipped = heapSize

theorem accounted_alloc {heap : LinkedListHeap} {layout : Layout} {next : LinkedListAllocator}
    {ptr : Nat} (positive : 0 < heapStart) (invariant : Invariant heapStart heapSize heap)
    (accounted : Accounted heapSize heap) (returned : heap.allocator.alloc layout = .ok (next, ptr)) :
    Accounted heapSize
      ⟨next, if ptr = 0 then heap.live else (ptr, layout) :: heap.live,
        heap.skipped + frontPadding heap.allocator layout⟩ := by
  rcases alloc_eq_ok returned with
    ⟨size, align, computed, ⟨notFound, rfl, rfl⟩ | ⟨region, remaining, found, regions⟩⟩
  · simpa [Accounted, freeBytes, liveBytes, frontPadding_of_not_found computed notFound]
      using accounted
  rcases findRegion_eq_some found with ⟨before, after, split, rfl, accepted, -⟩
  rcases allocFromRegion_eq_some accepted with ⟨-, rfl, fits, -, -⟩
  have regionWithin := invariant.regions_within region (by simp [split])
  have startLe : region.startAddr ≤ roundUp region.startAddr align := le_roundUp
  have nonNull : roundUp region.startAddr align ≠ 0 := by
    simp only [Span.Within, heapSpan, ListNode.span] at regionWithin
    omega
  have tailBytes : ((if 0 < region.startAddr + region.size - (roundUp region.startAddr align + size)
      then [(⟨roundUp region.startAddr align + size,
        region.startAddr + region.size - (roundUp region.startAddr align + size)⟩ : ListNode)]
      else []).map ListNode.size).sum =
        region.startAddr + region.size - (roundUp region.startAddr align + size) := by
    split_ifs with excess
    · simp
    · simp only [List.map_nil, List.sum_nil]
      omega
  simp only [Accounted, freeBytes, liveBytes, regions, List.map_append, List.sum_append,
    tailBytes, nonNull, if_false, List.map_cons, List.sum_cons,
    allocationSize_of_sizeAlign computed, frontPadding_of_found computed found]
  simp only [Accounted, freeBytes, liveBytes, split, List.map_append, List.map_cons,
    List.sum_append, List.sum_cons] at accounted
  omega

theorem accounted_dealloc {heap : LinkedListHeap} {ptr : Nat} {layout : Layout}
    {next : LinkedListAllocator} (invariant : Invariant heapStart heapSize heap)
    (accounted : Accounted heapSize heap) (isLive : (ptr, layout) ∈ heap.live)
    (returned : heap.allocator.dealloc ptr layout = .ok next) :
    Accounted heapSize ⟨next, heap.live.erase (ptr, layout), heap.skipped⟩ := by
  rcases invariant.live_aligned _ isLive with ⟨align, computed, -⟩
  rw [dealloc_eq computed] at returned
  rcases addFreeRegion_eq_ok returned with ⟨-, -, regions⟩
  have liveSum := ((List.perm_cons_erase isLive).map
    fun allocation : Nat × Layout => allocationSize allocation.2).sum_eq
  simp only [List.map_cons, List.sum_cons] at liveSum
  simp only [Accounted, freeBytes, liveBytes, regions, List.map_cons, List.sum_cons]
  simp only [Accounted, freeBytes, liveBytes] at accounted
  omega

/-- The heap's bytes are accounted for over every run of a heap that does not start at the
null address. -/
theorem linkedList_bytes_accounted {heapStart heapSize : Nat} (positive : 0 < heapStart)
    (startAligned : heapStart % listNodeAlign = 0) (largeEnough : listNodeSize ≤ heapSize)
    {heap : LinkedListHeap} (reachable : Reachable (Initial heapStart heapSize) Step heap) :
    heap.freeBytes + heap.liveBytes + heap.skipped = heapSize := by
  have both : Invariant heapStart heapSize heap ∧ Accounted heapSize heap := by
    apply reachable.invariant
    · intro start initial
      refine ⟨invariant_initial startAligned largeEnough initial, ?_⟩
      rcases initial with ⟨initialised, noLive, noSkipped⟩
      rcases addFreeRegion_eq_ok initialised with ⟨-, -, regions⟩
      simp [Accounted, freeBytes, liveBytes, regions, noLive, noSkipped,
        LinkedListAllocator.new]
    · rintro state call next ⟨invariant, accounted⟩ step
      refine ⟨invariant_step invariant step, ?_⟩
      cases step with
      | alloc returned => exact accounted_alloc positive invariant accounted returned
      | dealloc isLive returned => exact accounted_dealloc invariant accounted isLive returned
  exact both.2

/-- The same run: the 8 bytes in front of the 16-byte allocation are skipped, and with them
the heap's bytes add up. -/
theorem linkedList_bytes_accounted_after_free :
    0 < Allocator.heapStart ∧ Allocator.heapStart % listNodeAlign = 0 ∧
      listNodeSize ≤ Allocator.heapSize ∧
      ∃ heap, Reachable (Initial Allocator.heapStart Allocator.heapSize) Step heap ∧
        heap.skipped = 8 ∧
        heap.freeBytes + heap.liveBytes + heap.skipped = Allocator.heapSize := by
  have positive : 0 < Allocator.heapStart := by decide
  have startAligned : Allocator.heapStart % listNodeAlign = 0 := by decide
  have largeEnough : listNodeSize ≤ Allocator.heapSize := by decide
  have replayed : (run perform bootHeap [.alloc ⟨24, 8, ⟨3, rfl⟩, by decide⟩,
      .alloc ⟨16, 16, ⟨4, rfl⟩, by decide⟩,
      .dealloc Allocator.heapStart ⟨24, 8, ⟨3, rfl⟩, by decide⟩]).map
        (fun heap => heap.skipped) = some 8 := by
    decide
  obtain ⟨heap, final, skipped⟩ := Option.map_eq_some_iff.mp replayed
  have reachable := reachable_of_run step_of_perform (Reachable.init initial_bootHeap) final
  exact ⟨positive, startAligned, largeEnough, heap, reachable, skipped,
    linkedList_bytes_accounted positive startAligned largeEnough reachable⟩

/-- After a 24-byte allocation, the next free region starts 8 bytes past a multiple of 16,
and a 16-byte request aligned to 16 skips those 8 bytes: the free list and the live
allocations then hold 8 bytes less than the heap. -/
theorem linkedList_front_padding_lost :
    ¬ ∀ heap : LinkedListHeap, Reachable (Initial Allocator.heapStart Allocator.heapSize) Step heap →
      heap.freeBytes + heap.liveBytes = Allocator.heapSize := by
  intro accounted
  have replayed : (run perform bootHeap
      [.alloc ⟨24, 8, ⟨3, rfl⟩, by decide⟩, .alloc ⟨16, 16, ⟨4, rfl⟩, by decide⟩]).map
        (fun heap => heap.freeBytes + heap.liveBytes) = some (Allocator.heapSize - 8) := by
    decide
  obtain ⟨heap, final, lost⟩ := Option.map_eq_some_iff.mp replayed
  have reachable := reachable_of_run step_of_perform (Reachable.init initial_bootHeap) final
  have whole := accounted heap reachable
  simp only [Allocator.heapSize] at whole lost
  omega

/-- Over every run on a heap that lies in the address space, freeing any live allocation
returns, and allocating its layout again right after gives back the same address and leaves
the free list exactly as it was before the free. -/
theorem linkedList_free_then_alloc_reuses {heapStart heapSize : Nat}
    (startAligned : heapStart % listNodeAlign = 0) (largeEnough : listNodeSize ≤ heapSize)
    (inAddressSpace : heapStart + heapSize ≤ usizeMax) {heap : LinkedListHeap}
    (reachable : Reachable (Initial heapStart heapSize) Step heap) :
    ∀ allocation ∈ heap.live, ∃ freed,
      heap.allocator.dealloc allocation.1 allocation.2 = .ok freed ∧
        freed.alloc allocation.2 = .ok (heap.allocator, allocation.1) := by
  have invariant := invariant_of_reachable startAligned largeEnough reachable
  intro allocation allocationMem
  obtain ⟨align, computed, aligned⟩ := invariant.live_aligned allocation allocationMem
  have inside := invariant.live_within allocation allocationMem
  rw [Span.within_iff] at inside
  simp only [liveSpan, heapSpan] at inside
  exact heap.allocator.alloc_dealloc computed aligned (by omega)

/-- The kernel's heap with one allocation of 24 bytes. -/
theorem linkedList_free_then_alloc_reuses_heap :
    ∃ heap : LinkedListHeap,
      Reachable (Initial Allocator.heapStart Allocator.heapSize) Step heap ∧
        (Allocator.heapStart, (⟨24, 8, ⟨3, rfl⟩, by decide⟩ : Layout)) ∈ heap.live ∧
        ∃ freed, heap.allocator.dealloc Allocator.heapStart ⟨24, 8, ⟨3, rfl⟩, by decide⟩ =
            .ok freed ∧
          freed.alloc ⟨24, 8, ⟨3, rfl⟩, by decide⟩ = .ok (heap.allocator, Allocator.heapStart) := by
  have startAligned : Allocator.heapStart % listNodeAlign = 0 := by decide
  have largeEnough : listNodeSize ≤ Allocator.heapSize := by decide
  have inAddressSpace : Allocator.heapStart + Allocator.heapSize ≤ usizeMax := by decide
  have replayed : (run perform bootHeap [.alloc ⟨24, 8, ⟨3, rfl⟩, by decide⟩]).map
      (fun heap => heap.live) = some [(Allocator.heapStart, ⟨24, 8, ⟨3, rfl⟩, by decide⟩)] := by
    decide
  obtain ⟨heap, final, allocated⟩ := Option.map_eq_some_iff.mp replayed
  have reachable := reachable_of_run step_of_perform (Reachable.init initial_bootHeap) final
  have live : (Allocator.heapStart, (⟨24, 8, ⟨3, rfl⟩, by decide⟩ : Layout)) ∈ heap.live := by
    rw [allocated]
    exact List.mem_singleton_self _
  exact ⟨heap, reachable, live, linkedList_free_then_alloc_reuses startAligned largeEnough
    inAddressSpace reachable _ live⟩

end LinkedListHeap

end OsByRust
