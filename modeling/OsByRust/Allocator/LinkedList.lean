import OsByRust.Allocator.Basic

/-!
# The linked-list allocator

`src/allocator/linked_list.rs`. The allocator keeps its free memory as a singly linked
list of regions. Each region stores its `ListNode` (its size and the link to the next
region) in its own first bytes, so a region starts at the address of its node, and
`start_addr` and `end_addr` are computed from the node. The list is modelled by its nodes
in list order; the dummy `head` node that the source keeps inside the allocator, of size
zero, only anchors the list and is left out.

`find_region` walks the list with a cursor `current` and unlinks the first region that
`alloc_from_region` accepts; `findRegion` is the same walk as a recursion on the list,
returning the accepted region, the start address it gives and the list with that region
unlinked. `size_align` raises the alignment of a request to that of a `ListNode` and its
size to a multiple of that alignment of at least one `ListNode`, so that whatever the
allocator later gets back can hold a node again.
-/

namespace OsByRust

/-- `mem::size_of::<ListNode>()`: a `usize` and an `Option<&'static mut ListNode>`. -/
def listNodeSize : Nat := 16

/-- `mem::align_of::<ListNode>()`. -/
def listNodeAlign : Nat := 8

/-- A node of the free list: the free region `[start_addr, start_addr + size)`. -/
structure ListNode where
  startAddr : Nat
  size : Nat
  deriving DecidableEq, Repr

namespace ListNode

/-- `ListNode::end_addr`, a `usize` addition. -/
def endAddr (node : ListNode) : Except Panic Nat := usizeAdd node.startAddr node.size

/-- The addresses of the region. -/
def span (node : ListNode) : Span := ⟨node.startAddr, node.size⟩

@[simp]
theorem span_start (node : ListNode) : node.span.start = node.startAddr := rfl

@[simp]
theorem span_size (node : ListNode) : node.span.size = node.size := rfl

end ListNode

/-- `LinkedListAllocator`: the free regions after the `head` node, in list order. -/
structure LinkedListAllocator where
  regions : List ListNode
  deriving DecidableEq, Repr

namespace LinkedListAllocator

/-- `LinkedListAllocator::new`. -/
def new : LinkedListAllocator := ⟨[]⟩

/-- `add_free_region`: checks the two assertions and pushes the region at the front. -/
def addFreeRegion (allocator : LinkedListAllocator) (addr size : Nat) :
    Except Panic LinkedListAllocator := do
  let aligned ← alignUp addr listNodeAlign
  if aligned ≠ addr then throw .freeRegionMisaligned
  if size < listNodeSize then throw .freeRegionTooSmall
  return ⟨⟨addr, size⟩ :: allocator.regions⟩

/-- `LinkedListAllocator::init`. -/
def init (allocator : LinkedListAllocator) (heapStart heapSize : Nat) :
    Except Panic LinkedListAllocator :=
  allocator.addFreeRegion heapStart heapSize

/-- `alloc_from_region`: the start address of an allocation of `size` bytes aligned to
`align` inside `region`, or `none` (the source's `Err(())`) when the region is too small or
would leave a tail too small to hold a `ListNode`. The source evaluates `region.end_addr()`
twice, to the same value. -/
def allocFromRegion (region : ListNode) (size align : Nat) : Except Panic (Option Nat) := do
  let allocStart ← alignUp region.startAddr align
  match checkedAdd allocStart size with
  | none => return none
  | some allocEnd =>
      let regionEnd ← region.endAddr
      if allocEnd > regionEnd then return none
      let excessSize := regionEnd - allocEnd
      if 0 < excessSize ∧ excessSize < listNodeSize then return none
      return some allocStart

/-- `find_region`: the first region that `alloc_from_region` accepts, the start address it
gives, and the list with that region unlinked. -/
def findRegion : List ListNode → Nat → Nat →
    Except Panic (Option (ListNode × Nat × List ListNode))
  | [], _, _ => return none
  | region :: rest, size, align => do
      match ← allocFromRegion region size align with
      | some allocStart => return some (region, allocStart, rest)
      | none =>
          let found ← findRegion rest size align
          return found.map fun (chosen, allocStart, remaining) =>
            (chosen, allocStart, region :: remaining)

/-- `size_align`: the size and alignment actually allocated for a layout. -/
def sizeAlign (layout : Layout) : Except Panic (Nat × Nat) := do
  let some adjusted := layout.alignTo listNodeAlign | throw .adjustingAlignmentFailed
  let layout := adjusted.padToAlign
  let size := max layout.size listNodeSize
  return (size, layout.align)

/-- `GlobalAlloc::alloc`: the allocator after the call and the returned pointer, `0` for
`ptr::null_mut()`. -/
def alloc (allocator : LinkedListAllocator) (layout : Layout) :
    Except Panic (LinkedListAllocator × Nat) := do
  let (size, align) ← sizeAlign layout
  match ← findRegion allocator.regions size align with
  | some (region, allocStart, remaining) =>
      let some allocEnd := checkedAdd allocStart size | throw .overflow
      let regionEnd ← region.endAddr
      let excessSize := regionEnd - allocEnd
      if 0 < excessSize then
        let allocator ← addFreeRegion ⟨remaining⟩ allocEnd excessSize
        return (allocator, allocStart)
      else
        return (⟨remaining⟩, allocStart)
  | none => return (allocator, 0)

/-- `GlobalAlloc::dealloc`: the region given back is pushed as a new free region. -/
def dealloc (allocator : LinkedListAllocator) (ptr : Nat) (layout : Layout) :
    Except Panic LinkedListAllocator := do
  let (size, _) ← sizeAlign layout
  allocator.addFreeRegion ptr size

theorem addFreeRegion_of_aligned {allocator : LinkedListAllocator} {addr size : Nat}
    (aligned : addr % listNodeAlign = 0) (large : listNodeSize ≤ size) :
    allocator.addFreeRegion addr size = .ok ⟨⟨addr, size⟩ :: allocator.regions⟩ := by
  have returned : alignUp addr listNodeAlign = .ok addr :=
    alignUp_of_mod_eq_zero (by decide) aligned
  simp [addFreeRegion, returned, bind, Except.bind, pure, Except.pure, Nat.not_lt.mpr large]

theorem addFreeRegion_eq_ok {allocator next : LinkedListAllocator} {addr size : Nat}
    (added : allocator.addFreeRegion addr size = .ok next) :
    addr % listNodeAlign = 0 ∧ listNodeSize ≤ size ∧
      next.regions = ⟨addr, size⟩ :: allocator.regions := by
  simp only [addFreeRegion, bind, Except.bind] at added
  cases returned : alignUp addr listNodeAlign with
  | error reason => simp [returned] at added
  | ok aligned =>
      rcases alignUp_eq_ok returned with ⟨positive, rounded⟩
      simp only [returned] at added
      split at added
      · cases added
      · rename_i sameAddr
        split at added
        · cases added
        · rename_i large
          simp only [pure, Except.pure, Except.ok.injEq] at added
          subst added
          refine ⟨?_, by omega, rfl⟩
          have := roundUp_mod addr positive
          simp_all
theorem alignUp_eq_error {addr align : Nat} {reason : Panic} (positive : 0 < align)
    (failed : alignUp addr align = .error reason) : reason = .addWithOverflow := by
  simp only [alignUp, Nat.pos_iff_ne_zero.mp positive, if_false] at failed
  split at failed
  · cases failed
  · cases added : usizeAdd addr align with
    | ok sum => simp [added, bind, Except.bind, pure, Except.pure] at failed
    | error cause =>
        simp only [added, bind, Except.bind, Except.error.injEq] at failed
        simp only [usizeAdd] at added
        split at added <;> simp_all

theorem allocFromRegion_eq_some {region : ListNode} {size align allocStart : Nat}
    (accepted : allocFromRegion region size align = .ok (some allocStart)) :
    0 < align ∧ allocStart = roundUp region.startAddr align ∧
      allocStart + size ≤ region.startAddr + region.size ∧
      region.startAddr + region.size ≤ usizeMax ∧
      (region.startAddr + region.size - (allocStart + size) = 0 ∨
        listNodeSize ≤ region.startAddr + region.size - (allocStart + size)) := by
  simp only [allocFromRegion, bind, Except.bind] at accepted
  cases rounded : alignUp region.startAddr align with
  | error reason => simp [rounded] at accepted
  | ok start =>
      rcases alignUp_eq_ok rounded with ⟨positive, rfl⟩
      simp only [rounded] at accepted
      cases ended : checkedAdd (roundUp region.startAddr align) size with
      | none => simp [ended, pure, Except.pure] at accepted
      | some allocEnd =>
          rcases checkedAdd_eq_some.mp ended with ⟨-, rfl⟩
          simp only [ended] at accepted
          cases regionEnd : region.endAddr with
          | error reason => simp [regionEnd] at accepted
          | ok stop =>
              rcases usizeAdd_eq_ok.mp regionEnd with ⟨fits, rfl⟩
              simp only [regionEnd] at accepted
              split at accepted
              · simp [pure, Except.pure] at accepted
              · rename_i notPast
                split at accepted
                · simp [pure, Except.pure] at accepted
                · rename_i tailFits
                  simp only [pure, Except.pure, Except.ok.injEq, Option.some.injEq] at accepted
                  subst accepted
                  refine ⟨positive, rfl, by omega, fits, by omega⟩

theorem allocFromRegion_eq_error {region : ListNode} {size align : Nat} {reason : Panic}
    (positive : 0 < align) (failed : allocFromRegion region size align = .error reason) :
    reason = .addWithOverflow := by
  simp only [allocFromRegion, bind, Except.bind] at failed
  cases rounded : alignUp region.startAddr align with
  | error cause =>
      simp only [rounded, Except.error.injEq] at failed
      subst failed
      exact alignUp_eq_error positive rounded
  | ok start =>
      simp only [rounded] at failed
      cases ended : checkedAdd start size with
      | none => simp [ended, pure, Except.pure] at failed
      | some allocEnd =>
          simp only [ended] at failed
          cases regionEnd : region.endAddr with
          | error cause =>
              simp only [regionEnd, Except.error.injEq] at failed
              subst failed
              simp only [ListNode.endAddr, usizeAdd] at regionEnd
              split at regionEnd <;> simp_all
          | ok stop =>
              simp only [regionEnd] at failed
              split at failed
              · simp [pure, Except.pure] at failed
              · split at failed <;> simp [pure, Except.pure] at failed

theorem findRegion_cons_of_skipped {region : ListNode} {rest : List ListNode} {size align : Nat}
    (skipped : allocFromRegion region size align = .ok none) :
    findRegion (region :: rest) size align =
      (findRegion rest size align).map (Option.map fun (chosen, allocStart, remaining) =>
        (chosen, allocStart, region :: remaining)) := by
  simp only [findRegion, bind, Except.bind, skipped]
  cases findRegion rest size align <;> rfl

theorem findRegion_eq_some {regions : List ListNode} {size align allocStart : Nat}
    {chosen : ListNode} {remaining : List ListNode}
    (found : findRegion regions size align = .ok (some (chosen, allocStart, remaining))) :
    ∃ before after, regions = before ++ chosen :: after ∧ remaining = before ++ after ∧
      allocFromRegion chosen size align = .ok (some allocStart) ∧
      ∀ skipped ∈ before, allocFromRegion skipped size align = .ok none := by
  induction regions generalizing remaining with
  | nil => simp [findRegion, pure, Except.pure] at found
  | cons region rest ih =>
      cases accepted : allocFromRegion region size align with
      | error reason => simp [findRegion, bind, Except.bind, accepted] at found
      | ok result =>
          cases result with
          | some start =>
              simp only [findRegion, bind, Except.bind, accepted, pure, Except.pure,
                Except.ok.injEq, Option.some.injEq, Prod.mk.injEq] at found
              rcases found with ⟨rfl, rfl, rfl⟩
              exact ⟨[], rest, rfl, rfl, accepted, by simp⟩
          | none =>
              rw [findRegion_cons_of_skipped accepted] at found
              cases later : findRegion rest size align with
              | error reason => simp [later, Except.map] at found
              | ok laterResult =>
                  rcases laterResult with _ | ⟨chosen', start', remaining'⟩
                  · simp [later, Except.map] at found
                  · simp only [later, Except.map, Option.map_some, Except.ok.injEq,
                      Option.some.injEq, Prod.mk.injEq] at found
                    rcases found with ⟨rfl, rfl, rfl⟩
                    rcases ih later with ⟨before, after, split, rfl, chosenAccepted, skippedAll⟩
                    refine ⟨region :: before, after, by rw [split, List.cons_append], rfl,
                      chosenAccepted, ?_⟩
                    intro skipped skippedMem
                    rcases List.mem_cons.mp skippedMem with rfl | inBefore
                    · exact accepted
                    · exact skippedAll skipped inBefore

/-- The walk of `find_region` over the list: it steps over the regions `alloc_from_region`
rejects, and the first region it does not reject decides the outcome. Either there is none
and the result is `None`, or that region is accepted and unlinked, or `align_up` overflows
on it and the call panics. -/
theorem findRegion_cases (regions : List ListNode) {size align : Nat} (positive : 0 < align) :
    ∃ before rest, regions = before ++ rest ∧
      (∀ skipped ∈ before, allocFromRegion skipped size align = .ok none) ∧
      ((rest = [] ∧ findRegion regions size align = .ok none) ∨
        (∃ chosen after allocStart, rest = chosen :: after ∧
          allocFromRegion chosen size align = .ok (some allocStart) ∧
          findRegion regions size align = .ok (some (chosen, allocStart, before ++ after))) ∨
        (∃ failing after, rest = failing :: after ∧
          allocFromRegion failing size align = .error .addWithOverflow ∧
          findRegion regions size align = .error .addWithOverflow)) := by
  induction regions with
  | nil => exact ⟨[], [], rfl, by simp, Or.inl ⟨rfl, rfl⟩⟩
  | cons region rest ih =>
      cases accepted : allocFromRegion region size align with
      | error reason =>
          have overflow := allocFromRegion_eq_error positive accepted
          subst overflow
          refine ⟨[], region :: rest, rfl, by simp, Or.inr (Or.inr ⟨region, rest, rfl, accepted, ?_⟩)⟩
          simp [findRegion, bind, Except.bind, accepted]
      | ok result =>
          cases result with
          | some allocStart =>
              refine ⟨[], region :: rest, rfl, by simp,
                Or.inr (Or.inl ⟨region, rest, allocStart, rfl, accepted, ?_⟩)⟩
              simp [findRegion, bind, Except.bind, accepted, pure, Except.pure]
          | none =>
              obtain ⟨before, later, split, skipped, outcome⟩ := ih
              refine ⟨region :: before, later, by rw [split, List.cons_append], ?_, ?_⟩
              · intro skippedRegion skippedMem
                rcases List.mem_cons.mp skippedMem with rfl | inBefore
                · exact accepted
                · exact skipped skippedRegion inBefore
              · rw [findRegion_cons_of_skipped accepted]
                rcases outcome with ⟨rfl, found⟩ | ⟨chosen, after, allocStart, rfl, chosenAccepted,
                  found⟩ | ⟨failing, after, rfl, failed, found⟩
                · exact Or.inl ⟨rfl, by rw [found]; rfl⟩
                · exact Or.inr (Or.inl ⟨chosen, after, allocStart, rfl, chosenAccepted,
                    by rw [found]; rfl⟩)
                · exact Or.inr (Or.inr ⟨failing, after, rfl, failed, by rw [found]; rfl⟩)

theorem findRegion_eq_error {regions : List ListNode} {size align : Nat} {reason : Panic}
    (positive : 0 < align) (failed : findRegion regions size align = .error reason) :
    reason = .addWithOverflow := by
  obtain ⟨before, rest, -, -, outcome⟩ := @findRegion_cases regions size align positive
  rcases outcome with ⟨-, found⟩ | ⟨_, _, _, -, -, found⟩ | ⟨_, _, -, -, found⟩ <;>
    rw [found] at failed <;> cases failed
  rfl

theorem sizeAlign_eq_ok {layout : Layout} {size align : Nat}
    (computed : sizeAlign layout = .ok (size, align)) :
    align = max layout.align listNodeAlign ∧
      size = max (roundUp layout.size align) listNodeSize := by
  simp only [sizeAlign] at computed
  split at computed
  · rename_i adjusted aligned
    simp only [pure, Except.pure, Except.ok.injEq, Prod.mk.injEq] at computed
    rcases computed with ⟨rfl, rfl⟩
    rcases Layout.alignTo_eq_some aligned with ⟨sameSize, sameAlign⟩
    simp [sameSize, sameAlign]
  · cases computed

theorem sizeAlign_align_isPowerOfTwo {layout : Layout} {size align : Nat}
    (computed : sizeAlign layout = .ok (size, align)) : align.isPowerOfTwo := by
  rw [(sizeAlign_eq_ok computed).1]
  exact layout.align_isPowerOfTwo.max ⟨3, rfl⟩

theorem sizeAlign_dvd_align {layout : Layout} {size align : Nat}
    (computed : sizeAlign layout = .ok (size, align)) :
    listNodeAlign ∣ align ∧ layout.align ∣ align := by
  have power := sizeAlign_align_isPowerOfTwo computed
  rw [(sizeAlign_eq_ok computed).1] at power ⊢
  constructor
  · exact Nat.isPowerOfTwo.dvd_of_le ⟨3, rfl⟩ power (le_max_right _ _)
  · exact layout.align_isPowerOfTwo.dvd_of_le power (le_max_left _ _)

theorem sizeAlign_size {layout : Layout} {size align : Nat}
    (computed : sizeAlign layout = .ok (size, align)) :
    size % listNodeAlign = 0 ∧ listNodeSize ≤ size := by
  rcases sizeAlign_eq_ok computed with ⟨alignEq, rfl⟩
  have positive : 0 < align := Nat.pos_of_isPowerOfTwo (sizeAlign_align_isPowerOfTwo computed)
  have roundedAligned : roundUp layout.size align % listNodeAlign = 0 :=
    Nat.mod_eq_zero_of_dvd (Nat.dvd_trans (sizeAlign_dvd_align computed).1
      (Nat.dvd_of_mod_eq_zero (roundUp_mod layout.size positive)))
  refine ⟨?_, le_max_right _ _⟩
  rcases le_total (roundUp layout.size align) listNodeSize with le | le
  · rw [max_eq_right le]
    rfl
  · rw [max_eq_left le]
    exact roundedAligned

/-- `alloc_from_region` guards the end of the allocation with `checked_add`, so a region whose
`alloc_start + size` overflows is stepped over. The `align_up` before it has no such guard:
for a request of 32 bytes aligned to 32, `align_up` overflows on a region that starts 24
bytes below the top of the address space, and `find_region` panics though the next region
would be accepted. -/
theorem linkedList_find_region_overflow_before_fit :
    sizeAlign ⟨32, 32, ⟨5, rfl⟩, by decide⟩ = .ok (32, 32) ∧
      allocFromRegion ⟨usizeMax - 63, 32⟩ 32 32 = .ok (some (usizeMax - 63)) ∧
      checkedAdd (usizeMax - 31) 32 = none ∧
      findRegion [⟨usizeMax - 31, 16⟩, ⟨usizeMax - 63, 32⟩] 32 32 =
        .ok (some (⟨usizeMax - 63, 32⟩, usizeMax - 63, [⟨usizeMax - 31, 16⟩])) ∧
      alignUp (usizeMax - 23) 32 = .error .addWithOverflow ∧
      findRegion [⟨usizeMax - 23, 16⟩, ⟨usizeMax - 63, 32⟩] 32 32 = .error .addWithOverflow := by
  refine ⟨by rfl, by rfl, by rfl, by rfl, by rfl, by rfl⟩

theorem alloc_eq_ok {allocator next : LinkedListAllocator} {layout : Layout} {ptr : Nat}
    (returned : allocator.alloc layout = .ok (next, ptr)) :
    ∃ size align, sizeAlign layout = .ok (size, align) ∧
      ((findRegion allocator.regions size align = .ok none ∧ next = allocator ∧ ptr = 0) ∨
        ∃ region remaining,
          findRegion allocator.regions size align = .ok (some (region, ptr, remaining)) ∧
          next.regions =
            (if 0 < region.startAddr + region.size - (ptr + size) then
              [⟨ptr + size, region.startAddr + region.size - (ptr + size)⟩] else []) ++
              remaining) := by
  simp only [alloc, bind, Except.bind] at returned
  cases computed : sizeAlign layout with
  | error reason => simp [computed] at returned
  | ok pair =>
      rcases pair with ⟨size, align⟩
      refine ⟨size, align, rfl, ?_⟩
      simp only [computed] at returned
      cases found : findRegion allocator.regions size align with
      | error reason => simp [found] at returned
      | ok result =>
          simp only [found] at returned
          cases result with
          | none =>
              simp only [pure, Except.pure, Except.ok.injEq, Prod.mk.injEq] at returned
              exact Or.inl ⟨rfl, returned.1.symm, returned.2.symm⟩
          | some triple =>
              rcases triple with ⟨region, allocStart, remaining⟩
              right
              refine ⟨region, remaining, ?_⟩
              rcases findRegion_eq_some found with ⟨-, -, -, -, accepted, -⟩
              rcases allocFromRegion_eq_some accepted with ⟨-, -, fits, endFits, -⟩
              have ended : checkedAdd allocStart size = some (allocStart + size) :=
                checkedAdd_eq_some.mpr ⟨by omega, rfl⟩
              have regionEnd : region.endAddr = .ok (region.startAddr + region.size) :=
                usizeAdd_eq_ok.mpr ⟨endFits, rfl⟩
              simp only [ended, regionEnd] at returned
              split at returned
              · rename_i excess
                cases added : addFreeRegion ⟨remaining⟩ (allocStart + size)
                    (region.startAddr + region.size - (allocStart + size)) with
                | error reason => simp [added] at returned
                | ok pushed =>
                    simp only [added, pure, Except.pure, Except.ok.injEq,
                      Prod.mk.injEq] at returned
                    rcases returned with ⟨rfl, rfl⟩
                    rcases addFreeRegion_eq_ok added with ⟨-, -, regions⟩
                    simp [regions, excess]
              · rename_i noExcess
                simp only [pure, Except.pure, Except.ok.injEq, Prod.mk.injEq] at returned
                rcases returned with ⟨rfl, rfl⟩
                simp [noExcess]

theorem sizeAlign_eq_error {layout : Layout} {reason : Panic}
    (failed : sizeAlign layout = .error reason) : reason = .adjustingAlignmentFailed := by
  simp only [sizeAlign] at failed
  split at failed
  · simp [pure, Except.pure] at failed
  · simp only [throw, throwThe, MonadExceptOf.throw, Except.error.injEq] at failed
    exact failed.symm

/-- The split point and the tail that `alloc` gives back to the list pass both assertions
of `add_free_region`. -/
theorem addFreeRegion_tail {remaining : List ListNode} {layout : Layout} {size align : Nat}
    {region : ListNode} {allocStart : Nat} (computed : sizeAlign layout = .ok (size, align))
    (accepted : allocFromRegion region size align = .ok (some allocStart))
    (excess : 0 < region.startAddr + region.size - (allocStart + size)) :
    addFreeRegion ⟨remaining⟩ (allocStart + size)
        (region.startAddr + region.size - (allocStart + size)) =
      .ok ⟨⟨allocStart + size, region.startAddr + region.size - (allocStart + size)⟩ ::
        remaining⟩ := by
  rcases allocFromRegion_eq_some accepted with ⟨positive, rfl, -, -, tailFits⟩
  have startAligned : roundUp region.startAddr align % listNodeAlign = 0 :=
    Nat.mod_eq_zero_of_dvd (Nat.dvd_trans (sizeAlign_dvd_align computed).1
      (Nat.dvd_of_mod_eq_zero (roundUp_mod region.startAddr positive)))
  have sizeAligned := (sizeAlign_size computed).1
  apply addFreeRegion_of_aligned
  · rw [Nat.add_mod, startAligned, sizeAligned]
    rfl
  · omega

/-- An `alloc` call panics only where `align_to` fails or an address addition overflows:
the `expect("overflow")` and both assertions of `add_free_region` that it reaches pass. -/
theorem alloc_eq_error {allocator : LinkedListAllocator} {layout : Layout} {reason : Panic}
    (failed : allocator.alloc layout = .error reason) :
    reason = .adjustingAlignmentFailed ∨ reason = .addWithOverflow := by
  simp only [alloc, bind, Except.bind] at failed
  cases computed : sizeAlign layout with
  | error cause =>
      simp only [computed, Except.error.injEq] at failed
      subst failed
      exact Or.inl (sizeAlign_eq_error computed)
  | ok pair =>
      rcases pair with ⟨size, align⟩
      have positive : 0 < align := Nat.pos_of_isPowerOfTwo (sizeAlign_align_isPowerOfTwo computed)
      simp only [computed] at failed
      cases found : findRegion allocator.regions size align with
      | error cause =>
          simp only [found, Except.error.injEq] at failed
          subst failed
          exact Or.inr (findRegion_eq_error positive found)
      | ok result =>
          simp only [found] at failed
          cases result with
          | none => simp [pure, Except.pure] at failed
          | some triple =>
              rcases triple with ⟨region, allocStart, remaining⟩
              rcases findRegion_eq_some found with ⟨-, -, -, -, accepted, -⟩
              rcases allocFromRegion_eq_some accepted with ⟨-, -, fits, endFits, -⟩
              have ended : checkedAdd allocStart size = some (allocStart + size) :=
                checkedAdd_eq_some.mpr ⟨by omega, rfl⟩
              have regionEnd : region.endAddr = .ok (region.startAddr + region.size) :=
                usizeAdd_eq_ok.mpr ⟨endFits, rfl⟩
              simp only [ended, regionEnd] at failed
              split at failed
              · rename_i excess
                simp [addFreeRegion_tail computed accepted excess, pure, Except.pure] at failed
              · simp [pure, Except.pure] at failed

theorem dealloc_eq {allocator : LinkedListAllocator} {layout : Layout} {ptr size align : Nat}
    (computed : sizeAlign layout = .ok (size, align)) :
    allocator.dealloc ptr layout = allocator.addFreeRegion ptr size := by
  simp [dealloc, computed, bind, Except.bind]

/-- Every pointer `alloc` returns is aligned as its layout asks. -/
theorem alloc_aligned {allocator next : LinkedListAllocator} {layout : Layout} {ptr : Nat}
    (returned : allocator.alloc layout = .ok (next, ptr)) : ptr % layout.align = 0 := by
  rcases alloc_eq_ok returned with
    ⟨size, align, computed, ⟨-, -, rfl⟩ | ⟨region, remaining, found, -⟩⟩
  · exact Nat.zero_mod _
  · rcases findRegion_eq_some found with ⟨-, -, -, -, accepted, -⟩
    rcases allocFromRegion_eq_some accepted with ⟨positive, rfl, -⟩
    apply Nat.mod_eq_zero_of_dvd
    exact Nat.dvd_trans (sizeAlign_dvd_align computed).2
      (Nat.dvd_of_mod_eq_zero (roundUp_mod region.startAddr positive))

/-! ### Freeing and allocating the same layout again -/

/-- A region that starts at an address aligned as asked and is exactly `size` bytes long is
accepted at its start, with no tail. -/
theorem allocFromRegion_exact {start size align : Nat} (positive : 0 < align)
    (aligned : start % align = 0) (fits : start + size ≤ usizeMax) :
    allocFromRegion ⟨start, size⟩ size align = .ok (some start) := by
  have ended : checkedAdd start size = some (start + size) := checkedAdd_eq_some.mpr ⟨fits, rfl⟩
  have regionEnd : ListNode.endAddr ⟨start, size⟩ = .ok (start + size) :=
    usizeAdd_eq_ok.mpr ⟨fits, rfl⟩
  simp [allocFromRegion, alignUp_of_mod_eq_zero positive aligned, ended, regionEnd, bind,
    Except.bind, pure, Except.pure]

/-- `dealloc` of an allocation that `alloc` could have returned for `layout` (aligned as
`size_align` asks and ending inside the address space) returns, and `alloc` of the same
layout right after it returns the same address and leaves the free list as it was before the
`dealloc`: the region given back goes to the front of the list, is the first one tried, and
fits with nothing left over. -/
theorem alloc_dealloc (allocator : LinkedListAllocator) {layout : Layout} {ptr size align : Nat}
    (computed : sizeAlign layout = .ok (size, align)) (aligned : ptr % align = 0)
    (fits : ptr + size ≤ usizeMax) :
    ∃ freed, allocator.dealloc ptr layout = .ok freed ∧ freed.alloc layout = .ok (allocator, ptr) := by
  have positive : 0 < align := Nat.pos_of_isPowerOfTwo (sizeAlign_align_isPowerOfTwo computed)
  have ptrAligned : ptr % listNodeAlign = 0 :=
    Nat.mod_eq_zero_of_dvd (Nat.dvd_trans (sizeAlign_dvd_align computed).1
      (Nat.dvd_of_mod_eq_zero aligned))
  have freed : allocator.dealloc ptr layout = .ok ⟨⟨ptr, size⟩ :: allocator.regions⟩ :=
    (dealloc_eq computed).trans (addFreeRegion_of_aligned ptrAligned (sizeAlign_size computed).2)
  have found : findRegion (⟨ptr, size⟩ :: allocator.regions) size align =
      .ok (some (⟨ptr, size⟩, ptr, allocator.regions)) := by
    simp [findRegion, allocFromRegion_exact positive aligned fits, bind, Except.bind, pure,
      Except.pure]
  have ended : checkedAdd ptr size = some (ptr + size) := checkedAdd_eq_some.mpr ⟨fits, rfl⟩
  have regionEnd : ListNode.endAddr ⟨ptr, size⟩ = .ok (ptr + size) :=
    usizeAdd_eq_ok.mpr ⟨fits, rfl⟩
  refine ⟨_, freed, ?_⟩
  simp [alloc, computed, found, ended, regionEnd, bind, Except.bind, pure, Except.pure]

end LinkedListAllocator

end OsByRust
