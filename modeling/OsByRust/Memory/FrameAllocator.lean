import OsByRust.Memory.X86
import OsByRust.Lib.Iterator
import Mathlib

/-!
# The boot-info frame allocator

`src/memory.rs`. `BootInfoFrameAllocator` hands out the 4 KiB physical frames of the regions
that the bootloader's memory map marks `Usable`, in the order of the map. It keeps no free
list: every call rebuilds the iterator `usable_frames` (filter the usable regions, step
through each in 4 KiB steps, make each address into a frame) and takes its item number
`next`, then increments `next`, also when there was no item.

A memory region is modelled by the two addresses the code reads, `range.start_addr()` and
`range.end_addr()`, and its type. Making an address into a frame goes through
`PhysAddr::new` and `PhysFrame::containing_address` of the `x86_64` crate, a `PhysCrate`
parameter of every function here. By its laws `PhysAddr::new` panics on an address at or
above `2 ^ 52`, the largest physical address width of x86_64; `nth` calls it on every frame
address it passes.

`allocateFrames` is the caller's run of successive calls. Where the usable regions are aligned,
disjoint and below `2 ^ 52`, `usableFrames_eq` turns the iterator into the list of frame
addresses, and a run returns that list item by item (`allocateFrames_of_usableFrames`).
-/

namespace OsByRust

/-- `MemoryRegionType` of `bootloader::bootinfo`. The allocator only compares with
`Usable`. -/
inductive MemoryRegionType where
  | usable
  | inUse
  | reserved
  | acpiReclaimable
  | acpiNvs
  | badMemory
  | kernel
  | kernelStack
  | pageTable
  | bootloader
  | frameZero
  | empty
  | bootInfo
  | package
  | unknownUefi (value : UInt32)
  | unknownBios (value : UInt32)
  deriving DecidableEq, Repr

/-- `MemoryRegion`: the addresses `range.start_addr()` and `range.end_addr()`, and
`region_type`. -/
structure MemoryRegion where
  startAddr : Nat
  endAddr : Nat
  regionType : MemoryRegionType
  deriving DecidableEq, Repr

/-- The addresses of a region. -/
def MemoryRegion.span (region : MemoryRegion) : Span :=
  ⟨region.startAddr, region.endAddr - region.startAddr⟩

/-- `BootInfoFrameAllocator`: the regions `memory_map.iter()` yields, and `next`. -/
structure BootInfoFrameAllocator where
  memoryMap : List MemoryRegion
  next : Nat
  deriving DecidableEq, Repr

namespace BootInfoFrameAllocator

/-- `BootInfoFrameAllocator::init`. -/
def init (memoryMap : List MemoryRegion) : BootInfoFrameAllocator := ⟨memoryMap, 0⟩

/-- `usable_regions` in `usable_frames`. -/
def usableRegions (memoryMap : List MemoryRegion) : List MemoryRegion :=
  memoryMap.filter fun region => region.regionType = .usable

/-- `frame_addresses` in `usable_frames`: each usable range `start..end` stepped through by
`step_by(4096)`. -/
def frameAddresses (memoryMap : List MemoryRegion) : List Nat :=
  let addrRanges := (usableRegions memoryMap).map fun region => (region.startAddr, region.endAddr)
  addrRanges.flatMap fun (start, stop) => Iter.stepBy start stop pageSize

variable (crate : PhysCrate)

/-- `usable_frames`: one item per frame address, the frame or the panic of `PhysAddr::new`. -/
def usableFrames (allocator : BootInfoFrameAllocator) : List (Except Panic PhysFrame) :=
  (frameAddresses allocator.memoryMap).map fun addr =>
    (crate.physAddrNew addr).map crate.containingAddress

/-- `FrameAllocator::allocate_frame`: `usable_frames().nth(self.next)`, then `next += 1`. -/
def allocateFrame (allocator : BootInfoFrameAllocator) :
    Except Panic (Option PhysFrame × BootInfoFrameAllocator) := do
  let frame ← Iter.nth (allocator.usableFrames crate) allocator.next
  let next ← usizeAdd allocator.next 1
  return (frame, { allocator with next := next })

/-- `calls` successive calls of `allocate_frame`, with what each call returned. -/
def allocateFrames (allocator : BootInfoFrameAllocator) :
    Nat → Except Panic (List (Option PhysFrame) × BootInfoFrameAllocator)
  | 0 => .ok ([], allocator)
  | calls + 1 => do
      let (frames, allocator) ← allocateFrames allocator calls
      let (frame, allocator) ← allocator.allocateFrame crate
      return (frames ++ [frame], allocator)

/-- The number of 4 KiB frames in the usable regions. -/
def totalFrames (memoryMap : List MemoryRegion) : Nat :=
  ((usableRegions memoryMap).map fun region => (region.endAddr - region.startAddr) / pageSize).sum

theorem mem_frameAddresses {memoryMap : List MemoryRegion} {addr : Nat} :
    addr ∈ frameAddresses memoryMap ↔ ∃ region ∈ usableRegions memoryMap, ∃ index,
      region.startAddr + pageSize * index < region.endAddr ∧
        addr = region.startAddr + pageSize * index := by
  simp only [frameAddresses, List.mem_flatMap, List.mem_map]
  constructor
  · rintro ⟨_, ⟨region, regionMem, rfl⟩, stepped⟩
    exact ⟨region, regionMem, (Iter.mem_stepBy (by decide)).mp stepped⟩
  · rintro ⟨region, regionMem, stepped⟩
    exact ⟨_, ⟨region, regionMem, rfl⟩, (Iter.mem_stepBy (by decide)).mpr stepped⟩

variable {crate}

/-- The allocator answers `next` from its memory map alone. -/
theorem allocateFrame_of_usableFrames {allocator : BootInfoFrameAllocator}
    {frames : List PhysFrame} (listed : allocator.usableFrames crate = frames.map Except.ok)
    (belowMax : allocator.next < usizeMax) :
    allocator.allocateFrame crate =
      .ok (frames[allocator.next]?, { allocator with next := allocator.next + 1 }) := by
  have added : usizeAdd allocator.next 1 = .ok (allocator.next + 1) :=
    usizeAdd_eq_ok.mpr ⟨belowMax, rfl⟩
  simp only [allocateFrame, listed, Iter.nth_map_ok, added, bind, Except.bind, pure,
    Except.pure]

/-- Once `next` is `usize::MAX`, `next += 1` overflows: `allocate_frame` panics whatever the
memory map. -/
theorem allocateFrame_of_next_eq_usizeMax {allocator : BootInfoFrameAllocator}
    (atMax : allocator.next = usizeMax) (result : Option PhysFrame × BootInfoFrameAllocator) :
    allocator.allocateFrame crate ≠ .ok result := by
  have overflow : usizeAdd allocator.next 1 = .error .addWithOverflow := by
    rw [atMax]
    rfl
  intro returned
  simp only [allocateFrame, bind, Except.bind] at returned
  cases found : Iter.nth (allocator.usableFrames crate) allocator.next with
  | error reason => simp [found] at returned
  | ok frame => simp [found, overflow] at returned

/-- The first `calls` calls, for `calls` up to `usize::MAX`, return the first `calls` items
of the frame list, `None` past its end. -/
theorem allocateFrames_of_usableFrames {memoryMap : List MemoryRegion} {frames : List PhysFrame}
    (listed : (init memoryMap).usableFrames crate = frames.map Except.ok) {calls : Nat}
    (bounded : calls ≤ usizeMax) :
    (init memoryMap).allocateFrames crate calls =
      .ok ((List.range calls).map (fun index => frames[index]?), ⟨memoryMap, calls⟩) := by
  induction calls with
  | zero => rfl
  | succ calls ih =>
      have step : (⟨memoryMap, calls⟩ : BootInfoFrameAllocator).allocateFrame crate =
          .ok (frames[calls]?, ⟨memoryMap, calls + 1⟩) :=
        allocateFrame_of_usableFrames listed (show calls < usizeMax by omega)
      rw [allocateFrames, ih (by omega)]
      simp only [bind, Except.bind, step, pure, Except.pure, List.range_succ, List.map_append,
        List.map_singleton]

/-- A run that reaches `next = usize::MAX` panics at its next call. -/
theorem allocateFrames_succ_of_usizeMax {allocator : BootInfoFrameAllocator}
    {frames : List (Option PhysFrame)} {memoryMap : List MemoryRegion}
    (reached : allocator.allocateFrames crate usizeMax = .ok (frames, ⟨memoryMap, usizeMax⟩))
    (outcome : List (Option PhysFrame) × BootInfoFrameAllocator) :
    allocator.allocateFrames crate (usizeMax + 1) ≠ .ok outcome := by
  intro returned
  rw [allocateFrames, reached] at returned
  simp only [bind, Except.bind] at returned
  cases last : (⟨memoryMap, usizeMax⟩ : BootInfoFrameAllocator).allocateFrame crate with
  | error reason => simp [last] at returned
  | ok result => exact allocateFrame_of_next_eq_usizeMax rfl result last

section Usable

variable {memoryMap : List MemoryRegion}

/-- Every frame address lies at a 4 KiB boundary inside a usable region, with its whole frame,
when the usable regions start and end at 4 KiB boundaries. -/
theorem frame_of_mem_frameAddresses
    (aligned : ∀ region ∈ usableRegions memoryMap,
      region.startAddr % pageSize = 0 ∧ region.endAddr % pageSize = 0)
    {addr : Nat} (listed : addr ∈ frameAddresses memoryMap) :
    ∃ region ∈ usableRegions memoryMap, region.startAddr ≤ addr ∧
      addr + pageSize ≤ region.endAddr ∧ addr % pageSize = 0 := by
  obtain ⟨region, regionMem, index, below, rfl⟩ := mem_frameAddresses.mp listed
  obtain ⟨startAligned, endAligned⟩ := aligned region regionMem
  refine ⟨region, regionMem, by omega, ?_, ?_⟩
  · simp only [pageSize] at startAligned endAligned below ⊢
    omega
  · simp only [pageSize] at startAligned ⊢
    omega

/-- No frame address is listed twice: each region is stepped through once, and the usable
regions are pairwise disjoint. -/
theorem nodup_frameAddresses
    (disjoint : Span.PairwiseDisjoint ((usableRegions memoryMap).map MemoryRegion.span)) :
    (frameAddresses memoryMap).Nodup := by
  rw [frameAddresses, List.nodup_flatMap]
  refine ⟨fun _ _ => Iter.nodup_stepBy _ _ (by decide), ?_⟩
  rw [List.pairwise_map]
  apply (List.pairwise_map.mp disjoint).imp
  intro first second apart address inFirst inSecond
  obtain ⟨index, below, rfl⟩ := (Iter.mem_stepBy (by decide)).mp inFirst
  obtain ⟨other, otherBelow, same⟩ := (Iter.mem_stepBy (by decide)).mp inSecond
  apply apart (first.startAddr + pageSize * index)
  · simp only [Span.Contains, MemoryRegion.span, Span.stop_eq]
    omega
  · simp only [Span.Contains, MemoryRegion.span, Span.stop_eq]
    omega

theorem length_frameAddresses
    (aligned : ∀ region ∈ usableRegions memoryMap,
      region.startAddr % pageSize = 0 ∧ region.endAddr % pageSize = 0) :
    (frameAddresses memoryMap).length = totalFrames memoryMap := by
  rw [frameAddresses, List.length_flatMap, totalFrames, List.map_map]
  congr 1
  apply List.map_congr_left
  intro region regionMem
  obtain ⟨startAligned, endAligned⟩ := aligned region regionMem
  simp only [Function.comp_apply, Iter.length_stepBy, pageSize] at startAligned endAligned ⊢
  omega

/-- Below `2 ^ 52` and at 4 KiB boundaries, `PhysAddr::new` accepts every frame address and
`containing_address` keeps it. -/
theorem usableFrames_eq (lawful : crate.Lawful)
    (aligned : ∀ region ∈ usableRegions memoryMap,
      region.startAddr % pageSize = 0 ∧ region.endAddr % pageSize = 0)
    (physical : ∀ region ∈ usableRegions memoryMap, region.endAddr ≤ 2 ^ 52) (next : Nat) :
    usableFrames crate ⟨memoryMap, next⟩ =
      ((frameAddresses memoryMap).map PhysFrame.mk).map Except.ok := by
  rw [usableFrames, List.map_map]
  apply List.map_congr_left
  intro addr listed
  obtain ⟨region, regionMem, -, upper, addrAligned⟩ := frame_of_mem_frameAddresses aligned listed
  have valid : addr < 2 ^ 52 := by
    have := physical region regionMem
    simp only [pageSize] at upper
    omega
  simp only [Function.comp_apply, lawful.physAddrNew_of_lt addr valid, Except.map,
    lawful.containingAddress_of_mod addrAligned]

theorem frameAllocator_frames_distinct_usable (lawful : crate.Lawful)
    (aligned : ∀ region ∈ usableRegions memoryMap,
      region.startAddr % pageSize = 0 ∧ region.endAddr % pageSize = 0)
    (disjoint : Span.PairwiseDisjoint ((usableRegions memoryMap).map MemoryRegion.span))
    (physical : ∀ region ∈ usableRegions memoryMap, region.endAddr ≤ 2 ^ 52)
    {calls : Nat} (bounded : calls ≤ usizeMax) :
    ∃ frames, (init memoryMap).allocateFrames crate calls = .ok (frames, ⟨memoryMap, calls⟩) ∧
      frames.length = calls ∧
      (frames.filterMap id).Nodup ∧
      (∀ frame ∈ frames.filterMap id, ∃ region ∈ usableRegions memoryMap,
        region.startAddr ≤ frame.startAddress ∧ frame.startAddress + pageSize ≤ region.endAddr) ∧
      (∀ index (inRange : index < frames.length),
        (frames[index]).isSome ↔ index < totalFrames memoryMap) ∧
      ∀ outcome, (init memoryMap).allocateFrames crate (usizeMax + 1) ≠ .ok outcome := by
  set listed := (frameAddresses memoryMap).map PhysFrame.mk
  have frameList := usableFrames_eq lawful aligned physical 0
  have run := allocateFrames_of_usableFrames frameList bounded
  have returned : (((List.range calls).map fun index => listed[index]?).filterMap id) =
      listed.take calls :=
    Iter.filterMap_range_getElem? listed calls
  refine ⟨_, run, by simp, ?_, ?_, ?_, ?_⟩
  · rw [returned]
    apply List.Nodup.sublist (List.take_sublist calls listed)
    exact (nodup_frameAddresses disjoint).map (fun _ _ same => PhysFrame.mk.inj same)
  · intro frame frameMem
    rw [returned] at frameMem
    obtain ⟨addr, addrMem, rfl⟩ := List.mem_map.mp (List.mem_of_mem_take frameMem)
    obtain ⟨region, regionMem, lower, upper, -⟩ := frame_of_mem_frameAddresses aligned addrMem
    exact ⟨region, regionMem, lower, upper⟩
  · intro index inRange
    simp [length_frameAddresses aligned]
  · apply allocateFrames_succ_of_usizeMax
    exact allocateFrames_of_usableFrames frameList (le_refl _)

theorem frameAllocator_frames_distinct_usable_map :
    x86Phys.Lawful ∧
    (∀ region ∈ usableRegions
        [⟨0x1000, 0x3000, .usable⟩, ⟨0x3000, 0x5000, .reserved⟩, ⟨0x100000, 0x101000, .usable⟩],
      region.startAddr % pageSize = 0 ∧ region.endAddr % pageSize = 0) ∧
    Span.PairwiseDisjoint ((usableRegions
      [⟨0x1000, 0x3000, .usable⟩, ⟨0x3000, 0x5000, .reserved⟩, ⟨0x100000, 0x101000, .usable⟩]).map
        MemoryRegion.span) ∧
    (∀ region ∈ usableRegions
        [⟨0x1000, 0x3000, .usable⟩, ⟨0x3000, 0x5000, .reserved⟩, ⟨0x100000, 0x101000, .usable⟩],
      region.endAddr ≤ 2 ^ 52) ∧
    ∃ frames, (init [⟨0x1000, 0x3000, .usable⟩, ⟨0x3000, 0x5000, .reserved⟩,
        ⟨0x100000, 0x101000, .usable⟩]).allocateFrames x86Phys 4 =
      .ok (frames, ⟨[⟨0x1000, 0x3000, .usable⟩, ⟨0x3000, 0x5000, .reserved⟩,
        ⟨0x100000, 0x101000, .usable⟩], 4⟩) ∧
      frames = [some ⟨0x1000⟩, some ⟨0x2000⟩, some ⟨0x100000⟩, none] := by
  have aligned : ∀ region ∈ usableRegions
      [⟨0x1000, 0x3000, .usable⟩, ⟨0x3000, 0x5000, .reserved⟩, ⟨0x100000, 0x101000, .usable⟩],
      region.startAddr % pageSize = 0 ∧ region.endAddr % pageSize = 0 := by
    decide
  have disjoint : Span.PairwiseDisjoint ((usableRegions
      [⟨0x1000, 0x3000, .usable⟩, ⟨0x3000, 0x5000, .reserved⟩, ⟨0x100000, 0x101000, .usable⟩]).map
        MemoryRegion.span) := by
    unfold Span.PairwiseDisjoint
    decide
  have physical : ∀ region ∈ usableRegions
      [⟨0x1000, 0x3000, .usable⟩, ⟨0x3000, 0x5000, .reserved⟩, ⟨0x100000, 0x101000, .usable⟩],
      region.endAddr ≤ 2 ^ 52 := by
    decide
  obtain ⟨frames, run, -⟩ := frameAllocator_frames_distinct_usable x86Phys_lawful aligned
    disjoint physical (show 4 ≤ usizeMax by decide)
  have listed : (init [⟨0x1000, 0x3000, .usable⟩, ⟨0x3000, 0x5000, .reserved⟩,
      ⟨0x100000, 0x101000, .usable⟩]).allocateFrames x86Phys 4 =
      .ok ([some ⟨0x1000⟩, some ⟨0x2000⟩, some ⟨0x100000⟩, none],
        ⟨[⟨0x1000, 0x3000, .usable⟩, ⟨0x3000, 0x5000, .reserved⟩,
          ⟨0x100000, 0x101000, .usable⟩], 4⟩) := by
    decide
  rw [listed, Except.ok.injEq, Prod.mk.injEq] at run
  exact ⟨x86Phys_lawful, aligned, disjoint, physical, frames, by rw [← run.1]; exact listed,
    run.1.symm⟩

/-- Past the laws' range, on a usable region at or above `2 ^ 52`, the first call panics in
`PhysAddr::new`. -/
theorem allocateFrame_of_not_physical (lawful : crate.Lawful) {memoryMap : List MemoryRegion}
    {addr : Nat} (first : frameAddresses memoryMap = addr :: (frameAddresses memoryMap).tail)
    (above : 2 ^ 52 ≤ addr) :
    (init memoryMap).allocateFrame crate = .error .physAddrNotValid := by
  have rejected : usableFrames crate (init memoryMap) =
      .error .physAddrNotValid :: (usableFrames crate (init memoryMap)).tail := by
    simp only [usableFrames, init]
    rw [first, List.map_cons, lawful.physAddrNew_of_le addr above]
    rfl
  rw [allocateFrame, rejected]
  rfl

/-- A usable region at `2 ^ 52`, aligned and disjoint from every other, holds one frame, but
the first call panics in `PhysAddr::new` instead of returning it. -/
theorem frameAllocator_panics_above_physical_range :
    x86Phys.Lawful ∧
    (∀ region ∈ usableRegions [⟨2 ^ 52, 2 ^ 52 + pageSize, .usable⟩],
      region.startAddr % pageSize = 0 ∧ region.endAddr % pageSize = 0) ∧
    Span.PairwiseDisjoint
      ((usableRegions [⟨2 ^ 52, 2 ^ 52 + pageSize, .usable⟩]).map MemoryRegion.span) ∧
    totalFrames [⟨2 ^ 52, 2 ^ 52 + pageSize, .usable⟩] = 1 ∧
    (init [⟨2 ^ 52, 2 ^ 52 + pageSize, .usable⟩]).allocateFrame x86Phys =
      .error .physAddrNotValid := by
  refine ⟨x86Phys_lawful, by decide, ?_, by rfl, ?_⟩
  · unfold Span.PairwiseDisjoint
    decide
  · have first : frameAddresses [⟨2 ^ 52, 2 ^ 52 + pageSize, .usable⟩] =
        2 ^ 52 :: (frameAddresses [⟨2 ^ 52, 2 ^ 52 + pageSize, .usable⟩]).tail := by
      rfl
    exact allocateFrame_of_not_physical x86Phys_lawful first (le_refl _)

end Usable

end BootInfoFrameAllocator

end OsByRust
