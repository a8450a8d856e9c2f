import OsByRust.Allocator.Basic
import OsByRust.Memory.Mmu
import Mathlib

/-!
# What the kernel uses of the `x86_64` crate

`src/memory.rs` calls the `x86_64` crate, version 0.14, for its address types:
`PhysAddr::new`, `PhysFrame::containing_address`, the `VirtAddr` operations,
`PageTableEntry::frame` and `Cr3::read`. The crate is not part of the repository, so its
functions are parameters of the model. `PhysCrate` collects the two that the frame allocator
calls and `PagingCrate` those of `translate_addr_inner`. Their documented behaviour is
stated as laws, in `PhysCrate.Lawful` and `PagingCrate.Lawful`. The theorems about the
kernel hold for every crate that satisfies the laws.

`x86Phys` and `x86Paging` write the functions after the crate's source, and
`x86Phys_lawful` and `x86Paging_lawful` check the laws against them. The runs on concrete
inputs use these two crates.
-/

namespace OsByRust

/-- The size of a 4 KiB frame. -/
def pageSize : Nat := 4096

/-- `PhysFrame<Size4KiB>`: its start address. -/
structure PhysFrame where
  startAddress : Nat
  deriving DecidableEq, Repr

/-- The functions of the crate the frame allocator calls. -/
structure PhysCrate where
  /-- `PhysAddr::new`. -/
  physAddrNew : Nat → Except Panic Nat
  /-- `PhysFrame::containing_address`. -/
  containingAddress : Nat → PhysFrame

/-- The documented behaviour: `PhysAddr::new` keeps an address below `2 ^ 52` and panics on
one with a bit in the range 52 to 64 set; `containing_address` is the 4 KiB frame that
contains the address. -/
structure PhysCrate.Lawful (crate : PhysCrate) : Prop where
  physAddrNew_of_lt : ∀ addr, addr < 2 ^ 52 → crate.physAddrNew addr = .ok addr
  physAddrNew_of_le : ∀ addr, 2 ^ 52 ≤ addr →
    crate.physAddrNew addr = .error .physAddrNotValid
  containingAddress_mod : ∀ addr, (crate.containingAddress addr).startAddress % pageSize = 0
  containingAddress_le : ∀ addr, (crate.containingAddress addr).startAddress ≤ addr
  lt_containingAddress : ∀ addr, addr < (crate.containingAddress addr).startAddress + pageSize

theorem PhysCrate.Lawful.containingAddress_of_mod {crate : PhysCrate} (lawful : crate.Lawful)
    {addr : Nat} (aligned : addr % pageSize = 0) : crate.containingAddress addr = ⟨addr⟩ := by
  have frameAligned := lawful.containingAddress_mod addr
  have below := lawful.containingAddress_le addr
  have within := lawful.lt_containingAddress addr
  rw [pageSize] at aligned frameAligned within
  cases frame : crate.containingAddress addr with
  | mk start =>
      simp only [frame] at frameAligned below within
      congr 1
      omega

/-- The panics `translate_addr_inner` can end in. -/
inductive PagingPanic where
  /-- A panic of the address arithmetic: an overflowing `u64` addition, or `PhysAddr::new` on
  an address with a bit in the range 52 to 64 set. -/
  | arithmetic (reason : Panic)
  /-- `VirtAddr::new` on an address that is not canonical and cannot be made so. -/
  | virtAddrNotValid
  /-- `panic!("huge pages not supported!")`. -/
  | hugePagesNotSupported
  deriving DecidableEq, Repr

/-- `VirtAddr`: a canonical 64-bit virtual address. Bits 47 to 64 are all clear (the lower
half) or all set (the upper half). -/
structure VirtAddr where
  asU64 : Nat
  canonical : asU64 < 2 ^ 47 ∨ 2 ^ 64 - 2 ^ 47 ≤ asU64 ∧ asU64 < 2 ^ 64
  deriving DecidableEq, Repr

/-- `PageTableIndex`: an index into the 512 entries of a table. -/
abbrev PageTableIndex := Fin 512

/-- `PageTableEntry`: a 64-bit table entry. -/
structure PageTableEntry where
  entry : UInt64
  deriving DecidableEq, Repr

/-- `FrameError`: why an entry maps no 4 KiB frame. -/
inductive FrameError where
  | frameNotPresent
  | hugeFrame
  deriving DecidableEq, Repr

/-- The functions of the crate `translate_addr_inner` calls. -/
structure PagingCrate where
  /-- `VirtAddr + u64`. -/
  virtAddrAdd : VirtAddr → Nat → Except PagingPanic VirtAddr
  /-- `u64::from(VirtAddr::page_offset())`. -/
  pageOffset : VirtAddr → Nat
  /-- `VirtAddr::p1_index`. -/
  p1Index : VirtAddr → PageTableIndex
  /-- `VirtAddr::p2_index`. -/
  p2Index : VirtAddr → PageTableIndex
  /-- `VirtAddr::p3_index`. -/
  p3Index : VirtAddr → PageTableIndex
  /-- `VirtAddr::p4_index`. -/
  p4Index : VirtAddr → PageTableIndex
  /-- `PageTableEntry::frame`, with the panics of the `PhysAddr::new` inside it. -/
  frame : PageTableEntry → Except Panic (Except FrameError PhysFrame)
  /-- `Cr3::read().0` on the value of the register. -/
  cr3Read : UInt64 → Except Panic PhysFrame
  /-- `PhysAddr + u64`. -/
  physAddrAdd : Nat → Nat → Except PagingPanic Nat

/-- The documented behaviour. An addition that stays in the lower half neither overflows nor
leaves the canonical addresses. The page offset is bits 0 to 12 of the address, and the four
table indices are its next four groups of nine bits. `frame` reports an entry without
`PRESENT`, then one with `HUGE_PAGE` (bit 7), and otherwise gives the frame at bits 12 to 52
of the entry. `Cr3::read` gives the frame at bits 12 to 52 of the register. An addition to a
physical address that stays below `2 ^ 52` returns the sum. -/
structure PagingCrate.Lawful (crate : PagingCrate) : Prop where
  virtAddrAdd_of_lt : ∀ virt p (lower : virt.asU64 + p < 2 ^ 47),
    crate.virtAddrAdd virt p = .ok ⟨virt.asU64 + p, .inl lower⟩
  pageOffset_eq : ∀ virt, crate.pageOffset virt = virt.asU64 % 2 ^ 12
  p1Index_eq : ∀ virt, (crate.p1Index virt : Nat) = virt.asU64 / 2 ^ 12 % 512
  p2Index_eq : ∀ virt, (crate.p2Index virt : Nat) = virt.asU64 / 2 ^ 21 % 512
  p3Index_eq : ∀ virt, (crate.p3Index virt : Nat) = virt.asU64 / 2 ^ 30 % 512
  p4Index_eq : ∀ virt, (crate.p4Index virt : Nat) = virt.asU64 / 2 ^ 39 % 512
  frame_eq : ∀ entry, crate.frame ⟨entry⟩ =
    .ok (if !Mmu.present entry then .error .frameNotPresent
      else if Mmu.bit7 entry then .error .hugeFrame else .ok ⟨Mmu.base entry 12⟩)
  cr3Read_eq : ∀ value, crate.cr3Read value = .ok ⟨Mmu.pml4 value⟩
  physAddrAdd_of_lt : ∀ addr rhs, addr + rhs < 2 ^ 52 →
    crate.physAddrAdd addr rhs = .ok (addr + rhs)

/-! ## The crate after its source -/

namespace X86

/-- `PhysAddr::new`, through `try_new`: `Err` when `addr.get_bits(52..64)` is not zero,
which `new` turns into a panic. -/
def physAddrNew (addr : Nat) : Except Panic Nat :=
  if addr < 2 ^ 52 then .ok addr else .error .physAddrNotValid

/-- `PhysFrame::containing_address`: `address.align_down(Size4KiB::SIZE)`. -/
def containingAddress (addr : Nat) : PhysFrame := ⟨addr / pageSize * pageSize⟩

/-- `PageTableIndex::new_truncate`: the index modulo 512. -/
def newTruncate (index : Nat) : PageTableIndex := ⟨index % 512, Nat.mod_lt _ (by decide)⟩

/-- `VirtAddr::new_truncate`: bit 47 copied into bits 48 to 64,
`((addr << 16) as i64 >> 16) as u64`. -/
def virtAddrNewTruncate (addr : Nat) : VirtAddr :=
  if lower : addr % 2 ^ 48 < 2 ^ 47 then ⟨addr % 2 ^ 48, .inl lower⟩
  else ⟨addr % 2 ^ 48 + (2 ^ 64 - 2 ^ 48), .inr (by omega)⟩

/-- `VirtAddr::new`, through `try_new`, which matches on `addr.get_bits(47..64)`. All clear
(`0`) or all set (`0x1ffff`) is canonical, only bit 47 set (`1`) is sign-extended, and
anything else panics. -/
def virtAddrNew (addr : Nat) : Except PagingPanic VirtAddr :=
  match bits : addr / 2 ^ 47 with
  | 0 => .ok ⟨addr, .inl (by omega)⟩
  | 0x1ffff => .ok ⟨addr, .inr (by omega)⟩
  | 1 => .ok (virtAddrNewTruncate addr)
  | _ => .error .virtAddrNotValid

/-- `VirtAddr + u64`: `VirtAddr::new(self.0 + rhs)`, the `u64` addition checked. -/
def virtAddrAdd (self : VirtAddr) (rhs : Nat) : Except PagingPanic VirtAddr := do
  let sum ← (usizeAdd self.asU64 rhs).mapError .arithmetic
  virtAddrNew sum

/-- `PageTableFlags`: the flag bits of an entry. -/
structure PageTableFlags where
  bits : UInt64
  deriving DecidableEq, Repr

/-- `PageTableFlags::PRESENT`. -/
def PageTableFlags.present : PageTableFlags := ⟨1⟩

/-- `PageTableFlags::HUGE_PAGE`. -/
def PageTableFlags.hugePage : PageTableFlags := ⟨(1 : UInt64) <<< 7⟩

/-- `PageTableFlags::contains`. -/
def PageTableFlags.contains (self other : PageTableFlags) : Bool :=
  self.bits &&& other.bits == other.bits

/-- `PageTableEntry::frame`: `FrameNotPresent` without `PRESENT`, `HugeFrame` with
`HUGE_PAGE`, and otherwise the frame containing
`addr() = PhysAddr::new(self.entry & 0x000f_ffff_ffff_f000)`. `flags()` truncates the bits
no flag names; bits 0 and 7 are kept, so the whole entry stands for them. -/
def frame (self : PageTableEntry) : Except Panic (Except FrameError PhysFrame) :=
  if !PageTableFlags.contains ⟨self.entry⟩ .present then .ok (.error .frameNotPresent)
  else if PageTableFlags.contains ⟨self.entry⟩ .hugePage then .ok (.error .hugeFrame)
  else (physAddrNew (self.entry &&& 0x000f_ffff_ffff_f000).toNat).map
    fun addr => .ok (containingAddress addr)

/-- `Cr3::read().0`:
`PhysFrame::containing_address(PhysAddr::new(value & 0x_000f_ffff_ffff_f000))`. -/
def cr3Read (value : UInt64) : Except Panic PhysFrame :=
  (physAddrNew (value &&& 0x000f_ffff_ffff_f000).toNat).map containingAddress

/-- `PhysAddr + u64`: `PhysAddr::new(self.0 + rhs)`, the addition checked. -/
def physAddrAdd (addr rhs : Nat) : Except PagingPanic Nat :=
  (usizeAdd addr rhs >>= physAddrNew).mapError .arithmetic

end X86

/-- The frame allocator's part of the crate. -/
def x86Phys : PhysCrate := ⟨X86.physAddrNew, X86.containingAddress⟩

/-- `translate_addr_inner`'s part of the crate. The offset and the indices are those of
`page_offset` and `p1_index` to `p4_index`: the address shifted right, cut to a `u16`, then
truncated to 12 or 9 bits. -/
def x86Paging : PagingCrate where
  virtAddrAdd := X86.virtAddrAdd
  pageOffset self := self.asU64 % 2 ^ 16 % 2 ^ 12
  p1Index self := X86.newTruncate ((self.asU64 >>> 12) % 2 ^ 16)
  p2Index self := X86.newTruncate ((self.asU64 >>> 12 >>> 9) % 2 ^ 16)
  p3Index self := X86.newTruncate ((self.asU64 >>> 12 >>> 9 >>> 9) % 2 ^ 16)
  p4Index self := X86.newTruncate ((self.asU64 >>> 12 >>> 9 >>> 9 >>> 9) % 2 ^ 16)
  frame := X86.frame
  cr3Read := X86.cr3Read
  physAddrAdd := X86.physAddrAdd

namespace X86

theorem physAddrNew_of_lt {addr : Nat} (valid : addr < 2 ^ 52) : physAddrNew addr = .ok addr := by
  rw [physAddrNew, if_pos valid]

theorem containingAddress_of_mod {addr : Nat} (aligned : addr % 2 ^ 12 = 0) :
    containingAddress addr = ⟨addr⟩ := by
  rw [containingAddress, pageSize]
  congr 1
  omega

theorem virtAddrNew_of_lt {addr : Nat} (lower : addr < 2 ^ 47) :
    virtAddrNew addr = .ok ⟨addr, .inl lower⟩ := by
  rw [virtAddrNew]
  split
  case h_1 => rfl
  case h_2 bits | h_3 bits => omega
  case h_4 notZero _ _ => exact absurd (Nat.div_eq_of_lt lower) notZero

/-- Bits 12 to 52 of a word, masked the way `addr()` and `Cr3::read` mask them. -/
theorem toNat_and_addrMask (value : UInt64) :
    (value &&& 0x000f_ffff_ffff_f000).toNat = Mmu.base value 12 := by
  have mask : (0x000f_ffff_ffff_f000 : UInt64).toNat = (2 ^ 40 - 1) * 2 ^ 12 := by decide
  rw [UInt64.toNat_and, mask, Mmu.base]
  apply Nat.eq_of_testBit_eq
  intro i
  simp only [Nat.testBit_and, Nat.testBit_mul_two_pow, Nat.testBit_two_pow_sub_one,
    Nat.testBit_div_two_pow, Nat.testBit_mod_two_pow]
  by_cases high : 12 ≤ i
  · have back : i - 12 + 12 = i := by omega
    rw [back]
    by_cases top : i < 52
    · simp [high, top, show i - 12 < 40 by omega]
    · simp [high, top, show ¬ i - 12 < 40 by omega]
  · simp [high]

theorem contains_present (entry : UInt64) :
    PageTableFlags.contains ⟨entry⟩ .present = Mmu.present entry := by
  have one : (1 : UInt64).toNat = 2 ^ 0 := rfl
  rw [PageTableFlags.contains, PageTableFlags.present, Mmu.present]
  rw [Bool.eq_iff_iff, beq_iff_eq, ← UInt64.toNat_inj, UInt64.toNat_and, one, Nat.and_two_pow]
  cases entry.toNat.testBit 0 <;> simp

theorem contains_hugePage (entry : UInt64) :
    PageTableFlags.contains ⟨entry⟩ .hugePage = Mmu.bit7 entry := by
  have bit : ((1 : UInt64) <<< 7).toNat = 2 ^ 7 := rfl
  rw [PageTableFlags.contains, PageTableFlags.hugePage, Mmu.bit7]
  rw [Bool.eq_iff_iff, beq_iff_eq, ← UInt64.toNat_inj, UInt64.toNat_and, bit, Nat.and_two_pow]
  cases entry.toNat.testBit 7 <;> simp

/-- The cast to `u16` drops bits that the truncation to nine bits drops anyway. -/
theorem newTruncate_u16 (value : Nat) : (newTruncate (value % 2 ^ 16) : Nat) = value % 512 :=
  Nat.mod_mod_of_dvd value (by decide)

end X86

theorem x86Phys_lawful : x86Phys.Lawful where
  physAddrNew_of_lt _ valid := X86.physAddrNew_of_lt valid
  physAddrNew_of_le addr invalid := by
    show X86.physAddrNew addr = _
    rw [X86.physAddrNew, if_neg (Nat.not_lt.mpr invalid)]
  containingAddress_mod addr := Nat.mul_mod_left _ _
  containingAddress_le addr := Nat.div_mul_le_self addr pageSize
  lt_containingAddress addr := by
    dsimp only [x86Phys, X86.containingAddress, pageSize]
    omega

theorem x86Paging_lawful : x86Paging.Lawful where
  virtAddrAdd_of_lt virt p lower := by
    have fits : virt.asU64 + p ≤ usizeMax := by
      rw [usizeMax]
      omega
    simp only [x86Paging, X86.virtAddrAdd, usizeAdd, if_pos fits, Except.mapError, bind,
      Except.bind]
    exact X86.virtAddrNew_of_lt lower
  pageOffset_eq virt := Nat.mod_mod_of_dvd _ (by decide)
  p1Index_eq virt := by
    simp only [x86Paging, X86.newTruncate_u16, Nat.shiftRight_eq_div_pow]
  p2Index_eq virt := by
    simp only [x86Paging, X86.newTruncate_u16, Nat.shiftRight_eq_div_pow, Nat.div_div_eq_div_mul]
    norm_num
  p3Index_eq virt := by
    simp only [x86Paging, X86.newTruncate_u16, Nat.shiftRight_eq_div_pow, Nat.div_div_eq_div_mul]
    norm_num
  p4Index_eq virt := by
    simp only [x86Paging, X86.newTruncate_u16, Nat.shiftRight_eq_div_pow, Nat.div_div_eq_div_mul]
    norm_num
  frame_eq entry := by
    simp only [x86Paging, X86.frame, X86.contains_present, X86.contains_hugePage,
      X86.toNat_and_addrMask, X86.physAddrNew_of_lt (Mmu.base_lt entry)]
    split_ifs <;> simp [Except.map, X86.containingAddress_of_mod (Mmu.base_mod _ _)]
  cr3Read_eq value := by
    simp only [x86Paging, X86.cr3Read, X86.toNat_and_addrMask,
      X86.physAddrNew_of_lt (Mmu.base_lt value), Mmu.pml4]
    simp [Except.map, X86.containingAddress_of_mod (Mmu.base_mod _ _)]
  physAddrAdd_of_lt addr rhs valid := by
    have fits : addr + rhs ≤ usizeMax := by
      rw [usizeMax]
      omega
    simp only [x86Paging, X86.physAddrAdd, usizeAdd, if_pos fits, bind, Except.bind,
      X86.physAddrNew_of_lt valid]
    rfl

end OsByRust
