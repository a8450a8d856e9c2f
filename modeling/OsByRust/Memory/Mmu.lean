import Mathlib

/-!
# The four-level page walk of x86_64

What `translate_addr` is for: the physical address that the memory-management unit maps a
virtual address to. With 4-level paging the MMU splits bits 12 to 48 of the address into four
nine-bit indices, one per table. It reads the PML4 table at the frame that CR3 names, and each
entry it reads names the next table.

An entry is an 8-byte word of physical memory. Bit 0 says whether it maps anything. Bits 12
to 52 hold a physical address. Bit 7 means something different at different levels:
* in a PDPT or page-directory entry it is `PS`: the entry itself maps a 1 GiB or 2 MiB page;
* in a PML4 entry it is reserved, and the walk faults;
* in a page-table entry it is `PAT`, a memory-type bit that leaves the translation alone.

`walk` follows the tables from a given level down and says where the walk ends. `tables`
lists the tables it reads, and `translate` is the address the MMU produces. The
reserved-bit checks the hardware makes on the address bits of large-page entries are not
modelled.
-/

namespace OsByRust

/-- Physical memory: the 64-bit word at each physical address. -/
abbrev PhysMemory := Nat → UInt64

namespace Mmu

/-- Bit 0 of an entry: it maps a table or a page. -/
def present (entry : UInt64) : Bool := entry.toNat.testBit 0

/-- Bit 7 of an entry: `PS` above the page table, `PAT` in it. -/
def bit7 (entry : UInt64) : Bool := entry.toNat.testBit 7

/-- Bits `low` to 52 of an entry: the physical address it names, aligned to `2 ^ low`. -/
def base (entry : UInt64) (low : Nat) : Nat := entry.toNat % 2 ^ 52 / 2 ^ low * 2 ^ low

/-- The number of address bits below the page an entry of `level` maps: 4 KiB at level 0,
2 MiB at level 1, 1 GiB at level 2. -/
def pageBits (level : Nat) : Nat := 12 + 9 * level

/-- The nine bits of `addr` that index the table of `level`: 3 for the PML4, 0 for the page
table. -/
def index (addr level : Nat) : Nat := addr / 2 ^ pageBits level % 512

/-- The entry the MMU reads for `addr` from the table of `level` at physical address `table`. -/
def entry (phys : PhysMemory) (addr level table : Nat) : UInt64 :=
  phys (table + 8 * index addr level)

/-- Where a walk ends. -/
inductive Outcome where
  /-- An entry on the way is not present: the address is not mapped. -/
  | notPresent
  /-- The PML4 entry has bit 7 set, which is reserved there: the walk faults. -/
  | reserved
  /-- A PDPT or page-directory entry maps a page of `2 ^ bits` bytes at `base`. -/
  | large (base bits : Nat)
  /-- A page-table entry maps the 4 KiB page at `frame`; `pat` is its bit 7. -/
  | page (frame : Nat) (pat : Bool)
  deriving DecidableEq, Repr

/-- The walk for `addr` from the table of `level` at physical address `table`. -/
def walk (phys : PhysMemory) (addr : Nat) : Nat → Nat → Outcome
  | 0, table =>
      let e := entry phys addr 0 table
      if present e then .page (base e 12) (bit7 e) else .notPresent
  | level + 1, table =>
      let e := entry phys addr (level + 1) table
      if !present e then .notPresent
      else if !bit7 e then walk phys addr level (base e 12)
      else if level + 1 = 3 then .reserved
      else .large (base e (pageBits (level + 1))) (pageBits (level + 1))

/-- The physical addresses of the tables the walk reads, from the table of `level` down. -/
def tables (phys : PhysMemory) (addr : Nat) : Nat → Nat → List Nat
  | 0, table => [table]
  | level + 1, table =>
      let e := entry phys addr (level + 1) table
      table :: if present e && !bit7 e then tables phys addr level (base e 12) else []

/-- The PML4 table: bits 12 to 52 of CR3. -/
def pml4 (cr3 : UInt64) : Nat := base cr3 12

/-- The physical address that the MMU translates `addr` to, where it is mapped. -/
def translate (phys : PhysMemory) (cr3 : UInt64) (addr : Nat) : Option Nat :=
  match walk phys addr 3 (pml4 cr3) with
  | .page frame _ => some (frame + addr % 2 ^ 12)
  | .large base bits => some (base + addr % 2 ^ bits)
  | .notPresent | .reserved => none

/-- The walk met no present entry with bit 7 set: it stopped at a missing entry or reached a
4 KiB page whose `PAT` bit is clear. -/
def Outcome.bit7Clear : Outcome → Bool
  | .notPresent => true
  | .page _ pat => !pat
  | .reserved | .large _ _ => false

theorem base_mod (entry : UInt64) (low : Nat) : base entry low % 2 ^ low = 0 :=
  Nat.mul_mod_left _ _

/-- A 4 KiB-aligned base leaves room for a whole page below `2 ^ 52`. -/
theorem base_add_le (entry : UInt64) : base entry 12 + 2 ^ 12 ≤ 2 ^ 52 := by
  have below : entry.toNat % 2 ^ 52 < 2 ^ 52 := Nat.mod_lt _ (by positivity)
  unfold base
  omega

theorem base_lt (entry : UInt64) : base entry 12 < 2 ^ 52 := by
  have room := base_add_le entry
  omega

theorem index_lt (addr level : Nat) : index addr level < 512 := Nat.mod_lt _ (by decide)

/-- A 4 KiB page the walk reaches starts on a page boundary and ends below `2 ^ 52`. -/
theorem walk_page_bounds {phys : PhysMemory} {addr : Nat} :
    ∀ {level table frame : Nat} {pat : Bool}, walk phys addr level table = .page frame pat →
      frame % 2 ^ 12 = 0 ∧ frame + 2 ^ 12 ≤ 2 ^ 52
  | 0, table, frame, pat, reached => by
      simp only [walk] at reached
      split at reached
      · cases reached
        exact ⟨base_mod _ _, base_add_le _⟩
      · cases reached
  | level + 1, table, frame, pat, reached => by
      simp only [walk] at reached
      split at reached
      · cases reached
      · split at reached
        · exact walk_page_bounds reached
        · split at reached <;> cases reached

/-- The table a walk starts from is the first it reads. -/
theorem mem_tables_self (phys : PhysMemory) (addr level table : Nat) :
    table ∈ tables phys addr level table := by
  cases level <;> simp [tables]

/-- Past a present entry without bit 7 the walk reads the tables of the next level. -/
theorem tables_subset_of_descend (phys : PhysMemory) (addr level table : Nat)
    (present : present (entry phys addr (level + 1) table) = true)
    (noBit7 : bit7 (entry phys addr (level + 1) table) = false) :
    tables phys addr level (base (entry phys addr (level + 1) table) 12) ⊆
      tables phys addr (level + 1) table := by
  intro t reads
  simp only [tables, present, noBit7, Bool.not_false, Bool.and_self, if_true]
  exact List.mem_cons_of_mem _ reads

end Mmu

end OsByRust
