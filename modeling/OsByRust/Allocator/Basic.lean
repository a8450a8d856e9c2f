import OsByRust.Lib.Span

/-!
# Layouts, `usize` arithmetic and `align_up`

The three heap allocators of `src/allocator` work on addresses and sizes of type `usize`
and receive their requests as a `core::alloc::Layout`. Here addresses are natural numbers
below `2 ^ 64`. Every addition that the source writes with `+` is checked against
`usize::MAX`: `Cargo.toml` builds the kernel with the default `dev` profile, in which an
overflowing `usize` addition panics; `checked_add` is modelled by `checkedAdd`. A call
that panics returns `Except.error` with the reason, so that a property can say which
panics a run can meet (an assertion of the allocator, or only an arithmetic overflow on
an address at the very top of the address space).

`Layout` follows the documented contract of `core::alloc::Layout`: the alignment is a power
of two, and the size rounded up to the alignment does not exceed `isize::MAX`. The two
fields that state this make an invalid layout impossible to build, as in Rust.
-/

namespace OsByRust

/-- `usize::MAX` on x86_64. -/
def usizeMax : Nat := 2 ^ 64 - 1

/-- `isize::MAX` on x86_64. -/
def isizeMax : Nat := 2 ^ 63 - 1

namespace Allocator

/-- `HEAP_START`: the virtual address at which `init_heap` maps the kernel heap. -/
def heapStart : Nat := 0x4444_4444_0000

/-- `HEAP_SIZE`: 128 KiB. -/
def heapSize : Nat := 128 * 1024

end Allocator

/-- The panics a modelled call can end in. -/
inductive Panic where
  /-- An overflowing `usize` addition (`attempt to add with overflow`). -/
  | addWithOverflow
  /-- An underflowing `usize` subtraction (`attempt to subtract with overflow`). -/
  | subtractWithOverflow
  /-- A `%` by zero (`attempt to calculate the remainder with a divisor of zero`). -/
  | remainderWithDivisorOfZero
  /-- `assert_eq!(align_up(addr, mem::align_of::<ListNode>()), addr)` in `add_free_region`. -/
  | freeRegionMisaligned
  /-- `assert!(size >= mem::size_of::<ListNode>())` in `add_free_region`. -/
  | freeRegionTooSmall
  /-- `.expect("adjusting alignment failed")` in `size_align`. -/
  | adjustingAlignmentFailed
  /-- `.expect("overflow")` in `LinkedListAllocator::alloc`. -/
  | overflow
  /-- `NonNull::new(ptr).unwrap()` on a null pointer. -/
  | unwrapOnNone
  /-- `PhysAddr::new` on an address with a bit in the range 52 to 64 set. -/
  | physAddrNotValid
  /-- An array index past the end (`index out of bounds`). -/
  | indexOutOfBounds
  deriving DecidableEq, Repr

/-- `a.checked_add(b)` on `usize`. -/
def checkedAdd (a b : Nat) : Option Nat :=
  if a + b ≤ usizeMax then some (a + b) else none

/-- `a + b` on `usize` in the `dev` profile. -/
def usizeAdd (a b : Nat) : Except Panic Nat :=
  if a + b ≤ usizeMax then .ok (a + b) else .error .addWithOverflow

/-- `a - b` on `usize` in the `dev` profile. -/
def usizeSub (a b : Nat) : Except Panic Nat :=
  if b ≤ a then .ok (a - b) else .error .subtractWithOverflow

theorem checkedAdd_eq_some {a b sum : Nat} :
    checkedAdd a b = some sum ↔ a + b ≤ usizeMax ∧ sum = a + b := by
  rw [checkedAdd]
  split <;> simp_all [eq_comm]

theorem usizeAdd_eq_ok {a b sum : Nat} :
    usizeAdd a b = .ok sum ↔ a + b ≤ usizeMax ∧ sum = a + b := by
  rw [usizeAdd]
  split
  · simp_all [eq_comm]
  · simp_all only [not_le, reduceCtorEq, false_iff, not_and]
    omega

theorem usizeSub_eq_ok {a b difference : Nat} :
    usizeSub a b = .ok difference ↔ b ≤ a ∧ difference = a - b := by
  rw [usizeSub]
  split
  · simp_all [eq_comm]
  · simp_all

/-- `core::alloc::Layout`. -/
structure Layout where
  size : Nat
  align : Nat
  align_isPowerOfTwo : align.isPowerOfTwo
  size_le : size + (align - 1) ≤ isizeMax
  deriving DecidableEq

namespace Layout

/-- `Layout::from_size_align`, `none` where Rust returns `Err(LayoutError)`. -/
def fromSizeAlign (size align : Nat) : Option Layout :=
  if valid : align.isPowerOfTwo ∧ size + (align - 1) ≤ isizeMax then
    some ⟨size, align, valid.1, valid.2⟩
  else none

/-- `Layout::align_to`: the same size with alignment `max self.align() align`. -/
def alignTo (layout : Layout) (align : Nat) : Option Layout :=
  fromSizeAlign layout.size (max layout.align align)

theorem align_pos (layout : Layout) : 0 < layout.align :=
  Nat.pos_of_isPowerOfTwo layout.align_isPowerOfTwo

theorem align_le (layout : Layout) : layout.align ≤ isizeMax + 1 := by
  have := layout.size_le
  omega

private theorem add_align_le_of_mod_eq_zero {value align : Nat} (power : align.isPowerOfTwo)
    (alignLe : align ≤ isizeMax + 1) (aligned : value % align = 0) (bounded : value ≤ isizeMax) :
    value + (align - 1) ≤ isizeMax := by
  have alignDvd : align ∣ isizeMax + 1 := by
    apply power.dvd_of_le ⟨63, rfl⟩ alignLe
  rcases Nat.dvd_of_mod_eq_zero aligned with ⟨quotient, hquotient⟩
  rcases alignDvd with ⟨total, htotal⟩
  have positive := Nat.pos_of_isPowerOfTwo power
  have quotientLt : quotient < total := by
    by_contra notLt
    have := Nat.mul_le_mul_left align (Nat.le_of_not_lt notLt)
    omega
  have := Nat.mul_le_mul_left align (Nat.succ_le_of_lt quotientLt)
  rw [Nat.mul_succ] at this
  omega

/-- `Layout::pad_to_align`: the size rounded up to a multiple of the alignment. The Rust
function cannot fail, and neither can this one: the padded size still fits. -/
def padToAlign (layout : Layout) : Layout where
  size := roundUp layout.size layout.align
  align := layout.align
  align_isPowerOfTwo := layout.align_isPowerOfTwo
  size_le := by
    have positive := layout.align_pos
    have lt := roundUp_lt layout.size positive
    apply add_align_le_of_mod_eq_zero layout.align_isPowerOfTwo layout.align_le
      (roundUp_mod layout.size positive)
    have := layout.size_le
    omega

@[simp]
theorem padToAlign_size (layout : Layout) :
    layout.padToAlign.size = roundUp layout.size layout.align := rfl

@[simp]
theorem padToAlign_align (layout : Layout) : layout.padToAlign.align = layout.align := rfl

theorem fromSizeAlign_eq_some {size align : Nat} {layout : Layout} :
    fromSizeAlign size align = some layout ↔
      align.isPowerOfTwo ∧ size + (align - 1) ≤ isizeMax ∧
        layout.size = size ∧ layout.align = align := by
  rw [fromSizeAlign]
  split
  · rename_i valid
    simp only [Option.some.injEq, valid, true_and]
    constructor
    · rintro rfl
      exact ⟨rfl, rfl⟩
    · rintro ⟨sameSize, sameAlign⟩
      cases layout
      simp_all
  · rename_i invalid
    simp only [reduceCtorEq, false_iff]
    rintro ⟨power, bounded, -, -⟩
    exact invalid ⟨power, bounded⟩

theorem alignTo_eq_some {layout adjusted : Layout} {align : Nat} :
    layout.alignTo align = some adjusted →
      adjusted.size = layout.size ∧ adjusted.align = max layout.align align := by
  intro aligned
  rcases fromSizeAlign_eq_some.mp aligned with ⟨-, -, sameSize, sameAlign⟩
  exact ⟨sameSize, sameAlign⟩

end Layout

/-- A call a client makes on a `GlobalAlloc`: `alloc(layout)` or `dealloc(ptr, layout)`. -/
inductive AllocatorCall where
  | alloc (layout : Layout)
  | dealloc (ptr : Nat) (layout : Layout)

/-- `align_up` of `src/allocator.rs`: the remainder method, in which `addr + align` is a
`usize` addition. -/
def alignUp (addr align : Nat) : Except Panic Nat :=
  if align = 0 then .error .remainderWithDivisorOfZero
  else
    let remainder := addr % align
    if remainder = 0 then .ok addr
    else do
      let sum ← usizeAdd addr align
      return sum - remainder

/-- Whenever `align_up` returns, it returns the least multiple of `align` not below `addr`. -/
theorem alignUp_eq_ok {addr align result : Nat} (returned : alignUp addr align = .ok result) :
    0 < align ∧ result = roundUp addr align := by
  rw [alignUp] at returned
  split at returned
  · cases returned
  · rename_i nonzero
    refine ⟨Nat.pos_of_ne_zero nonzero, ?_⟩
    simp only at returned
    split at returned
    · rename_i aligned
      cases returned
      exact (roundUp_of_mod_eq_zero aligned).symm
    · rename_i unaligned
      cases added : usizeAdd addr align with
      | error reason => simp [added] at returned
      | ok sum =>
          simp only [added, bind, Except.bind, pure, Except.pure, Except.ok.injEq] at returned
          rcases usizeAdd_eq_ok.mp added with ⟨-, rfl⟩
          subst returned
          rw [roundUp]
          simp only [unaligned, if_false]
          have := Nat.mod_lt addr (Nat.pos_of_ne_zero nonzero)
          omega

theorem alignUp_of_mod_eq_zero {addr align : Nat} (positive : 0 < align)
    (aligned : addr % align = 0) : alignUp addr align = .ok addr := by
  simp [alignUp, Nat.pos_iff_ne_zero.mp positive, aligned]

/-- `align_up` returns when `addr + align` fits in a `usize`. -/
theorem alignUp_of_fits {addr align : Nat} (positive : 0 < align)
    (fits : addr + align ≤ usizeMax) : alignUp addr align = .ok (roundUp addr align) := by
  by_cases aligned : addr % align = 0
  · rw [alignUp_of_mod_eq_zero positive aligned, roundUp_of_mod_eq_zero aligned]
  · have added : usizeAdd addr align = .ok (addr + align) := usizeAdd_eq_ok.mpr ⟨fits, rfl⟩
    have remainderLt := Nat.mod_lt addr positive
    simp only [alignUp, Nat.pos_iff_ne_zero.mp positive, aligned, if_false, added, bind,
      Except.bind, pure, Except.pure, roundUp, Except.ok.injEq]
    omega

/-- For a power-of-two `align` the bound `addr + align - 1 <= usize::MAX` is enough: at
`addr + align = usize::MAX + 1` the alignment divides `addr`, and `align_up` returns `addr`
without adding. -/
theorem alignUp_of_isPowerOfTwo {addr align : Nat} (power : align.isPowerOfTwo)
    (fits : addr + align - 1 ≤ usizeMax) : alignUp addr align = .ok (roundUp addr align) := by
  have positive := Nat.pos_of_isPowerOfTwo power
  by_cases aligned : addr % align = 0
  · rw [alignUp_of_mod_eq_zero positive aligned, roundUp_of_mod_eq_zero aligned]
  · apply alignUp_of_fits positive
    by_contra atTop
    have dvd : align ∣ usizeMax + 1 := power.dvd_of_le ⟨64, rfl⟩ (by omega)
    have below : addr = (usizeMax + 1) - align := by omega
    apply aligned
    rw [below]
    exact Nat.mod_eq_zero_of_dvd (Nat.dvd_sub dvd (Nat.dvd_refl align))

/-- The second method the comment in `align_up` keeps, `(addr + align - 1) & !(align - 1)`,
with its `usize` arithmetic: `!` is the complement of a 64-bit word. -/
def alignUpMask (addr align : Nat) : Except Panic Nat := do
  let sum ← usizeAdd addr align
  let last ← usizeSub sum 1
  let low ← usizeSub align 1
  return last &&& (usizeMax ^^^ low)

/-- For a power-of-two `align`, the bitmask method rounds up as the remainder method does,
as long as `addr + align` fits. -/
theorem alignUpMask_of_isPowerOfTwo {addr align : Nat} (power : align.isPowerOfTwo)
    (fits : addr + align ≤ usizeMax) : alignUpMask addr align = .ok (roundUp addr align) := by
  obtain ⟨bits, rfl⟩ := power
  have positive := Nat.two_pow_pos bits
  have bitsLe : bits ≤ 64 := by
    by_contra tooWide
    have := Nat.pow_le_pow_right (show 0 < 2 by decide) (show 64 ≤ bits by omega)
    rw [usizeMax] at fits
    omega
  have added : usizeAdd addr (2 ^ bits) = .ok (addr + 2 ^ bits) := usizeAdd_eq_ok.mpr ⟨fits, rfl⟩
  have last : usizeSub (addr + 2 ^ bits) 1 = .ok (addr + 2 ^ bits - 1) :=
    usizeSub_eq_ok.mpr ⟨by omega, rfl⟩
  have low : usizeSub (2 ^ bits) 1 = .ok (2 ^ bits - 1) := usizeSub_eq_ok.mpr ⟨by omega, rfl⟩
  simp only [alignUpMask, added, last, low, bind, Except.bind, pure, Except.pure,
    Except.ok.injEq]
  rw [usizeMax, Nat.and_xor_two_pow_sub_one (by rw [usizeMax] at fits; omega) bitsLe,
    roundUp_eq_div_mul positive]

/-- Past `usize::MAX` the addition of `align_up` overflows, whenever `align` does not divide
`addr`. -/
theorem alignUp_of_overflow {addr align : Nat} (positive : 0 < align)
    (unaligned : addr % align ≠ 0) (overflows : usizeMax < addr + align) :
    alignUp addr align = .error .addWithOverflow := by
  have overflowed : usizeAdd addr align = .error .addWithOverflow := by
    simp only [usizeAdd, if_neg (Nat.not_le.mpr overflows)]
  simp only [alignUp, Nat.pos_iff_ne_zero.mp positive, unaligned, if_false, overflowed, bind,
    Except.bind]

/-- The bitmask method overflows as soon as `addr + align` does not fit. -/
theorem alignUpMask_of_overflow {addr align : Nat} (overflows : usizeMax < addr + align) :
    alignUpMask addr align = .error .addWithOverflow := by
  have overflowed : usizeAdd addr align = .error .addWithOverflow := by
    simp only [usizeAdd, if_neg (Nat.not_le.mpr overflows)]
  simp only [alignUpMask, overflowed, bind, Except.bind]

theorem alignUp_least_multiple {addr align : Nat} (positive : 0 < align)
    (fits : addr + align - 1 ≤ usizeMax) :
    alignUp addr align =
        (if addr + align = usizeMax + 1 ∧ addr % align ≠ 0 then .error .addWithOverflow
          else .ok (roundUp addr align)) ∧
      roundUp addr align % align = 0 ∧ addr ≤ roundUp addr align ∧
      (∀ multiple, multiple % align = 0 → addr ≤ multiple → roundUp addr align ≤ multiple) ∧
      (align.isPowerOfTwo → alignUp addr align = .ok (roundUp addr align) ∧
        alignUpMask addr align =
          if addr + align ≤ usizeMax then .ok (roundUp addr align)
          else .error .addWithOverflow) := by
  refine ⟨?_, roundUp_mod addr positive, le_roundUp, ?_, ?_⟩
  · split
    · rename_i atTop
      exact alignUp_of_overflow positive atTop.2 (by omega)
    · rename_i notAtTop
      by_cases aligned : addr % align = 0
      · rw [alignUp_of_mod_eq_zero positive aligned, roundUp_of_mod_eq_zero aligned]
      · exact alignUp_of_fits positive (by omega)
  · intro multiple aligned above
    exact roundUp_le_of_mod_eq_zero positive aligned above
  · intro power
    refine ⟨alignUp_of_isPowerOfTwo power fits, ?_⟩
    split
    · rename_i inRange
      exact alignUpMask_of_isPowerOfTwo power inRange
    · rename_i overflows
      exact alignUpMask_of_overflow (Nat.not_le.mp overflows)

theorem alignUp_least_multiple_heapStart :
    0 < 8 ∧ Allocator.heapStart + 8 - 1 ≤ usizeMax ∧
      alignUp Allocator.heapStart 8 = .ok (roundUp Allocator.heapStart 8) ∧
      alignUpMask Allocator.heapStart 8 = .ok (roundUp Allocator.heapStart 8) := by
  have power : Nat.isPowerOfTwo 8 := by decide
  have facts := (alignUp_least_multiple (show 0 < 8 by decide)
    (show Allocator.heapStart + 8 - 1 ≤ usizeMax by decide)).2.2.2.2 power
  refine ⟨by decide, by decide, facts.1, ?_⟩
  rw [facts.2, if_pos (by decide)]

/-- At `addr + align = usize::MAX + 1`, which `addr + align - 1 <= usize::MAX` allows, the
addition overflows: in `align_up` when `align` does not divide `addr` (here `align = 3`),
and in the bitmask method always (here `align = 8`, where `align_up` returns `addr`). -/
theorem alignUp_overflow_at_top :
    (usizeMax - 2) + 3 - 1 ≤ usizeMax ∧ alignUp (usizeMax - 2) 3 = .error .addWithOverflow ∧
      (usizeMax - 7) + 8 - 1 ≤ usizeMax ∧ alignUp (usizeMax - 7) 8 = .ok (usizeMax - 7) ∧
      alignUpMask (usizeMax - 7) 8 = .error .addWithOverflow := by
  refine ⟨by decide, by rfl, by decide, by rfl, by rfl⟩

end OsByRust
