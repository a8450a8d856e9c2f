import Mathlib.Data.Nat.Basic
import Mathlib.Algebra.Order.Group.Nat
import Mathlib.Data.List.Pairwise

/-!
# Address ranges and alignment

A memory allocator hands out half-open ranges of addresses. `Span` is such a range, with
the three relations the allocator proofs need: an address lies in a range, two ranges
share no address, and one range lies within another. `Span.disjoint_iff` and
`Span.within_iff` turn them into arithmetic, which `omega` then decides.

Alignment is divisibility: `roundUp address align` is the least multiple of `align` not
below `address`, the address an allocator starts at when it must honour `align`. Powers of
two divide each other in order of size, which is why a block aligned to a larger power of
two is aligned to every smaller one.
-/

/-- The half-open range of addresses `[start, start + size)`. -/
structure Span where
  start : Nat
  size : Nat
  deriving DecidableEq, Repr

namespace Span

/-- One past the last address of the range. -/
def stop (span : Span) : Nat := span.start + span.size

/-- `address` lies in the range. -/
def Contains (span : Span) (address : Nat) : Prop :=
  span.start ≤ address ∧ address < span.stop

/-- No address lies in both ranges. -/
def Disjoint (first second : Span) : Prop :=
  ∀ address, first.Contains address → ¬second.Contains address

/-- `inner` starts and stops within the bounds of `outer`. -/
def Within (inner outer : Span) : Prop :=
  outer.start ≤ inner.start ∧ inner.stop ≤ outer.stop

@[simp]
theorem stop_eq (span : Span) : span.stop = span.start + span.size := rfl

theorem disjoint_iff {first second : Span} :
    first.Disjoint second ↔
      first.size = 0 ∨ second.size = 0 ∨ first.stop ≤ second.start ∨
        second.stop ≤ first.start := by
  constructor
  · intro apart
    by_contra overlapping
    simp only [stop_eq, not_or, not_le] at overlapping
    rcases overlapping with ⟨firstSize, secondSize, firstBefore, secondBefore⟩
    apply apart (max first.start second.start)
    · simp only [Contains, stop_eq]
      omega
    · simp only [Contains, stop_eq]
      omega
  · intro separated address inFirst inSecond
    simp only [Contains, stop_eq] at inFirst inSecond
    simp only [stop_eq] at separated
    omega

instance (first second : Span) : Decidable (first.Disjoint second) :=
  decidable_of_iff _ disjoint_iff.symm

theorem within_iff {inner outer : Span} :
    inner.Within outer ↔
      outer.start ≤ inner.start ∧ inner.start + inner.size ≤ outer.start + outer.size :=
  Iff.rfl

instance (inner outer : Span) : Decidable (inner.Within outer) :=
  decidable_of_iff _ within_iff.symm

theorem Disjoint.symm {first second : Span} (apart : first.Disjoint second) :
    second.Disjoint first :=
  fun address inSecond inFirst => apart address inFirst inSecond

theorem Disjoint.of_within {inner outer other : Span} (apart : outer.Disjoint other)
    (inside : inner.Within outer) : inner.Disjoint other := by
  intro address inInner inOther
  apply apart address _ inOther
  simp only [Contains, stop_eq, Within] at inInner inside ⊢
  omega

theorem Within.trans {inner middle outer : Span} (first : inner.Within middle)
    (second : middle.Within outer) : inner.Within outer := by
  simp only [Within, stop_eq] at first second ⊢
  omega

theorem not_disjoint_self {span : Span} (nonempty : 0 < span.size) : ¬span.Disjoint span := by
  rw [disjoint_iff]
  simp only [stop_eq]
  omega

end Span

namespace Span

/-- Ranges pairwise disjoint, the shape of every "no byte handed out twice" statement. -/
def PairwiseDisjoint (spans : List Span) : Prop := spans.Pairwise Span.Disjoint

theorem pairwiseDisjoint_cons {span : Span} {spans : List Span} :
    PairwiseDisjoint (span :: spans) ↔
      (∀ other ∈ spans, span.Disjoint other) ∧ PairwiseDisjoint spans :=
  List.pairwise_cons

theorem PairwiseDisjoint.sublist {spans smaller : List Span} (sub : smaller.Sublist spans)
    (apart : PairwiseDisjoint spans) : PairwiseDisjoint smaller :=
  List.Pairwise.sublist sub apart

theorem PairwiseDisjoint.perm {spans reordered : List Span} (perm : spans.Perm reordered)
    (apart : PairwiseDisjoint spans) : PairwiseDisjoint reordered :=
  (List.Perm.pairwise_iff (fun separated => Span.Disjoint.symm separated) perm).mp apart

/-- Ranges inside the ranges of a pairwise disjoint family are pairwise disjoint. -/
theorem PairwiseDisjoint.shrink {ι : Type*} {items : List ι} {outer inner : ι → Span}
    (apart : PairwiseDisjoint (items.map outer))
    (inside : ∀ item ∈ items, (inner item).Within (outer item)) :
    PairwiseDisjoint (items.map inner) := by
  simp only [PairwiseDisjoint, List.pairwise_map] at apart ⊢
  apply apart.imp_of_mem
  intro first second firstMem secondMem separated
  exact ((separated.of_within (inside first firstMem)).symm.of_within
    (inside second secondMem)).symm

theorem PairwiseDisjoint.nodup {ι : Type*} {items : List ι} {span : ι → Span}
    (apart : PairwiseDisjoint (items.map span)) (nonempty : ∀ item ∈ items, 0 < (span item).size) :
    items.Nodup := by
  simp only [PairwiseDisjoint, List.pairwise_map] at apart
  apply apart.imp_of_mem
  rintro first second firstMem - separated rfl
  exact not_disjoint_self (nonempty first firstMem) separated

/-- Cutting one range of a pairwise disjoint list into disjoint pieces inside it keeps the
list pairwise disjoint. -/
theorem PairwiseDisjoint.replace {span : Span} {rest pieces : List Span}
    (apart : PairwiseDisjoint (span :: rest)) (inside : ∀ piece ∈ pieces, piece.Within span)
    (piecesApart : PairwiseDisjoint pieces) : PairwiseDisjoint (pieces ++ rest) := by
  rcases pairwiseDisjoint_cons.mp apart with ⟨spanApart, restApart⟩
  apply List.pairwise_append.mpr
  refine ⟨piecesApart, restApart, ?_⟩
  intro piece pieceMem other otherMem
  exact (spanApart other otherMem).of_within (inside piece pieceMem)

end Span

/-- The least multiple of `align` that is at least `address`, for `0 < align`. -/
def roundUp (address align : Nat) : Nat :=
  if address % align = 0 then address else address + (align - address % align)

section RoundUp

variable {address align : Nat}

theorem roundUp_of_mod_eq_zero (aligned : address % align = 0) :
    roundUp address align = address := by
  simp [roundUp, aligned]

theorem le_roundUp : address ≤ roundUp address align := by
  rw [roundUp]
  split <;> omega

theorem roundUp_mod (address : Nat) (positive : 0 < align) :
    roundUp address align % align = 0 := by
  rw [roundUp]
  split
  · assumption
  · rename_i unaligned
    have remainderLt : address % align < align := Nat.mod_lt _ positive
    have split : address = address / align * align + address % align :=
      (Nat.div_add_mod' address align).symm
    have rounded : address + (align - address % align) = (address / align + 1) * align := by
      rw [Nat.add_mul, one_mul]
      omega
    rw [rounded, Nat.mul_mod_left]

theorem roundUp_lt (address : Nat) (positive : 0 < align) :
    roundUp address align < address + align := by
  rw [roundUp]
  split
  · omega
  · rename_i unaligned
    have := Nat.mod_lt address positive
    omega

/-- No multiple of `align` lies between `address` and `roundUp address align`. -/
theorem roundUp_le_of_mod_eq_zero {multiple : Nat} (positive : 0 < align)
    (aligned : multiple % align = 0) (above : address ≤ multiple) :
    roundUp address align ≤ multiple := by
  by_contra tooLarge
  have lt := roundUp_lt address positive
  obtain ⟨rounded, hrounded⟩ := Nat.dvd_of_mod_eq_zero (roundUp_mod address positive)
  obtain ⟨quotient, hquotient⟩ := Nat.dvd_of_mod_eq_zero aligned
  have quotientLt : quotient < rounded := by
    by_contra notLt
    have := Nat.mul_le_mul_left align (Nat.le_of_not_lt notLt)
    omega
  have := Nat.mul_le_mul_left align (Nat.succ_le_of_lt quotientLt)
  rw [Nat.mul_succ] at this
  omega

/-- Rounding up as a quotient: `(address + align - 1) / align * align`. -/
theorem roundUp_eq_div_mul (positive : 0 < align) :
    roundUp address align = (address + align - 1) / align * align := by
  obtain ⟨rounded, hrounded⟩ := Nat.dvd_of_mod_eq_zero (roundUp_mod address positive)
  have lower : address ≤ roundUp address align := le_roundUp
  have upper := roundUp_lt address positive
  have split : address + align - 1 =
      align * rounded + (address + align - 1 - roundUp address align) := by
    omega
  rw [split, Nat.mul_add_div positive, Nat.div_eq_of_lt (by omega), Nat.add_zero, hrounded,
    Nat.mul_comm]

end RoundUp

/-- Masking a `width`-bit value with the complement of `2 ^ bits - 1` clears its low `bits`
bits, that is, rounds it down to a multiple of `2 ^ bits`. -/
theorem Nat.and_xor_two_pow_sub_one {value width bits : Nat} (fits : value < 2 ^ width)
    (le : bits ≤ width) :
    value &&& ((2 ^ width - 1) ^^^ (2 ^ bits - 1)) = value / 2 ^ bits * 2 ^ bits := by
  apply Nat.eq_of_testBit_eq
  intro i
  rw [Nat.testBit_and, Nat.testBit_xor, Nat.testBit_two_pow_sub_one,
    Nat.testBit_two_pow_sub_one, Nat.testBit_mul_two_pow, Nat.testBit_div_two_pow]
  by_cases high : width ≤ i
  · -- no bit of `value` is set at or above `width`
    have clear : value.testBit i = false :=
      Nat.testBit_lt_two_pow (Nat.lt_of_lt_of_le fits (Nat.pow_le_pow_right (by decide) high))
    rw [Nat.sub_add_cancel (by omega)]
    simp [clear]
  · by_cases low : i < bits
    · simp [low, show i < width by omega]
    · rw [Nat.sub_add_cancel (by omega)]
      simp [low, show i < width by omega, show bits ≤ i by omega]

theorem Nat.isPowerOfTwo.dvd_of_le {small large : Nat} (smallPower : small.isPowerOfTwo)
    (largePower : large.isPowerOfTwo) (le : small ≤ large) : small ∣ large := by
  rcases smallPower with ⟨smallExponent, rfl⟩
  rcases largePower with ⟨largeExponent, rfl⟩
  apply Nat.pow_dvd_pow
  exact (Nat.pow_le_pow_iff_right (by decide)).mp le

theorem Nat.isPowerOfTwo.max {small large : Nat} (smallPower : small.isPowerOfTwo)
    (largePower : large.isPowerOfTwo) : (max small large).isPowerOfTwo := by
  rcases le_total small large with le | le
  · rw [max_eq_right le]
    exact largePower
  · rw [max_eq_left le]
    exact smallPower
