import QuickAssist.UserRing.Ring

/-!
# How large a ring is

`validateRingSize` is asked for room for a number of messages and answers with a power of two from 1 KB to 4 MB. It does
not fail: for numbers that it takes to be wrong it answers with 16 KB, and where 4 MB are not enough it answers with
4 MB all the same. Where the product of the two numbers is not an `uint32_t` it wraps around, and the answer has nothing
to do with it.
-/

namespace QuickAssist.UserRing

open Lib Nat

/-- Numbers that are not taken to be wrong. A message has a multiple of 16 bytes, since the shift that
`modulo` is given here is 4. -/
def ValidRequest (num msgSize : ℕ) : Prop := num ≠ 0 ∧ msgSize ≠ 0 ∧ msgSize % 16 = 0
  deriving Decidable

def EnoughFor (bytes : ℕ) : Set ℕ := {b | (∃ j, 10 ≤ j ∧ j ≤ 22 ∧ b = 2 ^ j) ∧ bytes ≤ b}

lemma sizeToBytes_eq (k : ℕ) : sizeToBytes (ringsizeKilo1 + k) = 2 ^ (10 + k) := by
  rw [sizeToBytes, ringsizeKilo1, shiftLeft_eq, show 10 + k = 6 + (4 + k) by omega, Nat.pow_add 2 6]

section Sizing

variable {num msgSize : ℕ}

lemma ValidRequest.pos (h : ValidRequest num msgSize) : 0 < num * msgSize :=
  Nat.mul_pos (Nat.pos_of_ne_zero h.1) (Nat.pos_of_ne_zero h.2.1)

lemma not_validRequest_iff : (num = 0 ∨ msgSize = 0 ∨ modulo msgSize 4 ≠ 0) ↔ ¬ ValidRequest num msgSize := by
  rw [modulo_eq, ValidRequest]
  omega

lemma validateRingSize_of_not_valid (h : ¬ ValidRequest num msgSize) :
    validateRingSize num msgSize = (ringsizeKilo1 + 4, 10 + 4) := by
  simp only [validateRingSize]
  rw [if_pos (not_validRequest_iff.mpr h)]
  rfl

lemma validateRingSize_of_large (h : ValidRequest num msgSize) (hword : num * msgSize < 2 ^ 32)
    (hlarge : 2 ^ 22 < num * msgSize) : validateRingSize num msgSize = (ringsizeKilo1 + 12, 10 + 12) := by
  have hwrap : u32 (num * msgSize) = num * msgSize := mod_eq_of_lt hword
  have hmax : ¬ num * msgSize ≤ sizeToBytes ringsizeMeg4 := by
    have hmeg : sizeToBytes ringsizeMeg4 = 2 ^ 22 := rfl
    omega
  simp only [validateRingSize, hwrap]
  rw [if_neg (not_not.mpr h ∘ not_validRequest_iff.mp), if_neg hmax]
  rfl

lemma validateRingSize_of_small (h : ValidRequest num msgSize) (hsmall : num * msgSize ≤ 2 ^ 22) :
    validateRingSize num msgSize =
      (ringsizeKilo1 + size ((num * msgSize - 1) / 2 ^ 10), 10 + size ((num * msgSize - 1) / 2 ^ 10)) := by
  have hpos := h.pos
  have hwrap : u32 (num * msgSize) = num * msgSize := mod_eq_of_lt (by omega)
  have hsub : u32 (num * msgSize + 2 ^ 32 - 1) = num * msgSize - 1 := by
    unfold u32
    omega
  have hmax : num * msgSize ≤ sizeToBytes ringsizeMeg4 := hsmall
  simp only [validateRingSize, hwrap]
  rw [if_neg (not_not.mpr h ∘ not_validRequest_iff.mp), if_pos hmax, hsub, shiftRight_eq_div_pow,
    kSizeLoop_eq, Nat.zero_add]

lemma exists_validateRingSize_eq (num msgSize : ℕ) :
    ∃ k ≤ 22, validateRingSize num msgSize = (ringsizeKilo1 + k, 10 + k) := by
  by_cases h : ValidRequest num msgSize
  · simp only [validateRingSize]
    rw [if_neg (not_not.mpr h ∘ not_validRequest_iff.mp)]
    split
    next =>
      refine ⟨_, ?_, rfl⟩
      rw [kSizeLoop_eq, Nat.zero_add, size_le, shiftRight_eq_div_pow, Nat.div_lt_iff_lt_mul (by decide)]
      exact mod_lt _ (by decide)
    next => exact ⟨12, by decide, rfl⟩
  · exact ⟨4, by decide, validateRingSize_of_not_valid h⟩

lemma numSlots_lt (num msgSize : ℕ) : sizeToBytes (validateRingSize num msgSize).1 / msgSize < 2 ^ 32 := by
  by_cases h : ValidRequest num msgSize
  · obtain ⟨k, hk, heq⟩ := exists_validateRingSize_eq num msgSize
    have hpow : 2 ^ (10 + k) ≤ 2 ^ 32 := Nat.pow_le_pow_right (by decide) (by omega)
    have hmsg : 2 ≤ msgSize := by
      have hne := h.2.1
      have hmod := h.2.2
      omega
    rw [heq, sizeToBytes_eq, Nat.div_lt_iff_lt_mul (by omega)]
    calc 2 ^ (10 + k) ≤ 2 ^ 32 := hpow
      _ < 2 ^ 32 * 2 := by decide
      _ ≤ 2 ^ 32 * msgSize := Nat.mul_le_mul_left _ hmsg
  · rw [validateRingSize_of_not_valid h, sizeToBytes_eq]
    exact (Nat.div_le_self _ _).trans_lt (by decide)

/-- **The smallest size that is enough.** -/
theorem validateRingSize_least (h : ValidRequest num msgSize) (hsmall : num * msgSize ≤ 2 ^ 22) :
    IsLeast (EnoughFor (num * msgSize)) (sizeToBytes (validateRingSize num msgSize).1) := by
  rw [validateRingSize_of_small h hsmall, sizeToBytes_eq]
  -- the digits are fewer than `n` exactly if `2 ^ (10 + n)` is enough
  have hsize : ∀ n, size ((num * msgSize - 1) / 2 ^ 10) ≤ n ↔ num * msgSize - 1 < 2 ^ (10 + n) := by
    intro n
    rw [size_le, Nat.div_lt_iff_lt_mul (by decide), Nat.pow_add, Nat.mul_comm (2 ^ n)]
  have hpos := h.pos
  refine ⟨⟨⟨_, Nat.le_add_right 10 _, ?_, rfl⟩, ?_⟩, ?_⟩
  · have hle := (hsize 12).mpr (by omega)
    omega
  · have hlt := (hsize _).mp le_rfl
    omega
  · rintro b ⟨⟨j, hj, -, rfl⟩, henough⟩
    apply Nat.pow_le_pow_right (by decide)
    have hle := (hsize (j - 10)).mpr (by rw [Nat.add_sub_cancel' hj]; omega)
    omega

/-- **The shift that comes with a size.** -/
theorem modulo_validateRingSize (hword : num * msgSize < 2 ^ 32) (x : ℕ) :
    modulo x (validateRingSize num msgSize).2 = x % sizeToBytes (validateRingSize num msgSize).1 := by
  rw [modulo_eq]
  by_cases h : ValidRequest num msgSize
  · by_cases hsmall : num * msgSize ≤ 2 ^ 22
    · rw [validateRingSize_of_small h hsmall, sizeToBytes_eq]
    · rw [validateRingSize_of_large h hword (by omega), sizeToBytes_eq]
  · rw [validateRingSize_of_not_valid h, sizeToBytes_eq]

/-- **How large a ring is:** the smallest size that is enough, 4 MB if none is, and 16 KB if the numbers are
taken to be wrong. -/
theorem ring_size_by_request (num msgSize : ℕ) (hword : num * msgSize < 2 ^ 32) :
    (ValidRequest num msgSize → num * msgSize ≤ 2 ^ 22 →
      IsLeast (EnoughFor (num * msgSize)) (sizeToBytes (validateRingSize num msgSize).1)) ∧
    (ValidRequest num msgSize → 2 ^ 22 < num * msgSize → sizeToBytes (validateRingSize num msgSize).1 = 2 ^ 22) ∧
    (¬ ValidRequest num msgSize → sizeToBytes (validateRingSize num msgSize).1 = 2 ^ 14) ∧
    ∀ x < 2 ^ 32, modulo x (validateRingSize num msgSize).2 = x % sizeToBytes (validateRingSize num msgSize).1 := by
  refine ⟨validateRingSize_least, fun h hlarge => ?_, fun h => ?_, fun x _ => ?_⟩
  · rw [validateRingSize_of_large h hword hlarge, sizeToBytes_eq]
  · rw [validateRingSize_of_not_valid h, sizeToBytes_eq]
  · exact modulo_validateRingSize hword x

/-- Room for 64 messages of 128 bytes is 8 KB. -/
theorem ring_size_64_128 : 64 * 128 < 2 ^ 32 ∧ IsLeast (EnoughFor 8192) (sizeToBytes (validateRingSize 64 128).1) :=
  ⟨by decide, (ring_size_by_request 64 128 (by decide)).1 (by decide) (by decide)⟩

/-- **What is not so.** Room for 65536 messages of 128 bytes is asked for, which is 8 MB, and the answer is
half of that. -/
theorem ring_size_cut :
    ValidRequest 65536 128 ∧ ¬ IsLeast (EnoughFor (65536 * 128)) (sizeToBytes (validateRingSize 65536 128).1) := by
  refine ⟨by decide, ?_⟩
  rintro ⟨⟨-, henough⟩, -⟩
  exact absurd henough (by decide)

end Sizing

end QuickAssist.UserRing
