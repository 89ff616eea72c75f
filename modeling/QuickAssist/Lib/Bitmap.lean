import Mathlib.Algebra.Group.Nat.Defs
import Mathlib.Data.List.Basic

/-!
# Bitmaps in words of 64 bits

A bitmap is a function from word numbers to words, and `bit map i` is bit `i` of it, counted from the lowest bit of
word 0. Everything below is stated about `bit`; that a run of bits crosses words is only seen in the definitions.
-/

namespace QuickAssist.Lib

open Function BitVec List Option Nat

/-- Bit `i` of a bitmap. -/
def bit (map : ℕ → BitVec 64) (i : ℕ) : Bool := (map (i / 64)).getLsbD (i % 64)

/-! ## Writing -/

/-- The word whose `n` lowest bits are set. -/
def lowMask (n : ℕ) : BitVec 64 := BitVec.ofNat 64 (2 ^ n - 1)

/-- Set or clear the bits of a word that are set in a mask. -/
def writeMask (v : Bool) (word mask : BitVec 64) : BitVec 64 := if v then word ||| mask else word &&& ~~~ mask

/-- Set or clear `num` whole words from a word on. -/
def writeWords (v : Bool) : ℕ → ℕ → (ℕ → BitVec 64) → ℕ → BitVec 64
  | 0, _, map => map
  | num + 1, qword, map =>
    writeWords v num (qword + 1)
      (update map qword (if v then BitVec.allOnes 64 else 0))

/-- Set or clear `len` bits from a word on, where the last word may be only partly covered. -/
def writeAligned (v : Bool) (qword len : ℕ) (map : ℕ → BitVec 64) : ℕ → BitVec 64 :=
  let map := writeWords v (len / 64) qword map
  let last := qword + len / 64
  update map last (writeMask v (map last) (lowMask (len % 64)))

/-- Set or clear `len` bits from bit `index` on. -/
def writeRange (v : Bool) (map : ℕ → BitVec 64) (index len : ℕ) : ℕ → BitVec 64 :=
  let qword := index / 64
  let offset := index % 64
  if 0 < offset then
    let width := min len (64 - offset)
    let mask := lowMask width <<< offset
    writeAligned v (qword + 1) (len - width) (update map qword (writeMask v (map qword) mask))
  else writeAligned v qword len map

variable {k : ℕ} (map : ℕ → BitVec 64) (v : Bool)

lemma getLsbD_lowMask {n : ℕ} (hk : k < 64) : (lowMask n).getLsbD k = decide (k < n) := by
  rw [lowMask, getLsbD_ofNat, testBit_two_pow_sub_one]
  simp [hk]

lemma getLsbD_writeMask (word mask : BitVec 64) (hk : k < 64) :
    (writeMask v word mask).getLsbD k = if mask.getLsbD k then v else word.getLsbD k := by
  cases v with
  | true =>
    simp only [writeMask, if_true, getLsbD_or]
    cases mask.getLsbD k <;> simp
  | false =>
    simp only [writeMask, Bool.false_eq_true, if_false, getLsbD_and, getLsbD_not]
    cases mask.getLsbD k <;> simp [hk]

lemma bit_update (q : ℕ) (word : BitVec 64) (i : ℕ) :
    bit (update map q word) i = if i / 64 = q then word.getLsbD (i % 64) else bit map i := by
  by_cases hq : i / 64 = q
  · rw [if_pos hq, bit, hq, update_self]
  · rw [if_neg hq, bit, update_of_ne hq, bit]

lemma bit_writeWords (num qword : ℕ) (map : ℕ → BitVec 64) (i : ℕ) : bit (writeWords v num qword map) i =
      if qword ≤ i / 64 ∧ i / 64 < qword + num then v else bit map i := by
  induction num generalizing qword map with
  | zero =>
    rw [writeWords, if_neg]
    omega
  | succ num ih =>
    have hword : (if v then BitVec.allOnes 64 else 0).getLsbD (i % 64) = v := by
      cases v with
      | true =>
        rw [if_pos rfl, getLsbD_allOnes]
        exact decide_eq_true (mod_lt i (by decide))
      | false => simp
    rw [writeWords, ih, bit_update, hword]
    by_cases hq : i / 64 = qword
    · rw [if_neg (by omega), if_pos hq, if_pos (by omega)]
    · rw [if_neg hq]
      exact if_congr (by omega) rfl rfl

lemma bit_writeAligned (qword len : ℕ) (map : ℕ → BitVec 64) (i : ℕ) : bit (writeAligned v qword len map) i =
      if 64 * qword ≤ i ∧ i < 64 * qword + len then v else bit map i := by
  have hmod : i % 64 < 64 := mod_lt i (by decide)
  rw [writeAligned, bit_update]
  by_cases hlast : i / 64 = qword + len / 64
  · rw [if_pos hlast, getLsbD_writeMask v _ _ hmod, getLsbD_lowMask hmod, ← hlast, ← bit, bit_writeWords]
    by_cases hlow : i % 64 < len % 64
    · rw [if_pos (decide_eq_true hlow), if_pos (by omega)]
    · rw [if_neg (by simpa using hlow), if_neg (by omega), if_neg (by omega)]
  · rw [if_neg hlast, bit_writeWords]
    exact if_congr (by omega) rfl rfl

/-- **What writing does.** -/
theorem bit_writeRange (map : ℕ → BitVec 64) (index len i : ℕ) : bit (writeRange v map index len) i =
      if index ≤ i ∧ i < index + len then v else bit map i := by
  have hmod : i % 64 < 64 := mod_lt i (by decide)
  unfold writeRange
  dsimp only
  split
  · rw [bit_writeAligned, bit_update]
    by_cases hq : i / 64 = index / 64
    · -- the first word, of which only a part is written
      rw [if_neg (by omega), if_pos hq, getLsbD_writeMask v _ _ hmod, getLsbD_shiftLeft, ← hq, ← bit]
      by_cases hlow : i % 64 < index % 64
      · rw [if_neg (by simp [hlow]), if_neg (by omega)]
      · rw [getLsbD_lowMask (by omega)]
        refine if_congr ?_ rfl rfl
        simp only [hmod, hlow, decide_true, decide_false, Bool.not_false, Bool.true_and, decide_eq_true_eq]
        omega
    · rw [if_neg hq]
      exact if_congr (by omega) rfl rfl
  · rw [bit_writeAligned]
    exact if_congr (by omega) rfl rfl

/-! ## Reading -/

/-- The 64 bits from `pos` on. -/
def window (map : ℕ → BitVec 64) (pos : ℕ) : BitVec 64 :=
  if pos % 64 = 0 then map (pos / 64)
  else map (pos / 64) >>> (pos % 64) ||| map (pos / 64 + 1) <<< (64 - pos % 64)

lemma getLsbD_window (pos : ℕ) (hk : k < 64) : (window map pos).getLsbD k = bit map (pos + k) := by
  unfold window
  split
  · rw [bit, show (pos + k) / 64 = pos / 64 by omega, show (pos + k) % 64 = k by omega]
  · rw [getLsbD_or, getLsbD_ushiftRight, getLsbD_shiftLeft]
    by_cases hcross : pos % 64 + k < 64
    · rw [bit, show (pos + k) / 64 = pos / 64 by omega, show (pos + k) % 64 = pos % 64 + k by omega]
      simp [show k < 64 - pos % 64 by omega]
    · rw [bit, show (pos + k) / 64 = pos / 64 + 1 by omega, show (pos + k) % 64 = k - (64 - pos % 64) by omega,
        getLsbD_of_ge _ _ (by omega)]
      simp [show ¬ k < 64 - pos % 64 by omega, hk]

/-- The number of zeros at the low end of a word, 64 if there is nothing else. -/
def ctz (word : BitVec 64) : ℕ := ((List.range 64).find? fun k => word.getLsbD k).getD 64

lemma getLsbD_of_lt_ctz {word : BitVec 64} (hk : k < ctz word) : word.getLsbD k = false := by
  unfold ctz at hk
  cases hfind : (List.range 64).find? fun k => word.getLsbD k with
  | none =>
    rw [hfind, getD_none] at hk
    have hnone := List.find?_eq_none.mp hfind k (mem_range.mpr hk)
    simpa using hnone
  | some j =>
    rw [hfind, getD_some] at hk
    obtain ⟨hj, i, hi, rfl, hbefore⟩ := List.find?_eq_some_iff_getElem.mp hfind
    rw [getElem_range] at hk
    have hclear := hbefore k hk
    simpa using hclear

lemma ctz_le (word : BitVec 64) : ctz word ≤ 64 := by
  unfold ctz
  cases hfind : (List.range 64).find? fun k => word.getLsbD k with
  | none => exact Nat.le_refl 64
  | some j =>
    have hmem := mem_range.mp (mem_of_find?_eq_some hfind)
    exact Nat.le_of_lt hmem

lemma ctz_zero : ctz 0 = 64 := by
  decide

/-- Behind the zeros at the low end of a word comes a one, if there is one at all. -/
lemma getLsbD_ctz {word : BitVec 64} (hword : word ≠ 0) : ctz word < 64 ∧ word.getLsbD (ctz word) = true := by
  cases hfind : (List.range 64).find? fun k => word.getLsbD k with
  | none =>
    refine absurd (eq_of_getLsbD_eq fun k hk => ?_) hword
    have hnone := List.find?_eq_none.mp hfind k (mem_range.mpr hk)
    simpa using hnone
  | some j =>
    have hctz : ctz word = j := by
      rw [ctz, hfind, getD_some]
    rw [hctz]
    exact ⟨mem_range.mp (mem_of_find?_eq_some hfind), List.find?_some hfind⟩

/-! ## The low part of a word -/

section Low

variable {x y : BitVec 64} {n : ℕ}

lemma toNat_and_lowMask (x : BitVec 64) (hn : n ≤ 64) : (x &&& lowMask n).toNat = x.toNat % 2 ^ n := by
  have hle : 2 ^ n ≤ 2 ^ 64 := Nat.pow_le_pow_right (by decide) hn
  rw [toNat_and, lowMask, toNat_ofNat, mod_eq_of_lt (by omega), and_two_pow_sub_one_eq_mod]

lemma toNat_and_not_lowMask (x : BitVec 64) (hn : n ≤ 64) :
    (x &&& ~~~ lowMask n).toNat = 2 ^ n * (x.toNat / 2 ^ n) := by
  apply eq_of_testBit_eq
  intro i
  rw [testBit_toNat, getLsbD_and, getLsbD_not, testBit_two_pow_mul, testBit_div_two_pow, testBit_toNat]
  by_cases hi : i < 64
  · rw [getLsbD_lowMask hi, decide_eq_true hi]
    by_cases hlow : i < n
    · simp [hlow, Nat.not_le_of_lt hlow]
    · simp [hlow, Nat.le_of_not_lt hlow]
  · by_cases hlow : n ≤ i
    · rw [Nat.sub_add_cancel hlow, getLsbD_of_ge x i (Nat.le_of_not_lt hi)]
      simp
    · omega

/-- A word whose low part is clear, and one that is no more than a low part, are put together by
adding them. -/
lemma add_eq_or_of_low (hx : 2 ^ n ∣ x.toNat) (hy : y.toNat < 2 ^ n) : x + y = x ||| y := by
  apply add_eq_or_of_and_eq_zero
  apply eq_of_getLsbD_eq
  intro i _
  rw [getLsbD_and, ← testBit_toNat, ← testBit_toNat]
  by_cases hi : i < n
  · obtain ⟨c, hc⟩ := hx
    rw [hc, testBit_two_pow_mul]
    simp [Nat.not_le_of_lt hi]
  · have hlt : y.toNat < 2 ^ i := Nat.lt_of_lt_of_le hy (Nat.pow_le_pow_right (by decide) (Nat.le_of_not_lt hi))
    rw [testBit_lt_two_pow hlt]
    simp

lemma toNat_or_of_low (hx : 2 ^ n ∣ x.toNat) (hy : y.toNat < 2 ^ n) : (x ||| y).toNat = x.toNat + y.toNat := by
  obtain ⟨c, hc⟩ := hx
  rw [toNat_or, hc, ← two_pow_add_eq_or_of_lt hy]

lemma or_and_not_lowMask (hn : n ≤ 64) (hx : 2 ^ n ∣ x.toNat) (hy : y.toNat < 2 ^ n) :
    (x ||| y) &&& ~~~ lowMask n = x := by
  apply eq_of_toNat_eq
  rw [toNat_and_not_lowMask _ hn, toNat_or_of_low hx hy]
  obtain ⟨c, hc⟩ := hx
  rw [hc, mul_add_div (Nat.two_pow_pos n), div_eq_of_lt hy, Nat.add_zero]

lemma or_and_lowMask {m : ℕ} (hm : m ≤ n) (hn : n ≤ 64) (hx : 2 ^ n ∣ x.toNat)
    (hy : y.toNat < 2 ^ m) : (x ||| y) &&& lowMask m = y := by
  have hy' : y.toNat < 2 ^ n := Nat.lt_of_lt_of_le hy (Nat.pow_le_pow_right (by decide) hm)
  apply eq_of_toNat_eq
  rw [toNat_and_lowMask _ (Nat.le_trans hm hn), toNat_or_of_low hx hy']
  obtain ⟨c, hc⟩ := Nat.dvd_trans (Nat.pow_dvd_pow 2 hm) hx
  rw [hc, mul_add_mod, mod_eq_of_lt hy]

lemma dvd_toNat_add (hn : n ≤ 64) (hx : 2 ^ n ∣ x.toNat) (hy : 2 ^ n ∣ y.toNat) : 2 ^ n ∣ (x + y).toNat := by
  exact (dvd_mod_iff (Nat.pow_dvd_pow 2 hn)).mpr (Nat.dvd_add hx hy)

end Low

end QuickAssist.Lib
