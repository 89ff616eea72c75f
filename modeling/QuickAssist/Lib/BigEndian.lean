import Mathlib.Data.List.GetD
import Mathlib.Data.List.TakeWhile
import Mathlib.Data.Nat.Digits.Defs

/-!
# Numbers in areas of memory, most significant digit first

A number is handed over as a string of words and placed at the end of an area that was cleared. Addresses are those of
the machine, counted from the start of the area, so that a place before the area is a very large address: a copy that
goes wrong is not refused, it only writes elsewhere.
-/

namespace QuickAssist.Lib.BigEndian

open List Nat
open BitVec (ofNat toNat_ofNat)

variable {w a size : ℕ} {off : BitVec a}

/-! ## Values -/

/-- The number that a string of words is, most significant word first. -/
def value (l : List (BitVec w)) : ℕ := ofDigits (2 ^ w) (l.reverse.map BitVec.toNat)

/-- The empty string is zero. -/
@[simp] lemma value_nil : value ([] : List (BitVec w)) = 0 := rfl

/-- Zeros before a string do not count. -/
@[simp] lemma value_replicate_append (n : ℕ) (l : List (BitVec w)) : value (replicate n 0 ++ l) = value l := by
  simp [value]

/-- Only zeros are zero. -/
@[simp] lemma value_replicate (n : ℕ) : value (replicate n (0 : BitVec w)) = 0 := by
  simpa using value_replicate_append n ([] : List (BitVec w))

/-- A string without the zeros that it begins with. -/
def significant (l : List (BitVec w)) : List (BitVec w) := l.dropWhile (· == 0)

section

variable (l : List (BitVec w))

lemma length_significant_le : (significant l).length ≤ l.length := (dropWhile_sublist _).length_le

lemma leftpad_significant : (significant l).leftpad l.length 0 = l := by
  have hzeros : l.takeWhile (· == 0) = replicate (l.takeWhile (· == 0)).length 0 := by
    apply eq_replicate_of_mem
    intro x hx
    simpa using mem_takeWhile_imp hx
  have hlen : l.length - (significant l).length = (l.takeWhile (· == 0)).length := by
    have happend := congrArg length (takeWhile_append_dropWhile (p := (· == 0)) (l := l))
    rw [length_append] at happend
    unfold significant
    omega
  rw [leftpad, hlen, ← hzeros]
  exact takeWhile_append_dropWhile

/-- Dropping leading zeros does not change the number. -/
@[simp] lemma value_significant : value (significant l) = value l := by
  conv_rhs => rw [← leftpad_significant l, leftpad, value_replicate_append]

lemma testBit_value (i : ℕ) {j : ℕ} (hj : j < w) : (value l).testBit (w * i + j) = (l.reverse.getD i 0).getLsbD j := by
  unfold value
  generalize l.reverse = ds
  induction ds generalizing i with
  | nil => simp
  | cons d ds ih =>
    rw [map_cons, ofDigits_cons, Nat.add_comm, testBit_two_pow_mul_add _ d.isLt]
    cases i with
    | zero =>
      rw [Nat.mul_zero, Nat.zero_add, if_pos hj]
      rfl
    | succ i =>
      have hle : ¬ w * (i + 1) + j < w := by
        rw [mul_succ]
        omega
      rw [if_neg hle, show w * (i + 1) + j - w = w * i + j by rw [mul_succ]; omega, ih]
      rfl

end

/-! ## Areas -/

/-- An area of memory, as far as it is written by who owns it. -/
structure Area (w a : ℕ) where
  size : ℕ
  cells : BitVec a → BitVec w
  written : List (BitVec a × ℕ)

/-- A cleared area. -/
def Area.cleared (size : ℕ) : Area w a := ⟨size, fun _ => 0, []⟩

/-- Copy a string to an address. -/
def Area.copy (m : Area w a) (off : BitVec a) (l : List (BitVec w)) : Area w a where
  size := m.size
  cells := fun i => l.getD (i - off).toNat (m.cells i)
  written := m.written ++ [(off, l.length)]

/-- What is in the area. -/
def Area.words (m : Area w a) : List (BitVec w) := (range m.size).map fun i => m.cells (ofNat a i)

/-- Every word that was written is inside of the area. -/
def Area.Inside (m : Area w a) : Prop := ∀ r ∈ m.written, ∀ i < r.2, (r.1 + ofNat a i).toNat < m.size

/-- The area is of the given size, holds the number that `l` is, and all that was written to have it
there is inside of it. -/
structure Area.Carries (m : Area w a) (size : ℕ) (l : List (BitVec w)) : Prop where
  size_eq : m.size = size
  value_eq : value m.words = value l
  inside : m.Inside

/-! ## Placing a string -/

/-- A cleared area with a string copied to an address. -/
def place (size : ℕ) (off : BitVec a) (l : List (BitVec w)) : Area w a := (Area.cleared size).copy off l

/-- What is written is inside of the area exactly if it ends there, where neither is so long that
addresses start again. An empty string can be placed anywhere. -/
lemma inside_place_iff {l : List (BitVec w)} (hfit : size + l.length ≤ 2 ^ a) :
    (place size off l).Inside ↔ l = [] ∨ off.toNat + l.length ≤ size := by
  have haddr : ∀ i < l.length, off.toNat < size → (off + ofNat a i).toNat = off.toNat + i := by
    intro i hi hoff
    rw [BitVec.toNat_add, toNat_ofNat, mod_eq_of_lt (a := i) (by omega), mod_eq_of_lt (by omega)]
  simp only [Area.Inside, place, Area.copy, Area.cleared, nil_append, mem_singleton, forall_eq]
  constructor
  · intro h
    rw [← length_eq_zero_iff, or_iff_not_imp_left]
    intro hpos
    have hfirst : off.toNat < size := by simpa using h 0 (by omega)
    have hlast := h (l.length - 1) (by omega)
    rw [haddr _ (by omega) hfirst] at hlast
    omega
  · rintro (rfl | h) i hi
    · exact absurd hi (Nat.not_lt_zero i)
    · rw [haddr i hi (by omega)]
      omega

lemma words_place {l : List (BitVec w)} (hfit : size < 2 ^ a)
    (hend : off.toNat + l.length = size) : (place size off l).words = replicate off.toNat 0 ++ l := by
  apply ext_getElem
  · simp [Area.words, place, Area.copy, Area.cleared, hend]
  · intro i hi hi'
    have hi : i < size := by simpa [Area.words, place, Area.copy, Area.cleared] using hi
    have haddr : (ofNat a i).toNat = i := by
      rw [toNat_ofNat, mod_eq_of_lt (by omega)]
    simp only [Area.words, place, Area.copy, Area.cleared, getElem_map, getElem_range,
      getElem_append, length_replicate, getElem_replicate]
    split
    next hlt =>
      -- before the string the address wraps around, far behind its end
      have hfar : l.length ≤ (ofNat a i - off).toNat := by
        rw [BitVec.toNat_sub, haddr, mod_eq_of_lt (by omega)]
        omega
      rw [getD_eq_default _ _ hfar]
    next hlt =>
      have hat : (ofNat a i - off).toNat = i - off.toNat := by
        rw [BitVec.toNat_sub_of_le (BitVec.le_def.mpr (by omega)), haddr]
      rw [hat, getD_eq_getElem _ _ (by omega)]

lemma words_place_nil (size : ℕ) (off : BitVec a) :
    (place size off ([] : List (BitVec w))).words = replicate size 0 := by
  apply ext_getElem <;> simp [Area.words, place, Area.copy, Area.cleared]

/-- **What a placed string comes to.** It carries the number if it can only be placed inside by ending where the
area ends. -/
theorem carries_place {l n : List (BitVec w)}
    (hfit : size + l.length ≤ 2 ^ a) (hsize : size < 2 ^ a) (hvalue : value l = value n)
    (hend : off.toNat + l.length ≤ size → off.toNat + l.length = size)
    (h : (place size off l).Inside) : (place size off l).Carries size n := by
  refine ⟨rfl, ?_, h⟩
  rcases (inside_place_iff hfit).mp h with rfl | hle
  · rw [words_place_nil, value_replicate, ← hvalue, value_nil]
  · rw [words_place hsize (hend hle), value_replicate_append, hvalue]

end QuickAssist.Lib.BigEndian
