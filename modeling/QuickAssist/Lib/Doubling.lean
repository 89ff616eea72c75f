import Mathlib.Algebra.Field.ZMod
import Mathlib.RingTheory.AdjoinRoot

/-!
# Doubling in a field of characteristic two

The words of `w` bits are the polynomials over `ZMod 2` of degree less than `w`. Shifting a word, and adding `r` where
a bit was shifted out, is multiplication by `x` modulo `X ^ w + r`.
-/

namespace QuickAssist.Lib.Doubling

open Polynomial

variable {w : ℕ}

def double (r b : BitVec w) : BitVec w := if b.msb then b <<< 1 ^^^ r else b <<< 1

lemma getLsbD_double (r b : BitVec w) (i : ℕ) :
    (double r b).getLsbD i = ((decide (i < w) && decide (0 < i) && b.getLsbD (i - 1)) ^^ (b.msb && r.getLsbD i)) := by
  unfold double
  split
  next hmsb => simp [hmsb, Nat.pos_iff_ne_zero]
  next hmsb => simp [hmsb, Nat.pos_iff_ne_zero]

noncomputable def poly (b : BitVec w) : (ZMod 2)[X] := ∑ i ∈ Finset.range w, C (if b.getLsbD i then 1 else 0) * X ^ i

lemma coeff_poly (b : BitVec w) (i : ℕ) : (poly b).coeff i = if b.getLsbD i then 1 else 0 := by
  simp only [poly, finsetSum_coeff, coeff_C_mul, coeff_X_pow, mul_ite, mul_one, mul_zero,
    Finset.sum_ite_eq, Finset.mem_range]
  split
  · rfl
  · rw [BitVec.getLsbD_of_ge b i (by omega)]
    rfl

/-- **Doubling is multiplication by `X`**, up to a multiple of the modulus. -/
theorem poly_double (r b : BitVec w) : poly (double r b) = X * poly b + if b.msb then X ^ w + poly r else 0 := by
  have hxor (p q : Bool) : (if p ^^ q then (1 : ZMod 2) else 0) = (if p then 1 else 0) + if q then 1 else 0 := by
    revert p q
    decide
  have hshift (i : ℕ) : (X * poly b).coeff i = (if decide (i < w) && decide (0 < i) && b.getLsbD (i - 1) then 1 else 0)
      + if i = w ∧ b.msb then 1 else 0 := by
    cases i with
    | zero => cases w <;> simp [BitVec.msb_eq_getLsbD_last]
    | succ i =>
      rw [coeff_X_mul, coeff_poly, BitVec.msb_eq_getLsbD_last]
      rcases Nat.lt_trichotomy (i + 1) w with hlt | rfl | hgt
      · simp [hlt, hlt.ne]
      · simp
      · simp [Nat.lt_asymm hgt, hgt.ne', BitVec.getLsbD_of_ge b i (by omega)]
  ext i
  rw [coeff_poly, getLsbD_double, hxor, coeff_add, hshift]
  by_cases hmsb : b.msb = true
  · simp only [hmsb, if_true, coeff_add, coeff_X_pow, coeff_poly, Bool.true_and, and_true, add_assoc]
    rw [← add_assoc (if i = w then (1 : ZMod 2) else 0), CharTwo.add_self_eq_zero, zero_add]
  · simp [hmsb]

/-- The element of the field that a word is. -/
noncomputable def element (r b : BitVec w) : AdjoinRoot (X ^ w + poly r) := AdjoinRoot.mk _ (poly b)

lemma element_double (r b : BitVec w) : element r (double r b) = AdjoinRoot.root (X ^ w + poly r) * element r b := by
  have hmod : AdjoinRoot.mk (X ^ w + poly r) (if b.msb then X ^ w + poly r else 0) = 0 := by
    split
    · exact AdjoinRoot.mk_self
    · exact map_zero _
  rw [element, element, poly_double, map_add, hmod, add_zero, map_mul, AdjoinRoot.mk_X]

end QuickAssist.Lib.Doubling
