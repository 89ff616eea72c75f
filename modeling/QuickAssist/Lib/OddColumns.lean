import Mathlib.Algebra.Field.ZMod
import Mathlib.InformationTheory.Hamming

/-!
# Codes with odd columns

Words over an index type are checked by a sum of columns over `ZMod 2`. If the columns are different and each
has an odd number of ones, two words that pass differ in at least four places.
-/

namespace QuickAssist.Lib

open Finset

variable {ι κ : Type*} [Fintype κ] {column : ι → κ → ZMod 2}

lemma four_le_card_of_sum_eq_zero (hodd : ∀ i, ∑ r, column i r = 1) (hinj : Function.Injective column)
    {s : Finset ι} (hs : s.Nonempty) (hsum : ∑ i ∈ s, column i = 0) : 4 ≤ s.card := by
  have heven : Even s.card := by
    rw [← ZMod.natCast_eq_zero_iff_even]
    calc (s.card : ZMod 2) = ∑ i ∈ s, ∑ r, column i r := by simp [hodd]
      _ = ∑ r, (∑ i ∈ s, column i) r := by simp only [Finset.sum_apply, sum_comm (s := s)]
      _ = 0 := by rw [hsum]; simp only [Pi.zero_apply, sum_const_zero]
  have htwo : s.card ≠ 2 := by
    classical
    intro hcard
    obtain ⟨i, j, hij, rfl⟩ := Finset.card_eq_two.mp hcard
    rw [sum_pair hij] at hsum
    exact hij (hinj (funext fun r => CharTwo.add_eq_zero.mp (congrFun hsum r)))
  have hpos := hs.card_pos
  obtain ⟨k, hk⟩ := heven
  omega

variable [Fintype ι]

/-- The sum of the columns at which a word has a one. -/
def syndrome (column : ι → κ → ZMod 2) (x : ι → Bool) (r : κ) : ZMod 2 := ∑ i, if x i then column i r else 0

lemma four_le_hammingDist (hodd : ∀ i, ∑ r, column i r = 1) (hinj : Function.Injective column)
    {x y : ι → Bool} (hx : syndrome column x = 0) (hy : syndrome column y = 0) (hne : x ≠ y) :
    4 ≤ hammingDist x y := by
  refine four_le_card_of_sum_eq_zero hodd hinj ?_ ?_
  · obtain ⟨i, hi⟩ := Function.ne_iff.mp hne
    exact ⟨i, Finset.mem_filter.mpr ⟨mem_univ i, hi⟩⟩
  · funext r
    rw [Finset.sum_apply, sum_filter]
    calc _ = ∑ i, ((if x i then column i r else 0) + if y i then column i r else 0) := by
          refine sum_congr rfl fun i _ => ?_
          cases x i <;> cases y i <;> simp [CharTwo.add_self_eq_zero]
      _ = syndrome column x r + syndrome column y r := sum_add_distrib
      _ = 0 := by rw [hx, hy, Pi.zero_apply, add_zero]

end QuickAssist.Lib
