import Mathlib.Algebra.BigOperators.Fin
import Mathlib.Data.BitVec
import QuickAssist.Lib.OddColumns
import QuickAssist.Lib.Words

/-!
# Check bits of micro-words

`qat_hal_set_uword_ecc` puts seven check bits behind the 44 bits of a micro-word, each the parity of the bits
that a mask selects. A bit of the word is in the masks that its column names, and the columns are different and
odd (`column_injective`, `column_odd`), so that two words that differ are stored four bits apart.
-/

namespace QuickAssist.Firmware

open Lib BitVec Finset

def qatHalParity64bit (word : U64) : U64 :=
  let word := word ^^^ word >>> 1
  let word := word ^^^ word >>> 2
  let word := word ^^^ word >>> 4
  let word := word ^^^ word >>> 8
  let word := word ^^^ word >>> 16
  let word := word ^^^ word >>> 32
  word &&& 1

/-- The masks `bit0_mask` to `bit6_mask`. -/
def bitMask : Fin 7 → U64 :=
  ![0xff800007fff, 0x1f801ff801f, 0xe387e0781e1, 0x7cb8e388e22, 0xaf5b2c93244, 0xf56d5525488, 0xdaf69a46910]

/-- One check bit, which goes behind those that are there. -/
def setCheckBit (r : Fin 7) (uword : U64) : U64 :=
  uword ||| qatHalParity64bit (bitMask r &&& uword) <<< (0x2C + r.val)

def qatHalSetUwordEcc (uword : U64) : U64 :=
  uword &&& ~~~(0x7f#64 <<< 0x2C) |> setCheckBit 0 |> setCheckBit 1 |> setCheckBit 2 |> setCheckBit 3 |>
    setCheckBit 4 |> setCheckBit 5 |> setCheckBit 6

/-! ## Parity -/

def bit (w : U64) (i : ℕ) : ZMod 2 := if w.getLsbD i then 1 else 0

lemma bit_fold (w : U64) (k i : ℕ) : bit (w ^^^ w >>> k) i = bit w i + bit w (k + i) := by
  simp only [bit, getLsbD_xor, getLsbD_ushiftRight]
  cases w.getLsbD i <;> cases w.getLsbD (k + i) <;> decide

lemma bit_parity (w : U64) : bit (qatHalParity64bit w) 0 = ∑ i ∈ Finset.range 64, bit w i := by
  have hlow (v : U64) : bit (v &&& 1) 0 = bit v 0 := by simp [bit]
  simp only [qatHalParity64bit, hlow, bit_fold, Nat.reduceAdd, sum_range_succ, sum_range_zero]
  abel

variable {w : U64} {i : ℕ} {r : Fin 7} {rs : List (Fin 7)}

lemma getLsbD_parity (h : i ≠ 0) : (qatHalParity64bit w).getLsbD i = false := by
  simp [qatHalParity64bit, h]

/-! ## Check bits -/

/-- What a check bit has to be. -/
def check (r : Fin 7) (w : U64) : ZMod 2 := ∑ i ∈ Finset.range 44, if w.getLsbD i then bit (bitMask r) i else 0

lemma check_congr {v w : U64} (h : ∀ i < 44, v.getLsbD i = w.getLsbD i) : check r v = check r w := by
  refine sum_congr rfl fun i hi => ?_
  rw [h i (mem_range.mp hi)]

lemma getLsbD_bitMask (r : Fin 7) : ∀ i < 64, 44 ≤ i → (bitMask r).getLsbD i = false := by
  revert r
  decide +kernel

lemma bit_parity_mask (r : Fin 7) (w : U64) : bit (qatHalParity64bit (bitMask r &&& w)) 0 = check r w := by
  have hterm (i : ℕ) : bit (bitMask r &&& w) i = if w.getLsbD i then bit (bitMask r) i else 0 := by
    simp only [bit, getLsbD_and]
    cases w.getLsbD i <;> simp
  rw [bit_parity, check]
  simp only [hterm]
  refine (sum_subset (range_subset_range.mpr (by decide)) fun i hi hout => ?_).symm
  rw [bit, getLsbD_bitMask r i (mem_range.mp hi) (by simpa using hout)]
  simp

lemma getLsbD_setCheckBit_of_ne (h : i ≠ 44 + r.val) : (setCheckBit r w).getLsbD i = w.getLsbD i := by
  simp only [setCheckBit, getLsbD_or, getLsbD_shiftLeft]
  by_cases hlt : i < 44 + r.val
  · simp [hlt]
  · rw [getLsbD_parity (by omega), Bool.and_false, Bool.or_false]

lemma bit_setCheckBit (h : w.getLsbD (44 + r.val) = false) : bit (setCheckBit r w) (44 + r.val) = check r w := by
  have hr : 44 + r.val < 64 := by omega
  rw [← bit_parity_mask]
  simp only [bit, setCheckBit, getLsbD_or, h, getLsbD_shiftLeft, hr, decide_true, Nat.lt_irrefl,
    decide_false, Bool.not_false, Bool.true_and, Nat.sub_self, Bool.false_or]

/-- Check bits one after the other. -/
def setCheckBits (rs : List (Fin 7)) (w : U64) : U64 := rs.foldl (fun w r => setCheckBit r w) w

lemma getLsbD_setCheckBits (h : ∀ r ∈ rs, i ≠ 44 + r.val) (w : U64) : (setCheckBits rs w).getLsbD i = w.getLsbD i := by
  induction rs generalizing w with
  | nil => rfl
  | cons r rs ih =>
    rw [List.forall_mem_cons] at h
    exact (ih h.2 _).trans (getLsbD_setCheckBit_of_ne h.1)

lemma bit_setCheckBits (hnodup : rs.Nodup) (hr : r ∈ rs)
    (h : w.getLsbD (44 + r.val) = false) : bit (setCheckBits rs w) (44 + r.val) = check r w := by
  induction rs generalizing w with
  | nil => cases hr
  | cons s rs ih =>
    obtain ⟨hs, hnodup⟩ := List.nodup_cons.mp hnodup
    by_cases hrs : r = s
    · subst hrs
      rw [← bit_setCheckBit h]
      change bit (setCheckBits rs (setCheckBit r w)) _ = _
      rw [bit, getLsbD_setCheckBits (fun q hq heq => hs (by rwa [Fin.ext (Nat.add_left_cancel heq)])), bit]
    · have hlow : check r (setCheckBit s w) = check r w :=
        check_congr fun i hi => getLsbD_setCheckBit_of_ne (by omega)
      rw [← hlow]
      refine ih hnodup ((List.mem_cons.mp hr).resolve_left hrs) ?_
      rw [getLsbD_setCheckBit_of_ne (by omega), h]

variable (w)

lemma qatHalSetUwordEcc_eq : qatHalSetUwordEcc w = setCheckBits (List.finRange 7) (w &&& ~~~(0x7f#64 <<< 0x2C)) := rfl

lemma getLsbD_clear (h : i < 51) : (w &&& ~~~(0x7f#64 <<< 0x2C)).getLsbD i = (w.getLsbD i && decide (i < 44)) := by
  have hmask : ∀ i < 51, (~~~(0x7f#64 <<< 0x2C)).getLsbD i = decide (i < 44) := by decide +kernel
  rw [getLsbD_and, hmask i h]

lemma getLsbD_setUwordEcc (h : i < 44) : (qatHalSetUwordEcc w).getLsbD i = w.getLsbD i := by
  rw [qatHalSetUwordEcc_eq, getLsbD_setCheckBits (fun r _ => by omega), getLsbD_clear w (by omega),
    decide_eq_true h, Bool.and_true]

lemma bit_setUwordEcc (r : Fin 7) (w : U64) : bit (qatHalSetUwordEcc w) (44 + r.val) = check r w := by
  rw [qatHalSetUwordEcc_eq, bit_setCheckBits (List.nodup_finRange 7) (List.mem_finRange r)]
  · refine check_congr fun i hi => ?_
    rw [getLsbD_clear w (by omega), decide_eq_true hi, Bool.and_true]
  · rw [getLsbD_clear w (by omega), decide_eq_false (by omega), Bool.and_false]

/-! ## Distance -/

/-- The 51 bits that are kept of a word. -/
def stored (w : U64) (i : Fin 51) : Bool := (qatHalSetUwordEcc w).getLsbD i

/-- In which checks a bit takes part: those whose masks select it, or its own. -/
def column (i : Fin 51) (r : Fin 7) : ZMod 2 :=
  if i.val < 44 then bit (bitMask r) i else if i.val = 44 + r.val then 1 else 0

lemma column_odd : ∀ i, ∑ r, column i r = 1 := by decide +kernel

lemma column_injective : Function.Injective column := by
  have h : ∀ i j, (∀ r, column i r = column j r) → i = j := by decide +kernel
  exact fun i j hij => h i j fun r => congrFun hij r

lemma syndrome_stored : syndrome column (stored w) = 0 := by
  funext r
  have hdata : ∑ i : Fin 44, (if stored w (Fin.castAdd 7 i) then column (Fin.castAdd 7 i) r else 0) = check r w := by
    rw [check, ← Fin.sum_univ_eq_sum_range fun i => if w.getLsbD i then bit (bitMask r) i else 0]
    refine sum_congr rfl fun i _ => ?_
    simp [stored, getLsbD_setUwordEcc w i.isLt, column]
  have hcheck : ∑ s : Fin 7, (if stored w (Fin.natAdd 44 s) then column (Fin.natAdd 44 s) r else 0) = check r w := by
    rw [← bit_setUwordEcc, sum_eq_single r]
    · simp [stored, column, bit]
    · intro s _ hs
      simp [column, Fin.val_inj, hs]
    · simp
  have hsplit := Fin.sum_univ_add fun i : Fin (44 + 7) => if stored w i then column i r else 0
  rw [hdata, hcheck, CharTwo.add_self_eq_zero] at hsplit
  exact hsplit

variable {w}

/-- **Micro-words are stored four bits apart**, so one wrong bit can be corrected and two can be detected. -/
theorem setUwordEcc_distance (a b : U64) (h : a.setWidth 44 ≠ b.setWidth 44) :
    4 ≤ hammingDist (stored a) (stored b) ∧ (∀ v, hammingDist v (stored a) ≤ 1 → 2 < hammingDist v (stored b)) ∧
      (qatHalSetUwordEcc a).setWidth 44 = a.setWidth 44 := by
  have hdata (w : U64) : (qatHalSetUwordEcc w).setWidth 44 = w.setWidth 44 := by
    apply eq_of_getLsbD_eq
    intro i hi
    simp [hi, getLsbD_setUwordEcc w hi]
  have hdist : 4 ≤ hammingDist (stored a) (stored b) := by
    apply four_le_hammingDist column_odd column_injective (syndrome_stored a) (syndrome_stored b)
    intro heq
    apply h
    apply eq_of_getLsbD_eq
    intro i hi
    have hbit := congrFun heq ⟨i, by omega⟩
    simp only [stored, getLsbD_setUwordEcc _ hi] at hbit
    simp [hbit]
  refine ⟨hdist, fun v hv => ?_, hdata a⟩
  have htriangle := hammingDist_triangle_left (stored a) (stored b) v
  omega

theorem zero_and_one_stored_apart : 4 ≤ hammingDist (stored 0) (stored 1) := (setUwordEcc_distance 0 1 (by decide)).1

end QuickAssist.Firmware
