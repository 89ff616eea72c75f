import Mathlib.Algebra.GroupWithZero.Nat
import QuickAssist.Lib.Extent

/-!
# Extents one after the other

A list of extents is read as one area: its addresses are those of the first extent, then those of the second, and so
on, wherever the extents lie and whether or not they overlap. `locate` finds the extent of the `i`-th address, and
`Covers l off n a` says that `a` is among the `n` addresses from the `off`-th on.
-/

namespace QuickAssist.Lib.Scatter

/-- The extent that holds the `i`-th address, and where in it. -/
def locate : List Extent → ℕ → Option (Extent × ℕ)
  | [], _ => none
  | e :: l, i => if i < e.len then some (e, i) else locate l (i - e.len)

/-- The `i`-th address. -/
def addr (l : List Extent) (i : ℕ) : Option ℕ := (locate l i).map fun p => p.1.start + p.2

/-- The number of addresses. -/
def total (l : List Extent) : ℕ := (l.map Extent.len).sum

/-- An address is among the `n` from the `off`-th on. -/
def Covers (l : List Extent) (off n a : ℕ) : Prop := ∃ i, off ≤ i ∧ i < off + n ∧ addr l i = some a

variable {e : Extent} {l : List Extent} {off n i a : ℕ}

lemma total_cons (e : Extent) (l : List Extent) : total (e :: l) = e.len + total l := by
  simp [total]

lemma locate_cons_of_lt (h : i < e.len) : locate (e :: l) i = some (e, i) := by
  rw [locate, if_pos h]

lemma locate_cons_of_le (h : e.len ≤ i) : locate (e :: l) i = locate l (i - e.len) := by
  rw [locate, if_neg (by omega)]

lemma le_of_locate {o : ℕ} (h : locate l i = some (e, o)) : o ≤ i := by
  induction l generalizing i with
  | nil => simp [locate] at h
  | cons d l ih =>
    rcases Nat.lt_or_ge i d.len with hi | hi
    · rw [locate_cons_of_lt hi] at h
      exact Nat.le_of_eq (Prod.mk.inj (Option.some.inj h)).2.symm
    · rw [locate_cons_of_le hi] at h
      exact Nat.le_trans (ih h) (Nat.sub_le i d.len)

lemma addr_cons_of_lt (h : i < e.len) : addr (e :: l) i = some (e.start + i) := by
  rw [addr, locate_cons_of_lt h, Option.map_some]

lemma addr_cons_of_le (h : e.len ≤ i) : addr (e :: l) i = addr l (i - e.len) := by
  rw [addr, locate_cons_of_le h, addr]

lemma not_covers_zero : ¬ Covers l off 0 a := by
  rintro ⟨i, hle, hlt, -⟩
  omega

lemma covers_cons_of_le (h : e.len ≤ off) : Covers (e :: l) off n a ↔ Covers l (off - e.len) n a := by
  constructor
  · rintro ⟨i, hle, hlt, haddr⟩
    rw [addr_cons_of_le (by omega)] at haddr
    exact ⟨i - e.len, by omega, by omega, haddr⟩
  · rintro ⟨i, hle, hlt, haddr⟩
    refine ⟨i + e.len, by omega, by omega, ?_⟩
    rw [addr_cons_of_le (by omega), Nat.add_sub_cancel]
    exact haddr

/-- What begins in the first extent is there as far as that goes, and goes on at the beginning of the
others. -/
lemma covers_cons_of_lt (h : off < e.len) : Covers (e :: l) off n a ↔
      Extent.Has ⟨e.start + off, min n (e.len - off)⟩ a ∨ Covers l 0 (n - (e.len - off)) a := by
  constructor
  · rintro ⟨i, hle, hlt, haddr⟩
    rcases Nat.lt_or_ge i e.len with hi | hi
    · rw [addr_cons_of_lt hi] at haddr
      cases haddr
      left
      refine ⟨?_, ?_⟩
      · change e.start + off ≤ e.start + i
        omega
      · change e.start + i < e.start + off + min n (e.len - off)
        omega
    · rw [addr_cons_of_le hi] at haddr
      right
      exact ⟨i - e.len, by omega, by omega, haddr⟩
  · rintro (⟨hle, hlt⟩ | ⟨i, -, hlt, haddr⟩)
    · change e.start + off ≤ a at hle
      change a < e.start + off + min n (e.len - off) at hlt
      refine ⟨a - e.start, by omega, by omega, ?_⟩
      rw [addr_cons_of_lt (by omega), Nat.add_sub_cancel' (by omega)]
    · refine ⟨i + e.len, by omega, by omega, ?_⟩
      rw [addr_cons_of_le (by omega), Nat.add_sub_cancel]
      exact haddr

end QuickAssist.Lib.Scatter
