import Mathlib.Algebra.Group.End
import QuickAssist.Sym.ContentDesc

/-!
# The key schedule of ARC4

`LacSymQat_CipherArc4StateInit` schedules a key in place, with a counter `k` of its own that goes round the key. The
schedule of RC4 is on permutations of the bytes here, with indices and sums that wrap by themselves.
-/

namespace QuickAssist.Sym

open List BitVec

/-- One round of the schedule: `j := j + S[i] + key[i mod length]`, and `S[i]` and `S[j]` change places. -/
def ksaRound (key : Bytes) (keyLen : ℕ) (s : Equiv.Perm U8 × U8) (i : ℕ) : Equiv.Perm U8 × U8 :=
  let j := s.2 + s.1 (.ofNat 8 i) + key (i % keyLen)
  (s.1 * Equiv.swap (.ofNat 8 i) j, j)

/-- The key-scheduling algorithm of RC4. -/
def ksa (key : Bytes) (keyLen : ℕ) : Equiv.Perm U8 := ((range 256).foldl (ksaRound key keyLen) (1, 0)).1

/-- The values of a permutation, one after the other. -/
def permTable (σ : Equiv.Perm U8) : Octets := (range 256).map fun i => σ (.ofNat 8 i)

variable (σ : Equiv.Perm U8)

lemma getD_permTable (b : U8) : (permTable σ).getD b.toNat 0 = σ b := by
  simp [permTable, getD_eq_getElem?_getD, List.getElem?_range b.isLt]

lemma set_permTable (a b : U8) :
    ((permTable σ).set a.toNat (σ b)).set b.toNat (σ a) = permTable (σ * Equiv.swap a b) := by
  have hlen : (permTable σ).length = 256 := by simp [permTable]
  apply ext_getElem
  · simp [permTable]
  · intro n hn _
    simp only [length_set, hlen] at hn
    have hab (c : U8) : c.toNat = n ↔ .ofNat 8 n = c := by bv_omega
    simp only [getElem_set, hab, permTable, getElem_map, getElem_range, Equiv.Perm.mul_apply, Equiv.swap_apply_def]
    split_ifs <;> simp_all

lemma permTable_perm : (permTable σ).Perm (permTable 1) := by
  have hnodup (τ : Equiv.Perm U8) : (permTable τ).Nodup := by
    refine nodup_range.map_on fun i hi j hj hij => ?_
    have heq := τ.injective hij
    rw [mem_range] at hi hj
    bv_omega
  have hmem (τ : Equiv.Perm U8) (b : U8) : b ∈ permTable τ := by
    refine mem_map.mpr ⟨(τ.symm b).toNat, mem_range.mpr (τ.symm b).isLt, ?_⟩
    simp
  exact (perm_ext_iff_of_nodup (hnodup σ) (hnodup 1)).mpr fun b => iff_of_true (hmem σ b) (hmem 1 b)

section

variable {key : Bytes} {keyLen : ℕ}

lemma arc4Round_permTable {s : Equiv.Perm U8 × U8} {i k : ℕ} (hi : i < 256) (hk : k ≤ keyLen)
    (hki : k % keyLen = i % keyLen) (hpos : 0 < keyLen) : arc4Round key keyLen (permTable s.1, s.2.toNat, k) i =
      (permTable (ksaRound key keyLen s i).1, (ksaRound key keyLen s i).2.toNat, i % keyLen + 1) := by
  have hcounter : (if keyLen ≤ k then k - keyLen else k) = i % keyLen := by
    rw [← hki]
    split
    · obtain rfl : k = keyLen := by omega
      rw [Nat.sub_self, Nat.mod_self]
    · rw [Nat.mod_eq_of_lt (by omega)]
  have hbyte : (BitVec.ofNat 8 i).toNat = i := by rw [toNat_ofNat, Nat.mod_eq_of_lt hi]
  have hget := getD_permTable s.1 (.ofNat 8 i)
  rw [hbyte] at hget
  have hj : (s.2.toNat + (s.1 (.ofNat 8 i)).toNat + (key (i % keyLen)).toNat) % 256 =
      (s.2 + s.1 (.ofNat 8 i) + key (i % keyLen)).toNat := by
    rw [toNat_add, toNat_add, Nat.mod_add_mod]
  have hswap := set_permTable s.1 (.ofNat 8 i) (s.2 + s.1 (.ofNat 8 i) + key (i % keyLen))
  rw [hbyte] at hswap
  simp only [arc4Round, ksaRound, hcounter, hget, hj, getD_permTable, hswap]

lemma foldl_arc4Round (hpos : 0 < keyLen) {n : ℕ} (hn : n ≤ 256) : ∃ k ≤ keyLen, k % keyLen = n % keyLen ∧
      (range n).foldl (arc4Round key keyLen) (permTable 1, 0, 0) =
        (permTable ((range n).foldl (ksaRound key keyLen) (1, 0)).1,
          ((range n).foldl (ksaRound key keyLen) (1, 0)).2.toNat, k) := by
  induction n with
  | zero => exact ⟨0, Nat.zero_le _, rfl, rfl⟩
  | succ n ih =>
    obtain ⟨k, hk, hkn, heq⟩ := ih (by omega)
    refine ⟨n % keyLen + 1, Nat.mod_lt n hpos, by rw [Nat.mod_add_mod], ?_⟩
    rw [range_succ, foldl_append, foldl_append, heq]
    exact arc4Round_permTable hn hk hkn hpos

end

/-- **The state is that of RC4**: the schedule of the key, a permutation of all bytes, and two indices that are
zero. -/
theorem arc4StateInit_eq_ksa (key : Bytes) (keyLen : ℕ) (hpos : 0 < keyLen) :
    arc4StateInit key keyLen = permTable (ksa key keyLen) ++ [0, 0] ∧
      (permTable (ksa key keyLen)).Perm ((range 256).map (BitVec.ofNat 8)) := by
  have hone : permTable 1 = (range 256).map (BitVec.ofNat 8) := map_congr_left fun _ _ => rfl
  obtain ⟨k, -, -, heq⟩ := foldl_arc4Round hpos (le_refl 256)
  rw [← hone, arc4StateInit, ← hone, heq, ksa]
  exact ⟨rfl, permTable_perm _⟩

theorem arc4StateInit_five_bytes :
    arc4StateInit (fun i => .ofNat 8 (i + 1)) 5 = permTable (ksa (fun i => .ofNat 8 (i + 1)) 5) ++ [0, 0] :=
  (arc4StateInit_eq_ksa _ 5 (by decide)).1

end QuickAssist.Sym
