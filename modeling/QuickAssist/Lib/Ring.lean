import Mathlib.Data.List.Basic
import Mathlib.Data.Nat.ModEq

/-!
# Ring buffers

A ring of `n` slots is a memory `mem : ℕ → α`, of which the slots `0, …, n - 1` are used, a slot number `head` where
the next message is taken, and a number of messages that follow it. `Carries n mem head q` is for a consumer that finds
the end of the queue by a tail pointer: what the other slots hold is not said. `Holds n mem head q`, for a memory of
`Option`s, is for one that finds it by an empty slot: every other slot is empty. A push needs a free slot. The last
section relates slot numbers to byte offsets that are kept modulo `n * m`.
-/

namespace QuickAssist.Lib

open Function List Nat

variable {α : Type*} {n head : ℕ} {q : List α}

/-! ## Slots -/

lemma ringSlot_inj (head : ℕ) {i j : ℕ} (hi : i < n) (hj : j < n) (h : (head + i) % n = (head + j) % n) : i = j := by
  have hmod : i ≡ j [MOD n] := Nat.ModEq.add_left_cancel' head h
  rwa [Nat.ModEq, mod_eq_of_lt hi, mod_eq_of_lt hj] at hmod

/-! ## A ring with a tail pointer -/

/-- The slots from `head` on hold the messages of `q`. -/
structure Carries (n : ℕ) (mem : ℕ → α) (head : ℕ) (q : List α) : Prop where
  length_le : q.length ≤ n
  /-- The `i`-th slot from `head` holds the `i`-th message. -/
  slot : ∀ i (h : i < q.length), mem ((head + i) % n) = q[i]

namespace Carries

variable {mem : ℕ → α}

lemma nil (mem : ℕ → α) (head : ℕ) : Carries n mem head [] := ⟨Nat.zero_le n, fun i h => absurd h (Nat.not_lt_zero i)⟩

lemma push (h : Carries n mem head q) (hfree : q.length < n) (a : α) :
    Carries n (update mem ((head + q.length) % n) a) head (q ++ [a]) where
  length_le := by
    rw [length_append, length_singleton]
    exact hfree
  slot i hi := by
    rw [length_append, length_singleton] at hi
    by_cases hlast : i = q.length
    · subst hlast
      rw [update_self, getElem_concat_length rfl]
    · have hlt : i < q.length := by omega
      have hne : (head + i) % n ≠ (head + q.length) % n := by
        intro heq
        exact hlast (ringSlot_inj head (by omega) hfree heq)
      rw [update_of_ne hne, getElem_append_left hlt, h.slot i hlt]

lemma pop {a : α} (h : Carries n mem head (a :: q)) : mem (head % n) = a ∧ Carries n mem (head + 1) q := by
  refine ⟨h.slot 0 (by simp), ⟨?_, ?_⟩⟩
  · have hlen := h.length_le
    rw [length_cons] at hlen
    omega
  · intro i hi
    rw [Nat.add_right_comm, Nat.add_assoc, h.slot (i + 1) (by simpa using hi)]
    rfl

/-- If a free slot is left, the slot after a queue is its first slot only when the queue is
empty. -/
lemma head_ne_tail (head : ℕ) (hfree : q.length < n) (hne : q ≠ []) : (head + q.length) % n ≠ head % n := by
  intro heq
  have hzero : q.length = 0 := ringSlot_inj head hfree (by omega) (by rw [heq, Nat.add_zero])
  exact hne (length_eq_zero_iff.mp hzero)

end Carries

/-! ## A ring with empty slots -/

/-- The slots from `head` on hold the messages of `q`, and the others are empty. -/
structure Holds (n : ℕ) (mem : ℕ → Option α) (head : ℕ) (q : List α) : Prop where
  length_le : q.length ≤ n
  /-- The `i`-th slot from `head` holds the `i`-th message, or nothing after the last. -/
  slot : ∀ i, i < n → mem ((head + i) % n) = q[i]?

namespace Holds

variable {mem : ℕ → Option α}

lemma nil (hempty : ∀ i, mem i = none) (head : ℕ) : Holds n mem head ([] : List α) :=
  ⟨Nat.zero_le n, fun i _ => by rw [hempty]; rfl⟩

lemma push (h : Holds n mem head q) (hfree : q.length < n) (a : α) :
    Holds n (update mem ((head + q.length) % n) (some a)) head (q ++ [a]) where
  length_le := by
    rw [length_append, length_singleton]
    exact hfree
  slot i hi := by
    by_cases hlast : i = q.length
    · subst hlast
      rw [update_self, List.getElem?_concat_length]
    · have hne : (head + i) % n ≠ (head + q.length) % n := by
        intro heq
        exact hlast (ringSlot_inj head hi hfree heq)
      rw [update_of_ne hne, h.slot i hi]
      by_cases hlt : i < q.length
      · rw [List.getElem?_append_left hlt]
      · rw [List.getElem?_eq_none (by omega), List.getElem?_eq_none (by simp; omega)]

lemma front (h : Holds n mem head q) (hn : 0 < n) : mem (head % n) = q.head? := by
  rw [List.head?_eq_getElem?]
  exact h.slot 0 hn

lemma free_slot (h : Holds n mem head q) (hfree : q.length < n) : mem ((head + q.length) % n) = none := by
  rw [h.slot q.length hfree]
  exact List.getElem?_eq_none le_rfl

lemma pop {a : α} (h : Holds n mem head (a :: q)) : Holds n (update mem (head % n) none) (head + 1) q where
  length_le := by
    have hlen := h.length_le
    rw [length_cons] at hlen
    omega
  slot i hi := by
    have hlen := h.length_le
    rw [length_cons] at hlen
    rw [Nat.add_right_comm, Nat.add_assoc]
    by_cases hlast : i + 1 = n
    · rw [hlast, add_mod_right, update_self, List.getElem?_eq_none (by omega)]
    · have hne : (head + (i + 1)) % n ≠ head % n := by
        intro heq
        have hzero : i + 1 = 0 := ringSlot_inj (n := n) head (by omega) (by omega) (by rw [heq, Nat.add_zero])
        omega
      rw [update_of_ne hne, h.slot (i + 1) (by omega), List.getElem?_cons_succ]

end Holds

/-! ## Byte offsets -/

lemma sub_shiftLeft_shiftRight (x k : ℕ) : x - (x >>> k) <<< k = x % 2 ^ k := by
  rw [shiftRight_eq_div_pow, shiftLeft_eq]
  have hdiv := div_add_mod' x (2 ^ k)
  omega

/-- The slots of a memory that is indexed by byte offsets, for messages of `m` bytes. -/
def slots (m : ℕ) (mem : ℕ → α) (i : ℕ) : α := mem (i * m)

lemma slots_update {m : ℕ} (hm : 0 < m) (mem : ℕ → α) (j : ℕ) (a : α) :
    slots m (update mem (j * m) a) = update (slots m mem) j a := by
  funext i
  unfold slots
  by_cases hij : i = j
  · subst hij
    rw [update_self, update_self]
  · have hne : i * m ≠ j * m := by
      intro heq
      exact hij (eq_of_mul_eq_mul_right hm heq)
    rw [update_of_ne hne, update_of_ne hij]

lemma offset_succ (n m k : ℕ) : (k % n * m + m) % (n * m) = (k + 1) % n * m := by
  rw [← succ_mul, mul_mod_mul_right, ← add_one, mod_add_mod]

end QuickAssist.Lib
