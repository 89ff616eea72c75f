import Mathlib.Order.Lattice.Nat

/-!
# Memory that is allocated and given back

The heap is the set of the addresses that are in use. An `Allocator` chooses an address that is not, in whatever way;
`free` is not defined at an address that is not in use, so that what frees one twice has no result.
-/

namespace QuickAssist.Lib

open List

variable {α : Type*} [DecidableEq α]

/-- A way of choosing addresses. -/
structure Allocator (α : Type*) where
  choose : Finset α → α
  fresh : ∀ live, choose live ∉ live

/-- Numbers as addresses: the one above those in use. -/
def Allocator.above : Allocator ℕ where
  choose live := live.sup id + 1
  fresh live h := by
    have hle : live.sup id + 1 ≤ live.sup id := Finset.le_sup (f := id) h
    omega

namespace Alloc

/-! ## Giving back -/

/-- Give an address back. -/
def free (live : Finset α) (a : α) : Option (Finset α) := if a ∈ live then some (live.erase a) else none

/-- Give addresses back, one after the other. -/
def freeAll : Finset α → List α → Option (Finset α)
  | live, [] => some live
  | live, a :: l => (free live a).bind (freeAll · l)

variable {live : Finset α} {a : α} {l : List α}

lemma free_of_mem (h : a ∈ live) : free live a = some (live.erase a) := if_pos h

lemma free_insert (h : a ∉ live) : free (insert a live) a = some live := by
  rw [free_of_mem (Finset.mem_insert_self a live), Finset.erase_insert h]

lemma mem_of_free {live' : Finset α} {b : α} (h : free live a = some live') (hb : b ∈ live)
    (hne : b ≠ a) : b ∈ live' := by
  unfold free at h
  split_ifs at h
  cases h
  exact Finset.mem_erase.mpr ⟨hne, hb⟩

lemma freeAll_of_nodup (hnodup : l.Nodup) (hmem : ∀ a ∈ l, a ∈ live) : freeAll live l = some (live \ l.toFinset) := by
  induction l generalizing live with
  | nil => simp [freeAll]
  | cons a l ih =>
    obtain ⟨hal, hl⟩ := nodup_cons.mp hnodup
    have hrest : ∀ b ∈ l, b ∈ live.erase a := by
      intro b hb
      apply Finset.mem_erase.mpr
      exact ⟨fun h => hal (h ▸ hb), hmem b (mem_cons_of_mem a hb)⟩
    rw [freeAll, free_of_mem (hmem a mem_cons_self), Option.bind_some, ih hl hrest,
      toFinset_cons, Finset.sdiff_insert, Finset.erase_sdiff_comm]

/-! ## Allocating -/

variable (A : Allocator α) {n : ℕ}

/-- The addresses that `n` allocations get. -/
def allocs (live : Finset α) : ℕ → List α
  | 0 => []
  | n + 1 => allocs live n ++ [A.choose (live ∪ (allocs live n).toFinset)]

@[simp] lemma length_allocs (live : Finset α) (n : ℕ) : (allocs A live n).length = n := by
  induction n with
  | zero => rfl
  | succ n ih => rw [allocs, length_append, ih, length_singleton]

lemma insert_choose_allocs (live : Finset α) (n : ℕ) :
    insert (A.choose (live ∪ (allocs A live n).toFinset)) (live ∪ (allocs A live n).toFinset) =
      live ∪ (allocs A live (n + 1)).toFinset := by
  ext b
  simp only [allocs, Finset.mem_insert, Finset.mem_union, mem_toFinset, mem_append, mem_singleton]
  tauto

lemma notMem_of_mem_allocs (h : a ∈ allocs A live n) : a ∉ live := by
  induction n with
  | zero => cases h
  | succ n ih =>
    rcases mem_append.mp h with h | h
    · exact ih h
    · rw [mem_singleton.mp h]
      intro hlive
      exact A.fresh _ (Finset.mem_union_left _ hlive)

lemma nodup_allocs (live : Finset α) (n : ℕ) : (allocs A live n).Nodup := by
  induction n with
  | zero => exact nodup_nil
  | succ n ih =>
    apply List.Nodup.append ih (nodup_singleton _)
    rw [disjoint_singleton]
    intro h
    exact A.fresh _ (Finset.mem_union_right _ (mem_toFinset.mpr h))

lemma freeAll_take_allocs (live : Finset α) (n k : ℕ) :
    freeAll (live ∪ (allocs A live n).toFinset) ((allocs A live n).take k) =
      some ((live ∪ (allocs A live n).toFinset) \ ((allocs A live n).take k).toFinset) := by
  apply freeAll_of_nodup
  · exact (nodup_allocs A live n).sublist (take_sublist k _)
  · intro a ha
    exact Finset.mem_union_right _ (mem_toFinset.mpr (mem_of_mem_take ha))

/-- If only the first of what was allocated is given back, something stays in use. -/
lemma exists_mem_sdiff_take {k : ℕ} (h : k < n) :
    ∃ a ∈ allocs A live n, a ∈ (live ∪ (allocs A live n).toFinset) \ ((allocs A live n).take k).toFinset := by
  have hk : k < (allocs A live n).length := by rwa [length_allocs]
  have hmem : (allocs A live n)[k] ∈ allocs A live n := getElem_mem hk
  refine ⟨(allocs A live n)[k], hmem, ?_⟩
  apply Finset.mem_sdiff.mpr
  constructor
  · exact Finset.mem_union_right _ (mem_toFinset.mpr hmem)
  · intro htake
    have hdrop : (allocs A live n)[k] ∈ (allocs A live n).drop k := by
      rw [drop_eq_getElem_cons hk]
      exact mem_cons_self
    exact disjoint_take_drop (nodup_allocs A live n) le_rfl (mem_toFinset.mp htake) hdrop

/-- What was allocated can be given back in any order, and nothing of it stays. -/
lemma freeAll_of_perm_allocs (h : l.Perm (allocs A live n)) :
    freeAll (live ∪ (allocs A live n).toFinset) l = some live := by
  rw [freeAll_of_nodup (h.nodup_iff.mpr (nodup_allocs A live n)), toFinset_eq_of_perm _ _ h,
    Finset.union_sdiff_right, Finset.sdiff_eq_self_of_disjoint]
  · rw [Finset.disjoint_right]
    intro a ha
    exact notMem_of_mem_allocs A (mem_toFinset.mp ha)
  · intro a ha
    exact Finset.mem_union_right _ (mem_toFinset.mpr (h.mem_iff.mp ha))

end Alloc

end QuickAssist.Lib
