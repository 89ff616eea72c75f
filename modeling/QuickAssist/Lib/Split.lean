import Mathlib.Data.List.Basic

/-!
# Cutting a list at a separator

Programs split a string by looking for the next separator and going on after it. `cut` is one such step, and
`splitOn` of the standard library is the whole. The lemmas say what a step does to the pieces.
-/

namespace QuickAssist.Lib

open List

variable {α : Type*} [DecidableEq α] {sep : α} {l a b : List α}

/-- What is before the first separator and what is after it; `none` if there is no separator. -/
def cut (sep : α) : List α → Option (List α × List α)
  | [] => none
  | x :: l => if x = sep then some ([], l) else (cut sep l).map fun p => (x :: p.1, p.2)

lemma cut_eq_none_iff : cut sep l = none ↔ sep ∉ l := by
  induction l with
  | nil => simp [cut]
  | cons x l ih =>
    by_cases hx : x = sep
    · simp [cut, hx]
    · simp [cut, hx, ih, Ne.symm hx]

/-- The parts and the separator are the list, and the first part has no separator. -/
lemma cut_eq_some (h : cut sep l = some (a, b)) : l = a ++ sep :: b ∧ sep ∉ a := by
  induction l generalizing a with
  | nil => cases h
  | cons x l ih =>
    simp only [cut] at h
    split at h
    · next hx =>
      cases h
      exact ⟨by rw [hx]; rfl, not_mem_nil⟩
    · next hx =>
      obtain ⟨⟨a', b'⟩, hcut, heq⟩ := Option.map_eq_some_iff.mp h
      cases heq
      obtain ⟨rfl, hnot⟩ := ih hcut
      simp [hnot, Ne.symm hx]

lemma splitOn_of_cut_eq_none (h : cut sep l = none) : l.splitOn sep = [l] :=
  splitOn_eq_singleton (cut_eq_none_iff.mp h)

lemma splitOn_of_cut_eq_some (h : cut sep l = some (a, b)) : l.splitOn sep = a :: b.splitOn sep := by
  obtain ⟨rfl, hnot⟩ := cut_eq_some h
  apply splitOnP_append_cons_of_forall_mem
  · intro x hx
    exact beq_false_of_ne fun heq => hnot (heq ▸ hx)
  · exact beq_self_eq_true sep

lemma length_lt_of_cut_eq_some (h : cut sep l = some (a, b)) : b.length < l.length := by
  obtain ⟨rfl, -⟩ := cut_eq_some h
  simp
  omega

/-- Induction from one separator to the next. -/
@[elab_as_elim]
lemma cut_induction (sep : α) {motive : List α → Prop} (single : ∀ l, cut sep l = none → motive l)
    (more : ∀ l a b, cut sep l = some (a, b) → motive b → motive l) (l : List α) : motive l := by
  induction hn : l.length using Nat.strongRecOn generalizing l with
  | _ n ih =>
    rcases hcut : cut sep l with _ | ⟨a, b⟩
    · exact single l hcut
    · have hlt := length_lt_of_cut_eq_some hcut
      exact more l a b hcut (ih b.length (by omega) b rfl)

lemma length_splitOn_le (sep : α) (l : List α) : (l.splitOn sep).length ≤ l.length + 1 := by
  induction l using cut_induction sep with
  | single l hcut =>
    rw [splitOn_of_cut_eq_none hcut]
    simp
  | more l a b hcut ih =>
    have hlt := length_lt_of_cut_eq_some hcut
    rw [splitOn_of_cut_eq_some hcut, length_cons]
    omega

lemma length_le_of_mem_splitOn {p : List α} (h : p ∈ l.splitOn sep) : p.length ≤ l.length := by
  induction l using cut_induction sep with
  | single l hcut =>
    rw [splitOn_of_cut_eq_none hcut, mem_singleton] at h
    exact Nat.le_of_eq (congrArg List.length h)
  | more l a b hcut ih =>
    have hlt := length_lt_of_cut_eq_some hcut
    rw [splitOn_of_cut_eq_some hcut] at h
    rcases mem_cons.mp h with rfl | h
    · obtain ⟨rfl, -⟩ := cut_eq_some hcut
      simp
    · exact Nat.le_trans (ih h) (Nat.le_of_lt hlt)

end QuickAssist.Lib
