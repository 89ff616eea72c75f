import Mathlib.Data.List.Basic

/-!
# Singly linked lists

Nodes are linked by one field, a function `next` on them, and the last one has the value `null` in it.
`NextChain next null a l` says that a walk along the field from `a` meets the nodes `l` and then `null`.
-/

namespace QuickAssist.Lib

variable {α : Type*}

/-- The walk from a node meets these nodes. -/
def NextChain (next : α → α) (null : α) : α → List α → Prop
  | a, [] => a = null
  | a, b :: l => a = b ∧ b ≠ null ∧ NextChain next null (next b) l

namespace NextChain

variable {next next' : α → α} {null a b v : α} {l l' : List α}

lemma cons (hb : b ≠ null) (h : NextChain next null (next b) l) : NextChain next null b (b :: l) := ⟨rfl, hb, h⟩

lemma exists_cons (h : NextChain next null a l) (ha : a ≠ null) :
    ∃ rest, l = a :: rest ∧ NextChain next null (next a) rest := by
  cases l with
  | nil => exact absurd h ha
  | cons b rest =>
    obtain ⟨rfl, -, hrest⟩ := h
    exact ⟨rest, rfl, hrest⟩

lemma eq_nil (h : NextChain next null null l) : l = [] := by
  cases l with
  | nil => rfl
  | cons b rest =>
    obtain ⟨rfl, hne, -⟩ := h
    exact absurd rfl hne

lemma ne_null (h : NextChain next null a l) (hb : b ∈ l) : b ≠ null := by
  induction l generalizing a with
  | nil => cases hb
  | cons c rest ih =>
    obtain ⟨rfl, hne, hrest⟩ := h
    rcases List.mem_cons.1 hb with rfl | hmem
    · exact hne
    · exact ih hrest hmem

/-- **Only the fields of its own nodes matter.** -/
theorem congr (h : NextChain next null a l) (hnext : ∀ b ∈ l, next' b = next b) : NextChain next' null a l := by
  induction l generalizing a with
  | nil => exact h
  | cons c rest ih =>
    obtain ⟨rfl, hne, hrest⟩ := h
    refine ⟨rfl, hne, ?_⟩
    rw [hnext a List.mem_cons_self]
    apply ih hrest
    exact fun b hb => hnext b (List.mem_cons_of_mem _ hb)

end NextChain

end QuickAssist.Lib
