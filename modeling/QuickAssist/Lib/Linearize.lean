import Mathlib.Data.List.Nodup

/-!
# Linearizability

Each operation on an object begins with a call and ends with a return, and between the two others may begin and end.
The object is linearizable if what the parties see could come from the operations being carried out one after the
other: each at some moment between its call and its return.

**How to show it.** `Linearizes.nil`, `.call`, `.take` and `.ret` build the order along a run: the party that calls
adds to the history, the step that decides about an operation adds it to the order, with the result the object then
gives, and a return may give that result.
-/

namespace QuickAssist.Lib

open List

variable {κ σ ο ρ : Type*}

/-- What happens at the object. -/
inductive HistEvent (κ ο ρ : Type*)
  | call (k : κ) (op : ο)
  | ret (k : κ) (res : ρ)

/-- An operation that was carried out. -/
@[ext]
structure Taken (κ ο ρ : Type*) where
  id : κ
  op : ο
  res : ρ

/-- Carried out one after the other, the operations have their results. -/
def Legal (spec : σ → ο → σ × ρ) : σ → List (Taken κ ο ρ) → σ → Prop
  | s, [], s' => s = s'
  | s, e :: es, s' => (spec s e.op).2 = e.res ∧ Legal spec (spec s e.op).1 es s'

/-- An operation has returned before another was called. -/
def Precedes (hist : List (HistEvent κ ο ρ)) (k k' : κ) : Prop :=
  ∃ a b c res op, hist = a ++ HistEvent.ret k res :: (b ++ HistEvent.call k' op :: c)

/-- An order in which the operations of a history could have been carried out. -/
structure Linearizes (spec : σ → ο → σ × ρ) (s : σ) (hist : List (HistEvent κ ο ρ))
    (lin : List (Taken κ ο ρ)) (s' : σ) : Prop where
  legal : Legal spec s lin s'
  nodup : (lin.map Taken.id).Nodup
  called : ∀ e ∈ lin, HistEvent.call e.id e.op ∈ hist
  /-- Those that have returned are among them, with what they have returned. -/
  returned : ∀ k res, HistEvent.ret k res ∈ hist → ∃ op, ⟨k, op, res⟩ ∈ lin
  order : ∀ l₁ e l₂, lin = l₁ ++ e :: l₂ → ∀ k, Precedes hist k e.id → ∃ e' ∈ l₁, e'.id = k

/-- There is such an order. -/
def Linearizable (spec : σ → ο → σ × ρ) (s : σ) (hist : List (HistEvent κ ο ρ)) : Prop :=
  ∃ lin s', Linearizes spec s hist lin s'

lemma Legal.append_one {spec : σ → ο → σ × ρ} {s s' : σ} {lin : List (Taken κ ο ρ)}
    (h : Legal spec s lin s') (k : κ) (op : ο) : Legal spec s (lin ++ [⟨k, op, (spec s' op).2⟩]) (spec s' op).1 := by
  induction lin generalizing s with
  | nil =>
    obtain rfl : s = s' := h
    exact ⟨rfl, rfl⟩
  | cons e es ih => exact ⟨h.1, ih h.2⟩

lemma Precedes.returned {hist : List (HistEvent κ ο ρ)} {k k' : κ} (h : Precedes hist k k') :
    ∃ res, HistEvent.ret k res ∈ hist := by
  obtain ⟨a, b, c, res, op, rfl⟩ := h
  exact ⟨res, by simp⟩

lemma Precedes.of_append {hist : List (HistEvent κ ο ρ)} {e : HistEvent κ ο ρ} {k k' : κ}
    (h : Precedes (hist ++ [e]) k k') (he : ∀ op, e ≠ .call k' op) : Precedes hist k k' := by
  obtain ⟨a, b, c, res, op, heq⟩ := h
  rcases eq_nil_or_concat c with rfl | ⟨c', last, rfl⟩
  · -- the call would be the new event
    have heq : hist ++ [e] = (a ++ HistEvent.ret k res :: b) ++ [HistEvent.call k' op] := by
      rw [heq, append_assoc, cons_append]
    exact absurd (append_singleton_inj.1 heq).2 (he op)
  · refine ⟨a, b, c', res, op, ?_⟩
    have heq : hist ++ [e] = (a ++ HistEvent.ret k res :: (b ++ HistEvent.call k' op :: c')) ++ [last] := by
      rw [heq]
      simp
    exact (append_singleton_inj.1 heq).1

namespace Linearizes

variable {spec : σ → ο → σ × ρ} {s s' : σ} {hist : List (HistEvent κ ο ρ)} {lin : List (Taken κ ο ρ)} {k : κ}

lemma nil (spec : σ → ο → σ × ρ) (s : σ) : Linearizes spec s ([] : List (HistEvent κ ο ρ)) [] s where
  legal := rfl
  nodup := nodup_nil
  called _ he := absurd he not_mem_nil
  returned _ _ h := absurd h not_mem_nil
  order l₁ e l₂ h := by simp at h

/-- **A call** under a new name. -/
theorem call (h : Linearizes spec s hist lin s') (hk : ∀ op, HistEvent.call k op ∉ hist) (op : ο) :
    Linearizes spec s (hist ++ [.call k op]) lin s' where
  legal := h.legal
  nodup := h.nodup
  called e he := mem_append_left _ (h.called e he)
  returned k' res hret := by
    rcases mem_append.1 hret with hret | hret
    · exact h.returned k' res hret
    · simp at hret
  order l₁ e l₂ heq k' hprec := by
    apply h.order l₁ e l₂ heq k'
    apply hprec.of_append
    intro op' hcall
    -- an operation in the order was called before
    have hmem : e ∈ lin := heq ▸ mem_append_right _ mem_cons_self
    cases hcall
    exact hk e.op (h.called e hmem)

/-- **An operation is carried out** that was called and has not been yet. -/
theorem take (h : Linearizes spec s hist lin s') {op : ο} (hcall : HistEvent.call k op ∈ hist)
    (hk : k ∉ lin.map Taken.id) : Linearizes spec s hist (lin ++ [⟨k, op, (spec s' op).2⟩]) (spec s' op).1 where
  legal := h.legal.append_one k op
  nodup := by
    rw [map_append, map_singleton]
    refine nodup_append.2 ⟨h.nodup, nodup_singleton _, ?_⟩
    intro a ha b hb heq
    rw [heq, mem_singleton.1 hb] at ha
    exact hk ha
  called e he := by
    rcases mem_append.1 he with he | he
    · exact h.called e he
    · rw [mem_singleton.1 he]
      exact hcall
  returned k' res hret := by
    obtain ⟨op', hmem⟩ := h.returned k' res hret
    exact ⟨op', mem_append_left _ hmem⟩
  order l₁ e l₂ heq k' hprec := by
    rcases eq_nil_or_concat l₂ with rfl | ⟨l₂', last, rfl⟩
    · -- it is the new one, and what has returned is in the order already
      obtain ⟨rfl, -⟩ := append_singleton_inj.1 heq
      obtain ⟨res, hret⟩ := hprec.returned
      obtain ⟨op', hmem⟩ := h.returned k' res hret
      exact ⟨_, hmem, rfl⟩
    · have heq : lin ++ [_] = (l₁ ++ e :: l₂') ++ [last] := heq.trans (by simp)
      exact h.order l₁ e l₂' (append_singleton_inj.1 heq).1 k' hprec

/-- **A return** of an operation that was carried out, with its result. -/
theorem ret (h : Linearizes spec s hist lin s') {op : ο} {res : ρ} (hmem : ⟨k, op, res⟩ ∈ lin) :
    Linearizes spec s (hist ++ [.ret k res]) lin s' where
  legal := h.legal
  nodup := h.nodup
  called e he := mem_append_left _ (h.called e he)
  returned k' res' hret := by
    rcases mem_append.1 hret with hret | hret
    · exact h.returned k' res' hret
    · cases mem_singleton.1 hret
      exact ⟨op, hmem⟩
  order l₁ e l₂ heq k' hprec := by
    apply h.order l₁ e l₂ heq k'
    apply hprec.of_append
    intro op' hcall
    cases hcall

end Linearizes

end QuickAssist.Lib
