import Mathlib.Data.List.Basic
import Mathlib.Data.List.GetD

/-!
# Memory that is written in pieces

A memory is a function from offsets to cells. `write` replaces the cells from an offset on by a list, `read` lists the
cells from an offset on. A `Buffer` is a memory with the ranges that were written to it, so that one can say of code
that works with offsets that it stays `Within` an area of some size.
-/

namespace QuickAssist.Lib.Memory

open List

variable {α : Type*}

/-! ## Writing and reading -/

/-- Write a list from an offset on. -/
def write (m : ℕ → α) (off : ℕ) (l : List α) : ℕ → α := fun i => if off ≤ i then l.getD (i - off) (m i) else m i

/-- The `n` cells from an offset on. -/
def read (m : ℕ → α) (off n : ℕ) : List α := (List.range n).map fun i => m (off + i)

variable {m m' : ℕ → α} {off off' n k i : ℕ} {l : List α} {z : α}

@[simp] lemma length_read (m : ℕ → α) (off n : ℕ) : (read m off n).length = n := by
  simp [read]

lemma write_of_lt (h : i < off) : write m off l i = m i := if_neg (Nat.not_le.mpr h)

lemma write_of_le (h : off + l.length ≤ i) : write m off l i = m i := by
  unfold write
  rw [if_pos (by omega), getD_eq_default _ _ (by omega)]

lemma write_of_nil (m : ℕ → α) (off i : ℕ) : write m off [] i = m i := by
  exact ite_self (m i)

lemma write_add (h : i < l.length) : write m off l (off + i) = l[i] := by
  unfold write
  rw [if_pos (Nat.le_add_right off i), Nat.add_sub_cancel_left, getD_eq_getElem _ _ h]

lemma read_congr (h : ∀ i < n, m (off + i) = m' (off' + i)) : read m off n = read m' off' n := by
  apply map_congr_left
  intro i hi
  exact h i (mem_range.mp hi)

lemma read_write_self (m : ℕ → α) (off : ℕ) (l : List α) : read (write m off l) off l.length = l := by
  apply ext_getElem
  · exact length_read _ _ _
  · intro i _ hi
    simp only [read, getElem_map, getElem_range]
    exact write_add hi

lemma read_write_of_disjoint (h : off + n ≤ off' ∨ off' + l.length ≤ off) :
    read (write m off' l) off n = read m off n := by
  apply read_congr
  intro i hi
  rcases h with h | h
  · exact write_of_lt (by omega)
  · exact write_of_le (by omega)

lemma read_add (m : ℕ → α) (off n k : ℕ) : read m off (n + k) = read m off n ++ read m (off + n) k := by
  unfold read
  rw [range_add, map_append, map_map]
  congr 1
  apply map_congr_left
  intro i _
  exact congrArg m (Nat.add_assoc off n i).symm

lemma take_read (h : k ≤ n) : (read m off n).take k = read m off k := by
  obtain ⟨j, rfl⟩ := Nat.exists_eq_add_of_le h
  rw [read_add, take_left' (length_read m off k)]

lemma drop_read (h : k ≤ n) : (read m off n).drop k = read m (off + k) (n - k) := by
  obtain ⟨j, rfl⟩ := Nat.exists_eq_add_of_le h
  rw [read_add, drop_left' (length_read m off k), Nat.add_sub_cancel_left]

lemma read_write_padded (m : ℕ → α) (off : ℕ) (l : List α) (z : α) (k : ℕ) :
    read (write (write m off l) (off + l.length) (List.replicate k z)) off (l.length + k) =
      l ++ List.replicate k z := by
  rw [read_add, read_write_of_disjoint (Or.inl (Nat.le_refl _)), read_write_self]
  congr 1
  have := read_write_self (write m off l) (off + l.length) (List.replicate k z)
  rwa [length_replicate] at this

lemma write_write_append (m : ℕ → α) (off : ℕ) (a b : List α) :
    write (write m off a) (off + a.length) b = write m off (a ++ b) := by
  funext i
  by_cases hb : i < off + a.length
  · rw [write_of_lt hb]
    unfold write
    split
    next h => rw [getD_append _ _ _ _ (by omega)]
    next => rfl
  · unfold write
    rw [if_pos (by omega), if_pos (by omega), getD_append_right _ _ _ _ (by omega),
      getD_eq_default a _ (by omega), if_pos (by omega), Nat.sub_sub]

/-! ## What a memory holds -/

/-- The cells from an offset on are a list. -/
def Holds (m : ℕ → α) (off : ℕ) (l : List α) : Prop := read m off l.length = l

instance [DecidableEq α] (m : ℕ → α) (off : ℕ) (l : List α) : Decidable (Holds m off l) :=
  inferInstanceAs (Decidable (_ = _))

lemma holds_write {m : ℕ → α} {off : ℕ} {l : List α} : Holds (write m off l) off l := read_write_self m off l

lemma holds_append {a b : List α} : Holds m off (a ++ b) ↔ Holds m off a ∧ Holds m (off + a.length) b := by
  unfold Holds
  rw [length_append, read_add]
  constructor
  · intro h
    exact append_inj h (length_read _ _ _)
  · rintro ⟨ha, hb⟩
    rw [ha, hb]

lemma holds_iff : Holds m off l ↔ ∀ i (h : i < l.length), m (off + i) = l[i] := by
  unfold Holds
  constructor
  · intro h i hi
    have hlen : i < (read m off l.length).length := by rwa [length_read]
    have hcell : (read m off l.length)[i] = l[i] := by simp only [h]
    simpa [read] using hcell
  · intro h
    apply ext_getElem (length_read _ _ _)
    intro i _ hi
    simpa [read] using h i hi

lemma holds_replicate : Holds m off (List.replicate n z) ↔ ∀ i < n, m (off + i) = z := by
  simp [holds_iff]

lemma Holds.congr (h : Holds m off l) (heq : ∀ i < l.length, m' (off' + i) = m (off + i)) : Holds m' off' l := by
  unfold Holds at h ⊢
  rw [read_congr heq, h]

lemma Holds.write_of_disjoint {k : List α} (h : Holds m off l)
    (hd : off + l.length ≤ off' ∨ off' + k.length ≤ off := by first | omega | (simp <;> omega)) :
    Holds (write m off' k) off l := by
  unfold Holds at h ⊢
  rw [read_write_of_disjoint hd, h]

lemma Holds.replace {a b b' c : List α} (h : Holds m off (a ++ b ++ c))
    (hlen : b'.length = b.length) : Holds (write m (off + a.length) b') off (a ++ b' ++ c) := by
  rw [append_assoc, holds_append, holds_append] at h ⊢
  obtain ⟨ha, -, hc⟩ := h
  refine ⟨ha.write_of_disjoint, holds_write, ?_⟩
  rw [hlen]
  exact hc.write_of_disjoint (Or.inr (Nat.le_of_eq (by rw [hlen])))

lemma Holds.write_eq (h : Holds m off l) : write m off l = m := by
  funext i
  by_cases hi : off ≤ i ∧ i < off + l.length
  · obtain ⟨j, rfl⟩ := Nat.exists_eq_add_of_le hi.1
    rw [write_add (by omega), holds_iff.mp h j (by omega)]
  · rcases Nat.lt_or_ge i off with hlt | hge
    · exact write_of_lt hlt
    · exact write_of_le (by omega)

/-- Nothing has changed but a range. -/
def SameOutside (m m' : ℕ → α) (off n : ℕ) : Prop := ∀ i, i < off ∨ off + n ≤ i → m' i = m i

lemma sameOutside_write {m : ℕ → α} {off : ℕ} {l : List α} : SameOutside m (write m off l) off l.length := by
  intro i hi
  rcases hi with hi | hi
  · exact write_of_lt hi
  · exact write_of_le hi

lemma SameOutside.trans {m'' : ℕ → α} (h : SameOutside m m' off n) (h' : SameOutside m' m'' off n) :
    SameOutside m m'' off n := by
  intro i hi
  rw [h' i hi, h i hi]

lemma SameOutside.mono (h : SameOutside m m' off n) (hend : off + n ≤ off' + k := by first | omega | (simp <;> omega))
    (hoff : off' ≤ off := by omega) : SameOutside m m' off' k := by
  intro i hi
  exact h i (by omega)

lemma Holds.of_sameOutside (h : Holds m off' l) (hs : SameOutside m m' off n)
    (hd : off' + l.length ≤ off ∨ off + n ≤ off' := by first | omega | (simp <;> omega)) : Holds m' off' l := by
  apply h.congr
  intro i hi
  exact hs _ (by omega)

/-- A memory that holds a list and has not changed elsewhere is what writing the list gives. -/
lemma Holds.eq_write (h : Holds m' off l) (hs : SameOutside m m' off l.length) : m' = write m off l := by
  funext i
  by_cases hi : off ≤ i ∧ i < off + l.length
  · obtain ⟨j, rfl⟩ := Nat.exists_eq_add_of_le hi.1
    rw [write_add (by omega), holds_iff.mp h j (by omega)]
  · rw [hs i (by omega), sameOutside_write i (by omega)]

/-! ## Buffers -/

/-- A memory, and what was written to it. -/
structure Buffer (α : Type*) where
  cells : ℕ → α
  writes : List (ℕ × ℕ)

/-- Write a list from an offset on. -/
def Buffer.write (b : Buffer α) (off : ℕ) (l : List α) : Buffer α :=
  ⟨Memory.write b.cells off l, b.writes ++ [(off, l.length)]⟩

/-- All that was written lies within the first `size` cells. -/
def Buffer.Within (b : Buffer α) (size : ℕ) : Prop := ∀ w ∈ b.writes, w.1 + w.2 ≤ size
  deriving Decidable

/-- A write within the area. -/
@[simp] lemma within_write {b : Buffer α} {size : ℕ} :
    (b.write off l).Within size ↔ b.Within size ∧ off + l.length ≤ size := by
  simp [Buffer.Within, Buffer.write, or_imp, forall_and]

end QuickAssist.Lib.Memory
