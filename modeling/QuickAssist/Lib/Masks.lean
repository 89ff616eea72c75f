import Mathlib.Data.List.Perm.Basic

/-!
# Sets of resources that are handed out, as masks

What each holder has is a mask with one bit for each resource, and one more mask says which resources are in use. The
masks of the holders should be a partition of it. `Partition` does not depend on the order of the holders, and it is
kept when resources are given to a holder, given back, and when a holder leaves with all it has.
-/

namespace QuickAssist.Lib.Masks

open BitVec

variable {w : ℕ} {ms ms' : List (BitVec w)} {m used x : BitVec w}

/-- All bits of some masks. -/
def union (ms : List (BitVec w)) : BitVec w := ms.foldr (· ||| ·) 0#w

/-- No two masks share a bit. -/
def Apart (m m' : BitVec w) : Prop := m &&& m' = 0#w

/-- Every bit of the first mask is one of the second. -/
def Within (x m : BitVec w) : Prop := x &&& m = x
  deriving Decidable

/-- The masks of the holders are a partition of what is in use. -/
structure Partition (ms : List (BitVec w)) (used : BitVec w) : Prop where
  apart : ms.Pairwise Apart
  used_eq : used = union ms

/-! ## Bit by bit -/

@[simp] lemma union_cons : union (m :: ms) = m ||| union ms := rfl

lemma apart_iff {m m' : BitVec w} : Apart m m' ↔ ∀ k < w, m.getLsbD k = true → m'.getLsbD k = false := by
  constructor
  · intro h k hk hm
    have hbit := congrArg (fun b => b.getLsbD k) h
    simpa [hm] using hbit
  · intro h
    apply eq_of_getLsbD_eq
    intro k hk
    specialize h k hk
    simp only [getLsbD_and, getLsbD_zero]
    cases hm : m.getLsbD k
    · rfl
    · rw [h hm]
      rfl

lemma Apart.symm {m m' : BitVec w} (h : Apart m m') : Apart m' m := by
  unfold Apart at h ⊢
  rwa [BitVec.and_comm]

lemma within_iff : Within x m ↔ ∀ k < w, x.getLsbD k = true → m.getLsbD k = true := by
  constructor
  · intro h k _ hx
    have hbit := congrArg (fun b => b.getLsbD k) h
    simpa [hx] using hbit
  · intro h
    apply eq_of_getLsbD_eq
    intro k hk
    specialize h k hk
    simp only [getLsbD_and]
    cases hx : x.getLsbD k
    · rfl
    · rw [h hx]
      rfl

lemma getLsbD_union {k : ℕ} : (union ms).getLsbD k = true ↔ ∃ m ∈ ms, m.getLsbD k = true := by
  induction ms with
  | nil => simp [union]
  | cons m ms ih => simp [ih]

lemma within_union (h : m ∈ ms) : Within m (union ms) := within_iff.mpr fun _ _ hk => getLsbD_union.mpr ⟨m, h, hk⟩

lemma apart_of_apart_union (h : Apart (union ms) x) (hm : m ∈ ms) : Apart m x :=
  apart_iff.mpr fun k hk hbit => apart_iff.mp h k hk (within_iff.mp (within_union hm) k hk hbit)

/-! ## Partitions -/

lemma Partition.perm (h : Partition ms used) (hp : ms.Perm ms') : Partition ms' used := by
  constructor
  · exact (hp.pairwise_iff fun hap => hap.symm).mp h.apart
  · rw [h.used_eq]
    apply eq_of_getLsbD_eq
    intro k _
    rw [Bool.eq_iff_iff, getLsbD_union, getLsbD_union]
    simp only [hp.mem_iff]

lemma partition_cons :
    Partition (m :: ms) used ↔ (∀ m' ∈ ms, Apart m m') ∧ Partition ms (union ms) ∧ used = m ||| union ms := by
  constructor
  · rintro ⟨hap, hused⟩
    obtain ⟨hm, hms⟩ := List.pairwise_cons.mp hap
    exact ⟨hm, ⟨hms, rfl⟩, hused⟩
  · rintro ⟨hm, hms, hused⟩
    exact ⟨List.pairwise_cons.mpr ⟨hm, hms.apart⟩, hused⟩

lemma Partition.cons_zero (h : Partition ms used) : Partition (0#w :: ms) used := by
  refine partition_cons.mpr ⟨?_, ⟨h.apart, rfl⟩, ?_⟩
  · intro m' _
    simp [Apart]
  · simp [h.used_eq]

lemma Partition.give (h : Partition (m :: ms) used) (hx : Apart used x) :
    Partition ((m ||| x) :: ms) (used ||| x) := by
  obtain ⟨hm, hms, hused⟩ := partition_cons.mp h
  rw [h.used_eq] at hx
  refine partition_cons.mpr ⟨?_, hms, ?_⟩
  · intro m' hm'
    have hxm' : Apart m' x := apart_of_apart_union hx (List.mem_cons_of_mem m hm')
    rw [apart_iff] at hxm' ⊢
    intro k hk hbit
    rw [getLsbD_or, Bool.or_eq_true] at hbit
    rcases hbit with hbit | hbit
    · exact apart_iff.mp (hm m' hm') k hk hbit
    · cases hk' : m'.getLsbD k
      · rfl
      · exact absurd (hxm' k hk hk') (by rw [hbit]; exact Bool.noConfusion)
  · rw [hused, BitVec.or_assoc, BitVec.or_comm (union ms), ← BitVec.or_assoc]

lemma or_and_not (hap : ∀ m' ∈ ms, Apart m m') (hx : Within x m) :
    (m ||| union ms) &&& ~~~x = (m &&& ~~~x) ||| union ms := by
  apply eq_of_getLsbD_eq
  intro k hk
  simp only [getLsbD_and, getLsbD_or, getLsbD_not, hk, decide_true, Bool.true_and]
  cases hxk : x.getLsbD k
  · simp
  · -- the bit is one of the first mask, so of no other
    have hmk := within_iff.mp hx k hk hxk
    have hothers : (union ms).getLsbD k = false := by
      rw [Bool.eq_false_iff, ne_eq, getLsbD_union]
      rintro ⟨m', hm', hbit⟩
      exact absurd (apart_iff.mp (hap m' hm') k hk hmk) (by rw [hbit]; exact Bool.noConfusion)
    simp [hothers]

lemma Partition.take (h : Partition (m :: ms) used) (hx : Within x m) :
    Partition ((m &&& ~~~x) :: ms) (used &&& ~~~x) := by
  obtain ⟨hm, hms, hused⟩ := partition_cons.mp h
  refine partition_cons.mpr ⟨?_, hms, ?_⟩
  · intro m' hm'
    rw [apart_iff]
    intro k hk hbit
    rw [getLsbD_and, Bool.and_eq_true] at hbit
    exact apart_iff.mp (hm m' hm') k hk hbit.1
  · rw [hused, or_and_not hm hx]

lemma Partition.leave (h : Partition (m :: ms) used) : Partition ms (used &&& ~~~m) := by
  have htake := h.take (x := m) BitVec.and_self
  obtain ⟨-, hms, hused⟩ := partition_cons.mp htake
  have hrest : m &&& ~~~m ||| union ms = union ms := by simp
  rw [hused, hrest]
  exact hms

end QuickAssist.Lib.Masks
