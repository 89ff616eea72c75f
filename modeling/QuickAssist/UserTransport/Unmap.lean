import Mathlib.Data.List.Basic

/-!
# Unmapping the rings of a device

When a device goes down, `adf_user_unmap_rings` is to free the buffer of every ring the process has created on it,
whichever bank the ring is in.

**The defect.** The outer loop counts the banks but never moves on from the first, and the inner loop counts the rings
but takes the slot of the outer count. What is freed is the buffers of the first bank, up to as many rings as there are
banks, and with more banks than rings in a bank the loops read beyond the array of the first (`unmap_leaves`).
-/

namespace QuickAssist.UserTransport

open Option

/-! ## The loops -/

/-- The rings of a device. A ring is given by the number of its bank and its number in the bank.
Source: `icp_accel_dev_t`. -/
structure Device where
  maxNumBanks : ℕ
  maxNumRingsPerBank : ℕ
  /-- The ring array of a bank, if it has one, and whether a slot of it holds a handle. -/
  rings : ℕ → Option (ℕ → Bool)
  ringVirtAddr : ℕ × ℕ → Bool
  freed : List (ℕ × ℕ)

def adfRingFreebuf (d : Device) (p : ℕ × ℕ) : Device :=
  if d.ringVirtAddr p then
    { d with ringVirtAddr := Function.update d.ringVirtAddr p false, freed := d.freed ++ [p] }
  else d

/-- What the inner loop does each time: it looks at slot `i` of the array. -/
def unmapSlot (d : Device) (bank i : ℕ) : Option Device := do
  let rings ← d.rings bank
  if d.maxNumRingsPerBank ≤ i then none
  else return if rings i then adfRingFreebuf d (bank, i) else d

def unmapRing (bank i : ℕ) : ℕ → Device → Option Device
  | 0, d => some d
  | k + 1, d => do
      let d ← unmapSlot d bank i
      unmapRing bank i k d

/-- The outer loop from `i` on, with the number of times it is still to run. -/
def unmapBank (bank : ℕ) : ℕ → ℕ → Device → Option Device
  | _, 0, d => some d
  | i, k + 1, d =>
    if (d.rings bank).isNone then unmapBank bank (i + 1) k d
    else do
      let d ← unmapRing bank i d.maxNumRingsPerBank d
      unmapBank bank (i + 1) k d

def adfUserUnmapRings (d : Device) : Option Device := unmapBank 0 0 d.maxNumBanks d

/-! ## What the loops free -/

def slotFreed (d : Device) (rings : ℕ → Bool) (bank i : ℕ) : Device :=
  if rings i then adfRingFreebuf d (bank, i) else d

@[simp] lemma adfRingFreebuf_rings (d : Device) (p : ℕ × ℕ) : (adfRingFreebuf d p).rings = d.rings := by
  unfold adfRingFreebuf
  split <;> rfl

@[simp] lemma adfRingFreebuf_maxNumRingsPerBank (d : Device) (p : ℕ × ℕ) :
    (adfRingFreebuf d p).maxNumRingsPerBank = d.maxNumRingsPerBank := by
  unfold adfRingFreebuf
  split <;> rfl

lemma adfRingFreebuf_idem (d : Device) (p : ℕ × ℕ) : adfRingFreebuf (adfRingFreebuf d p) p = adfRingFreebuf d p := by
  by_cases hbuf : d.ringVirtAddr p = true
  all_goals simp [adfRingFreebuf, hbuf]

lemma count_adfRingFreebuf (d : Device) (p q : ℕ × ℕ) : (adfRingFreebuf d p).freed.count q =
      d.freed.count q + if p = q ∧ d.ringVirtAddr q then 1 else 0 := by
  by_cases hpq : p = q
  · subst hpq
    by_cases hbuf : d.ringVirtAddr p = true
    all_goals simp [adfRingFreebuf, hbuf]
  · by_cases hbuf : d.ringVirtAddr p = true
    all_goals simp [adfRingFreebuf, hbuf, hpq]

lemma ringVirtAddr_adfRingFreebuf {d : Device} {p q : ℕ × ℕ} (h : q ≠ p) :
    (adfRingFreebuf d p).ringVirtAddr q = d.ringVirtAddr q := by
  unfold adfRingFreebuf
  split
  · exact Function.update_of_ne h ..
  · rfl

section

variable {d : Device} {rings : ℕ → Bool} {bank i : ℕ}

lemma unmapSlot_eq (hrings : d.rings bank = some rings) (hi : i < d.maxNumRingsPerBank) :
    unmapSlot d bank i = some (slotFreed d rings bank i) := by
  simp only [unmapSlot, hrings, bind_eq_bind, bind_some, if_neg (Nat.not_le.2 hi)]
  rfl

lemma unmapSlot_beyond (hi : d.maxNumRingsPerBank ≤ i) : unmapSlot d bank i = none := by
  unfold unmapSlot
  cases d.rings bank with
  | none => rfl
  | some rings => simp [hi]

lemma slotFreed_rings : (slotFreed d rings bank i).rings = d.rings := by
  unfold slotFreed
  split
  · exact adfRingFreebuf_rings d _
  · rfl

lemma slotFreed_maxNumRingsPerBank : (slotFreed d rings bank i).maxNumRingsPerBank = d.maxNumRingsPerBank := by
  unfold slotFreed
  split
  · exact adfRingFreebuf_maxNumRingsPerBank d _
  · rfl

lemma slotFreed_idem : slotFreed (slotFreed d rings bank i) rings bank i = slotFreed d rings bank i := by
  unfold slotFreed
  split
  · exact adfRingFreebuf_idem d _
  · rfl

lemma unmapRing_eq (hrings : d.rings bank = some rings) (hi : i < d.maxNumRingsPerBank) (k : ℕ) :
    unmapRing bank i (k + 1) d = some (slotFreed d rings bank i) := by
  induction k generalizing d with
  | zero =>
    simp only [unmapRing, unmapSlot_eq hrings hi]
    rfl
  | succ k ih =>
    rw [unmapRing, unmapSlot_eq hrings hi]
    have hrings' : (slotFreed d rings bank i).rings bank = some rings := by
      rw [slotFreed_rings, hrings]
    have hi' : i < (slotFreed d rings bank i).maxNumRingsPerBank := by
      rw [slotFreed_maxNumRingsPerBank]
      exact hi
    exact (ih hrings' hi').trans (congrArg some slotFreed_idem)

lemma count_slotFreed (q : ℕ × ℕ) : (slotFreed d rings bank i).freed.count q =
      d.freed.count q + if q = (bank, i) ∧ rings i ∧ d.ringVirtAddr q then 1 else 0 := by
  by_cases hslot : rings i = true
  · simp only [slotFreed, hslot, if_true, count_adfRingFreebuf, true_and, eq_comm]
  · simp [slotFreed, hslot]

lemma ringVirtAddr_slotFreed {q : ℕ × ℕ} (h : q ≠ (bank, i)) :
    (slotFreed d rings bank i).ringVirtAddr q = d.ringVirtAddr q := by
  unfold slotFreed
  split
  · exact ringVirtAddr_adfRingFreebuf h
  · rfl

section

variable (hrings : d.rings bank = some rings) (hmax : 0 < d.maxNumRingsPerBank)

include hrings hmax

/-- **One round of the outer loop**, on a bank that has a ring array. -/
theorem unmapBank_succ (k : ℕ) : unmapBank bank i (k + 1) d =
      if i < d.maxNumRingsPerBank then unmapBank bank (i + 1) k (slotFreed d rings bank i)
      else none := by
  obtain ⟨m, hm⟩ := Nat.exists_eq_succ_of_ne_zero (Nat.pos_iff_ne_zero.1 hmax)
  simp only [unmapBank, hrings, isNone_some, Bool.false_eq_true, if_false]
  split
  next hi =>
    rw [hm, unmapRing_eq hrings hi]
    rfl
  next hi =>
    rw [hm, unmapRing, unmapSlot_beyond (Nat.not_lt.1 hi)]
    rfl

lemma unmapBank_isSome_iff {k : ℕ} : (unmapBank bank i k d).isSome = true ↔ k = 0 ∨ i + k ≤ d.maxNumRingsPerBank := by
  induction k generalizing i d with
  | zero => simp [unmapBank]
  | succ k ih =>
    rw [unmapBank_succ hrings hmax]
    split
    next hi =>
      rw [ih (by rw [slotFreed_rings, hrings]) (by rwa [slotFreed_maxNumRingsPerBank]), slotFreed_maxNumRingsPerBank]
      omega
    next hi =>
      constructor
      · intro h
        exact nomatch h
      · intro h
        omega

/-- **How often the loops free a buffer**, if they stay within the array: those of the slots they come
to, once. -/
theorem unmapBank_count {d' : Device} {k : ℕ} (h : unmapBank bank i k d = some d') (q : ℕ × ℕ) :
    d'.freed.count q = d.freed.count q +
      if q.1 = bank ∧ (i ≤ q.2 ∧ q.2 < i + k) ∧ rings q.2 ∧ d.ringVirtAddr q then 1 else 0 := by
  induction k generalizing i d with
  | zero =>
    cases h
    rw [if_neg (by omega), Nat.add_zero]
  | succ k ih =>
    rw [unmapBank_succ hrings hmax] at h
    split at h
    next hi =>
      rw [ih (by rw [slotFreed_rings, hrings]) (by rwa [slotFreed_maxNumRingsPerBank]) h,
        count_slotFreed, Nat.add_assoc]
      by_cases hq : q = (bank, i)
      · subst hq
        -- this round comes to the slot, and no later one does
        rw [if_neg (c := bank = bank ∧ _) (by omega), Nat.add_zero]
        simp
      · rw [if_neg (fun h => hq h.1), Nat.zero_add, ringVirtAddr_slotFreed hq]
        congr 2
        apply propext
        constructor <;> grind
    next hi => cases h

end

end

/-! ## The result -/

def Device.Created (d : Device) (p : ℕ × ℕ) : Prop :=
  p.1 < d.maxNumBanks ∧ p.2 < d.maxNumRingsPerBank ∧ ∃ rings, d.rings p.1 = some rings ∧ rings p.2 = true

def Device.Up (d : Device) : Prop := d.freed = [] ∧ ∀ p, d.Created p → d.ringVirtAddr p = true

/-- The loops come to every ring and not further: all are in the first bank, among the first as many as there
are banks, and its array has as many slots. -/
def Device.Reached (d : Device) : Prop :=
  (∀ p, d.Created p → p.1 = 0 ∧ p.2 < d.maxNumBanks) ∧
    ((d.rings 0).isSome = true → 0 < d.maxNumRingsPerBank → d.maxNumBanks ≤ d.maxNumRingsPerBank)

lemma unmapBank_none {d : Device} {bank : ℕ} (hrings : d.rings bank = none) (i k : ℕ) :
    unmapBank bank i k d = some d := by
  induction k generalizing i with
  | zero => rfl
  | succ k ih =>
    simp only [unmapBank, hrings, isNone_none, if_true]
    exact ih (i + 1)

lemma unmapBank_no_rings {d : Device} (hmax : d.maxNumRingsPerBank = 0) (bank i k : ℕ) :
    unmapBank bank i k d = some d := by
  induction k generalizing i with
  | zero => rfl
  | succ k ih =>
    simp only [unmapBank]
    split
    · exact ih (i + 1)
    · rw [hmax]
      exact ih (i + 1)

lemma adfUserUnmapRings_isSome_iff (d : Device) : (adfUserUnmapRings d).isSome = true ↔
      ((d.rings 0).isSome = true → 0 < d.maxNumRingsPerBank → d.maxNumBanks ≤ d.maxNumRingsPerBank) := by
  unfold adfUserUnmapRings
  cases hrings : d.rings 0 with
  | none => simp [unmapBank_none hrings]
  | some rings =>
    rcases Nat.eq_zero_or_pos d.maxNumRingsPerBank with hmax | hmax
    · simp [unmapBank_no_rings hmax, hmax]
    · rw [unmapBank_isSome_iff hrings hmax]
      simp only [isSome_some, hmax, true_implies]
      omega

lemma adfUserUnmapRings_count {d d' : Device} (hup : d.Up) (h : adfUserUnmapRings d = some d')
    {p : ℕ × ℕ} (hp : d.Created p) : d'.freed.count p = 1 ↔ p.1 = 0 ∧ p.2 < d.maxNumBanks := by
  have hbuf := hup.2 p hp
  obtain ⟨-, hlt, rings, hrings, hslot⟩ := hp
  cases hfirst : d.rings 0 with
  | none =>
    rw [adfUserUnmapRings, unmapBank_none hfirst] at h
    cases h
    have hbank : p.1 ≠ 0 := by
      intro hbank
      rw [hbank, hfirst] at hrings
      exact nomatch hrings
    simp [hup.1, hbank]
  | some first =>
    rw [unmapBank_count hfirst (Nat.zero_lt_of_lt hlt) h p, hup.1]
    by_cases hbank : p.1 = 0
    · rw [hbank, hfirst] at hrings
      cases hrings
      simp [hbank, hslot, hbuf]
    · simp [hbank]

/-- **Unmapping the rings of a device frees every buffer, and once, exactly if the device is reached.** -/
theorem unmap_frees_iff {d : Device} (hup : d.Up) :
    (∃ d', adfUserUnmapRings d = some d' ∧ ∀ p, d.Created p → d'.freed.count p = 1) ↔ d.Reached := by
  constructor
  · rintro ⟨d', h, hfreed⟩
    refine ⟨fun p hp => (adfUserUnmapRings_count hup h hp).1 (hfreed p hp), ?_⟩
    apply (adfUserUnmapRings_isSome_iff d).1
    rw [h]
    rfl
  · rintro ⟨hrings, hslots⟩
    obtain ⟨d', h⟩ := isSome_iff_exists.1 ((adfUserUnmapRings_isSome_iff d).2 hslots)
    exact ⟨d', h, fun p hp => (adfUserUnmapRings_count hup h hp).2 (hrings p hp)⟩

/-- A device with as many banks as given and 16 rings in each, on which the process has one ring. -/
def oneRing (maxNumBanks : ℕ) (p : ℕ × ℕ) : Device where
  maxNumBanks := maxNumBanks
  maxNumRingsPerBank := 16
  rings bank := if bank = p.1 then some fun l => decide (l = p.2) else none
  ringVirtAddr q := decide (q = p)
  freed := []

lemma oneRing_created {m : ℕ} {p q : ℕ × ℕ} (h : (oneRing m p).Created q) : q = p := by
  obtain ⟨-, -, rings, hrings, hslot⟩ := h
  simp only [oneRing] at hrings
  split_ifs at hrings with hbank
  cases hrings
  exact Prod.ext hbank (of_decide_eq_true hslot)

lemma oneRing_up (m : ℕ) (p : ℕ × ℕ) : (oneRing m p).Up := ⟨rfl, fun _ hq => decide_eq_true (oneRing_created hq)⟩

/-- The first ring of the first bank is freed. -/
theorem first_ring_freed : ∃ d', adfUserUnmapRings (oneRing 2 (0, 0)) = some d' ∧
    ∀ p, (oneRing 2 (0, 0)).Created p → d'.freed.count p = 1 := by
  refine (unmap_frees_iff (oneRing_up 2 (0, 0))).2 ⟨?_, ?_⟩
  · intro p hp
    rw [oneRing_created hp]
    exact ⟨rfl, by decide⟩
  · exact fun _ _ => by decide

/-- Of two banks, most buffers stay allocated. With 17, a ring of the first is enough for the loops to read
beyond its array. -/
theorem unmap_leaves :
    (oneRing 2 (1, 0)).Created (1, 0) ∧ (adfUserUnmapRings (oneRing 2 (1, 0))).map Device.freed = some [] ∧
    (oneRing 2 (0, 2)).Created (0, 2) ∧ (adfUserUnmapRings (oneRing 2 (0, 2))).map Device.freed = some [] ∧
    (oneRing 17 (0, 0)).Created (0, 0) ∧ (adfUserUnmapRings (oneRing 17 (0, 0))).isNone = true := by
  refine ⟨⟨?_, ?_, _, rfl, rfl⟩, rfl, ⟨?_, ?_, _, rfl, rfl⟩, rfl, ⟨?_, ?_, _, rfl, rfl⟩, rfl⟩
  all_goals decide

end QuickAssist.UserTransport
