import QuickAssist.Uio.Bundle
import QuickAssist.Lib.Masks
import QuickAssist.Lib.Run

/-!
# Which rings belong to whom

The rings that are reserved are kept twice: in the entries of the processes, and in the mask of the bundle, which is
what a reservation is checked against.

**The defects.** The two agree only as long as two things do not happen (`rings_lost_and_taken`).
`adf_uio_do_cleanup_orphan` returns early if there is no memory to clean up the rings of a process, past the place that
releases them; the entry is deleted all the same, and its rings stay in the mask of the bundle for ever. And unlike a
release, enabling and disabling rings is not checked against the entry of the process.
-/

namespace QuickAssist.Uio

open Lib List BitVec

variable {b : ControlBundle} {pid vma : ℕ} {mask bases : U16} {orphan : Bool}

/-! ## The two masks -/

def masks (list : List InstanceRings) : List U16 := list.map InstanceRings.ringMask

def reserved (list : List InstanceRings) (pid : ℕ) : U16 := Masks.union (masks (list.filter fun e => e.userPid = pid))

def Consistent (b : ControlBundle) : Prop := Masks.Partition (masks b.list) b.ringsUsed

variable {list : List InstanceRings} {k : ℕ}

lemma exists_split_of_entryOf {e : InstanceRings} (h : entryOf list pid = some e) :
    ∃ rest, (masks list).Perm (e.ringMask :: rest) ∧
      (∀ f, (masks (updateEntry pid f list)).Perm ((f e).ringMask :: rest)) ∧
      (masks (Assoc.removeFirst InstanceRings.userPid pid list)).Perm rest := by
  obtain ⟨l₁, l₂, hl, hmodify, hremove⟩ := Assoc.exists_split_of_find h
  refine ⟨masks (l₁ ++ l₂), ?_, ?_, ?_⟩
  · rw [hl]
    exact perm_middle.map InstanceRings.ringMask
  · intro f
    rw [show updateEntry pid f list = l₁ ++ f e :: l₂ from hmodify f]
    exact perm_middle.map InstanceRings.ringMask
  · rw [hremove]

lemma within_reserved {e : InstanceRings}
    (h : entryOf list pid = some e) : Masks.Within e.ringMask (reserved list pid) := by
  apply Masks.within_union
  apply mem_map_of_mem
  exact mem_filter.mpr ⟨Assoc.mem_of_find h, decide_eq_true (Assoc.key_of_find h)⟩

/-! ## The calls -/

lemma reserveRing_consistent (h : Consistent b) : Consistent (reserveRing pid mask b).1 := by
  unfold reserveRing
  split_ifs with hused
  · exact h
  · split
    next => exact h
    next e hentry =>
      obtain ⟨rest, hlist, hupdate, -⟩ := exists_split_of_entryOf hentry
      have hgive := (h.perm hlist).give (not_not.mp hused)
      exact hgive.perm (hupdate fun e => { e with ringMask := e.ringMask ||| mask }).symm

lemma releaseRing_consistent (h : Consistent b) : Consistent (releaseRing pid mask b).1 := by
  unfold releaseRing
  split
  next => exact h
  next e hentry =>
    split_ifs with howned
    · exact h
    · obtain ⟨rest, hlist, hupdate, -⟩ := exists_split_of_entryOf hentry
      have hwithin : Masks.Within mask e.ringMask := by
        unfold Masks.Within
        rw [BitVec.and_comm]
        exact not_not.mp howned
      have htake := (h.perm hlist).take hwithin
      exact htake.perm (hupdate fun e => { e with ringMask := e.ringMask &&& ~~~mask }).symm

lemma ioctl_consistent (call : Ioctl) (h : Consistent b) : Consistent (call.run pid mask b).1 := by
  cases call with
  | reserve => exact reserveRing_consistent h
  | release => exact releaseRing_consistent h
  | enable | disable => exact h

lemma mmap_consistent {alloc remapped : Bool} (h : Consistent b) : Consistent (mmap pid vma alloc remapped b).1 := by
  unfold mmap
  split_ifs
  · exact h
  · exact h
  · have hnew := Masks.Partition.cons_zero h
    refine hnew.perm ?_
    unfold masks
    rw [map_append]
    exact (perm_append_singleton _ _).symm

/-! ## Closing a mapping -/

lemma masks_pidFixup (list : List InstanceRings) : masks (pidFixup pid vma list) = masks list := by
  induction list with
  | nil => rfl
  | cons e es ih =>
    simp only [pidFixup]
    split_ifs
    · rfl
    · rfl
    · exact congrArg (e.ringMask :: ·) ih

def leftMask (pid vma : ℕ) (list : List InstanceRings) : U16 :=
  ((entryOf (pidFixup pid vma list) pid).map InstanceRings.ringMask).getD 0

lemma and_not_zero (used : U16) : used &&& ~~~0#16 = used := by
  rw [not_zero, and_allOnes]

lemma forceRelease_spec (pid : ℕ) (b : ControlBundle) : (forceRelease pid b).list = b.list ∧
      (forceRelease pid b).ringsUsed =
        b.ringsUsed &&& ~~~((entryOf b.list pid).map InstanceRings.ringMask).getD 0 := by
  unfold forceRelease
  cases h : entryOf b.list pid with
  | some e => exact ⟨rfl, rfl⟩
  | none => exact ⟨rfl, (and_not_zero b.ringsUsed).symm⟩

lemma doCleanupOrphan_spec (pid : ℕ) (bases : U16) (orphan : Bool) (b : ControlBundle) :
    (doCleanupOrphan pid bases orphan b).list = b.list ∧ (doCleanupOrphan pid bases orphan b).ringsUsed =
        if bases ≠ 0 ∧ orphan = false then b.ringsUsed
        else b.ringsUsed &&& ~~~((entryOf b.list pid).map InstanceRings.ringMask).getD 0 := by
  unfold doCleanupOrphan
  by_cases hbases : bases = 0
  · rw [if_pos hbases, if_neg fun h => h.1 hbases]
    exact forceRelease_spec pid b
  · rw [if_neg hbases]
    cases orphan with
    | false => exact ⟨rfl, (if_pos ⟨hbases, rfl⟩).symm⟩
    | true =>
      simp only [Bool.not_true, Bool.false_eq_true, if_false, Bool.true_eq_false, and_false]
      -- emptying the rings changes the register of the arbiter only
      split_ifs
      · exact forceRelease_spec pid b
      · exact forceRelease_spec pid (cleanupOrphanRing _ b)

lemma mmapClose_consistent (h : Consistent b) (hclean : orphan = true ∨ bases = 0 ∨ leftMask pid vma b.list = 0) :
    Consistent (mmapClose pid vma bases orphan b) := by
  obtain ⟨hlist, hused⟩ := doCleanupOrphan_spec pid bases orphan { b with list := pidFixup pid vma b.list }
  have hreleased : (doCleanupOrphan pid bases orphan { b with list := pidFixup pid vma b.list }).ringsUsed =
      b.ringsUsed &&& ~~~leftMask pid vma b.list := by
    rw [hused]
    split_ifs with hfailed
    · -- no rings are lost if the process has none
      have hzero : leftMask pid vma b.list = 0 := by
        rcases hclean with horphan | hbases | hzero
        · exact absurd (horphan.symm.trans hfailed.2) Bool.noConfusion
        · exact absurd hbases hfailed.1
        · exact hzero
      rw [hzero]
      exact (and_not_zero b.ringsUsed).symm
    · rfl
  unfold Consistent mmapClose
  dsimp only
  rw [hlist, hreleased]
  have hfixed : Masks.Partition (masks (pidFixup pid vma b.list)) b.ringsUsed := by
    rw [masks_pidFixup]
    exact h
  unfold leftMask
  cases hentry : entryOf (pidFixup pid vma b.list) pid with
  | none =>
    rw [Assoc.removeFirst_of_find_none hentry]
    exact (and_not_zero b.ringsUsed).symm ▸ hfixed
  | some e =>
    obtain ⟨rest, hsplit, -, hremove⟩ := exists_split_of_entryOf hentry
    exact (hfixed.perm hsplit).leave.perm hremove.symm

/-! ## What a call may touch -/

/-- Ring `k` of a bundle is touched: its arbitration is switched, or it is released. -/
def Touched (b b' : ControlBundle) (k : ℕ) : Prop :=
  b'.arbEnable.getLsbD k ≠ b.arbEnable.getLsbD k ∨ (b.ringsUsed.getLsbD k = true ∧ b'.ringsUsed.getLsbD k = false)

lemma not_touched_self (b : ControlBundle) (k : ℕ) : ¬ Touched b b k := by
  simp [Touched]

lemma getLsbD_of_within
    (h : Masks.Within mask (reserved list pid)) (hk : mask.getLsbD k = true) : (reserved list pid).getLsbD k = true :=
  Masks.within_iff.mp h k (lt_of_getLsbD hk) hk

lemma not_touched_reserveRing : ¬ Touched b (reserveRing pid mask b).1 k := by
  unfold reserveRing
  split_ifs
  · exact not_touched_self b k
  · split
    next => exact not_touched_self b k
    next =>
      rintro (h | ⟨hbefore, hafter⟩)
      · exact absurd rfl h
      · simp [hbefore] at hafter

lemma touched_releaseRing (h : Touched b (releaseRing pid mask b).1 k) : (reserved b.list pid).getLsbD k = true := by
  unfold releaseRing at h
  split at h
  next => exact absurd h (not_touched_self b k)
  next e hentry =>
    split_ifs at h with howned
    · exact absurd h (not_touched_self b k)
    · rcases h with h | ⟨hbefore, hafter⟩
      · exact absurd rfl h
      · have hmask : mask.getLsbD k = true := by
          have hk := lt_of_getLsbD hbefore
          simpa [hbefore, hk] using hafter
        have hmask : (e.ringMask &&& mask).getLsbD k = true := by
          rw [not_not.mp howned]
          exact hmask
        rw [getLsbD_and, Bool.and_eq_true] at hmask
        exact getLsbD_of_within (within_reserved hentry) hmask.1

lemma touched_enableRing (h : Touched b (enableRing mask b).1 k) : mask.getLsbD k = true := by
  rcases h with h | ⟨hbefore, hafter⟩
  · by_contra hmask
    simp [enableRing, enableRingArb, hmask] at h
  · exact absurd (hbefore.symm.trans hafter) Bool.noConfusion

lemma touched_disableRing (h : Touched b (disableRing mask b).1 k) : mask.getLsbD k = true := by
  rcases h with h | ⟨hbefore, hafter⟩
  · by_contra hmask
    apply h
    rw [Bool.not_eq_true] at hmask
    by_cases hk : k < 8
    · simp [disableRing, disableRingArb, hmask, hk]
    · have harb : b.arbEnable.getLsbD k = false := getLsbD_of_ge _ k (Nat.le_of_not_lt hk)
      simp [disableRing, disableRingArb, harb]
  · exact absurd (hbefore.symm.trans hafter) Bool.noConfusion

lemma ioctl_touched {call : Ioctl} (h : Touched b (call.run pid mask b).1 k)
    (hown : call = .enable ∨ call = .disable → Masks.Within mask (reserved b.list pid)) :
    (reserved b.list pid).getLsbD k = true := by
  cases call with
  | reserve => exact absurd h not_touched_reserveRing
  | release => exact touched_releaseRing h
  | enable => exact getLsbD_of_within (hown (Or.inl rfl)) (touched_enableRing h)
  | disable => exact getLsbD_of_within (hown (Or.inr rfl)) (touched_disableRing h)

lemma within_checkOrphanRing (tx rx : U16) : Masks.Within (checkOrphanRing tx rx).1 tx := by
  -- a round of the loop takes rings out, and adds none
  refine List.foldlRecOn (motive := fun m : U16 × U16 => Masks.Within m.1 tx)
    _ _ ?_ ?_
  · exact BitVec.and_self
  intro m hm i _
  have hclear : Masks.Within (clearBit i m.1) tx := by
    rw [Masks.within_iff] at hm ⊢
    intro k hk hbit
    apply hm k hk
    unfold clearBit at hbit
    rw [getLsbD_and, Bool.and_eq_true] at hbit
    exact hbit.1
  split_ifs
  · exact hm
  · exact hclear
  all_goals exact hm

lemma within_getOrphanBundle (ringMask bases : U16) : Masks.Within (getOrphanBundle ringMask bases).1 ringMask := by
  have hbases : Masks.Within (bases &&& ringMask &&& txRingsMask) ringMask := by
    rw [Masks.within_iff]
    intro k _ hbit
    simp only [getLsbD_and, Bool.and_eq_true] at hbit
    exact hbit.1.2
  unfold getOrphanBundle
  dsimp only
  split_ifs
  · rw [Masks.within_iff] at hbases ⊢
    intro k hk hbit
    exact hbases k hk (Masks.within_iff.mp (within_checkOrphanRing _ _) k hk hbit)
  · exact hbases

lemma cleanupOrphanRing_arbEnable {tx : U16}
    (h : (cleanupOrphanRing tx b).arbEnable.getLsbD k ≠ b.arbEnable.getLsbD k) : tx.getLsbD k = true := by
  by_contra htx
  apply h
  rw [Bool.not_eq_true] at htx
  by_cases hk : k < 8
  · simp [cleanupOrphanRing, disableRingArb, enableRingArb, htx, hk]
  · have harb : b.arbEnable.getLsbD k = false := getLsbD_of_ge _ k (Nat.le_of_not_lt hk)
    simp [cleanupOrphanRing, disableRingArb, enableRingArb, harb, hk]

lemma forceRelease_arbEnable (pid : ℕ) (b : ControlBundle) : (forceRelease pid b).arbEnable = b.arbEnable := by
  unfold forceRelease
  split
  · rfl
  · rfl

lemma doCleanupOrphan_arbEnable (pid : ℕ) (bases : U16) (orphan : Bool) (b : ControlBundle)
    (h : (doCleanupOrphan pid bases orphan b).arbEnable.getLsbD k ≠ b.arbEnable.getLsbD k) :
    (((entryOf b.list pid).map InstanceRings.ringMask).getD 0).getLsbD k = true := by
  unfold doCleanupOrphan at h
  dsimp only at h
  split_ifs at h with hbases horphan hempty
  · rw [forceRelease_arbEnable] at h
    exact absurd rfl h
  · exact absurd rfl h
  · rw [forceRelease_arbEnable] at h
    exact absurd rfl h
  · rw [forceRelease_arbEnable] at h
    have htx := cleanupOrphanRing_arbEnable h
    exact Masks.within_iff.mp (within_getOrphanBundle _ _) k (lt_of_getLsbD htx) htx

lemma touched_mmapClose (h : Touched b (mmapClose pid vma bases orphan b) k) :
    (leftMask pid vma b.list).getLsbD k = true := by
  rcases h with harb | ⟨hbefore, hafter⟩
  · exact doCleanupOrphan_arbEnable pid bases orphan { b with list := pidFixup pid vma b.list } harb
  · obtain ⟨-, hused⟩ := doCleanupOrphan_spec pid bases orphan { b with list := pidFixup pid vma b.list }
    have hk := lt_of_getLsbD hbefore
    change (doCleanupOrphan pid bases orphan
      { b with list := pidFixup pid vma b.list }).ringsUsed.getLsbD k = false at hafter
    rw [hused] at hafter
    split_ifs at hafter
    · exact absurd (hbefore.symm.trans hafter) Bool.noConfusion
    · simpa [leftMask, hbefore, hk] using hafter

/-! ## Runs -/

variable {devices : ℕ → Option Accel} {s s' : State} {e : Event}

def uioStep (devices : ℕ → Option Accel) (s : State) (e : Event) (s' : State) : Prop := (step devices s e).1 = s'

def State.init : State := fun _ _ => ⟨[], 0, 0⟩

/-- A step that is as it should be: a process enables and disables only rings that it has reserved, and there is
memory for a process that leaves its rings. -/
def Sound (devices : ℕ → Option Accel) (s : State) : Event → Prop
  | .ioctl call pid arg =>
    call = .enable ∨ call = .disable → ∀ r accelId bundle, arg = some r →
      ioctlBundle devices r = some (accelId, bundle) →
      Masks.Within (r.ringMask.setWidth 16) (reserved (s accelId bundle).list pid)
  | .mmap _ _ _ _ _ _ => True
  | .mmapClose accelId bundle pid vma bases orphan =>
    orphan = true ∨ bases = 0 ∨ leftMask pid vma (s accelId bundle).list = 0

structure Confined (s : State) (e : Event) (s' : State) : Prop where
  call : ∀ call pid arg, e = .ioctl call pid arg → ∀ a i k, Touched (s a i) (s' a i) k →
    (reserved (s a i).list pid).getLsbD k = true
  close : ∀ accelId bundle pid vma bases orphan,
    e = .mmapClose accelId bundle pid vma bases orphan → ∀ a i k, Touched (s a i) (s' a i) k →
    a = accelId ∧ i = bundle ∧ (leftMask pid vma (s a i).list).getLsbD k = true

lemma setBundle_cases (s : State) (accelId bundle : ℕ) (b : ControlBundle) (a i : ℕ) :
    (a = accelId ∧ i = bundle ∧ setBundle s accelId bundle b a i = b) ∨ setBundle s accelId bundle b a i = s a i := by
  unfold setBundle
  by_cases ha : a = accelId
  · subst ha
    rw [Function.update_self]
    by_cases hi : i = bundle
    · subst hi
      rw [Function.update_self]
      exact Or.inl ⟨rfl, rfl, rfl⟩
    · rw [Function.update_of_ne hi]
      exact Or.inr rfl
  · rw [Function.update_of_ne ha]
    exact Or.inr rfl

lemma setBundle_consistent {accelId bundle : ℕ} (h : ∀ a i, Consistent (s a i))
    (hb : Consistent b) (a i : ℕ) : Consistent (setBundle s accelId bundle b a i) := by
  rcases setBundle_cases s accelId bundle b a i with ⟨-, -, heq⟩ | heq
  · rw [heq]
    exact hb
  · rw [heq]
    exact h a i

lemma uioStep_consistent (h : ∀ a i, Consistent (s a i)) (hsound : Sound devices s e)
    (hstep : uioStep devices s e s') (a i : ℕ) : Consistent (s' a i) := by
  subst hstep
  cases e with
  | ioctl call pid arg =>
    simp only [step]
    split
    next => exact h a i
    next r =>
      split
      next => exact h a i
      next accelId bundle hbundle => exact setBundle_consistent h (ioctl_consistent call (h accelId bundle)) a i
  | mmap accelId bundle pid vma alloc remapped =>
    exact setBundle_consistent h (mmap_consistent (h accelId bundle)) a i
  | mmapClose accelId bundle pid vma bases orphan =>
    exact setBundle_consistent h (mmapClose_consistent (h accelId bundle) hsound) a i

lemma touched_setBundle {accelId bundle a i k : ℕ} (h : Touched (s a i) (setBundle s accelId bundle b a i) k) :
    a = accelId ∧ i = bundle ∧ Touched (s a i) b k := by
  rcases setBundle_cases s accelId bundle b a i with ⟨rfl, rfl, heq⟩ | heq
  · rw [heq] at h
    exact ⟨rfl, rfl, h⟩
  · rw [heq] at h
    exact absurd h (not_touched_self _ _)

lemma uioStep_confined (hsound : Sound devices s e) (hstep : uioStep devices s e s') : Confined s e s' := by
  subst hstep
  constructor
  · rintro call pid arg rfl a i k htouched
    simp only [step] at htouched
    split at htouched
    next => exact absurd htouched (not_touched_self _ _)
    next r =>
      split at htouched
      next => exact absurd htouched (not_touched_self _ _)
      next accelId bundle hbundle =>
        obtain ⟨rfl, rfl, htouched⟩ := touched_setBundle htouched
        exact ioctl_touched htouched fun hcall => hsound hcall r a i rfl hbundle
  · rintro accelId bundle pid vma bases orphan rfl a i k htouched
    obtain ⟨rfl, rfl, htouched⟩ := touched_setBundle htouched
    exact ⟨rfl, rfl, touched_mmapClose htouched⟩

/-- **Every ring belongs to one process**, in every run whose steps are all sound. -/
theorem reservations_consistent {events : List Event}
    (h : Run (guarded (Sound devices) (uioStep devices)) State.init events s) :
    (∀ accelId bundle, Consistent (s accelId bundle)) ∧
      ∀ e s', Sound devices s e → uioStep devices s e s' → Confined s e s' := by
  constructor
  · refine h.invariant (I := fun s => ∀ a i, Consistent (s a i)) ?_ ?_
    · rintro s e s' hs ⟨hsound, hstep⟩
      exact uioStep_consistent hs hsound hstep
    · intro a i
      exact ⟨List.Pairwise.nil, rfl⟩
  · intro e s' hsound hstep
    exact uioStep_confined hsound hstep

/-- For instance, two processes share a bundle. -/
theorem two_processes_consistent : ∃ (devices : ℕ → Option Accel) (events : List Event) (s : State),
      Run (guarded (Sound devices) (uioStep devices)) State.init events s ∧ events.length = 6 ∧
      s 0 0 = ⟨[⟨1, 0x101, 10⟩], 0x101, 1⟩ ∧ (∀ accelId bundle, Consistent (s accelId bundle)) ∧
      ∀ e s', Sound devices s e → uioStep devices s e s' → Confined s e s' := by
  refine ⟨fun _ => some ⟨16, 1⟩, [.mmap 0 0 1 10 true true, .mmap 0 0 2 20 true true,
    .ioctl .reserve 1 (some ⟨0, 1, 0x101⟩), .ioctl .reserve 2 (some ⟨0, 1, 0x202⟩),
    .ioctl .enable 1 (some ⟨0, 1, 0x1⟩), .mmapClose 0 0 2 20 0x202 true], ?_⟩
  apply Run.exists_and
  · apply Run.cons ⟨trivial, rfl⟩
    apply Run.cons ⟨trivial, rfl⟩
    apply Run.cons ⟨fun h => h.elim (absurd · Ioctl.noConfusion) (absurd · Ioctl.noConfusion), rfl⟩
    apply Run.cons ⟨fun h => h.elim (absurd · Ioctl.noConfusion) (absurd · Ioctl.noConfusion), rfl⟩
    apply Run.cons ⟨fun _ r accelId bundle hr hbundle => by
      cases hr
      cases hbundle
      decide +kernel, rfl⟩
    exact Run.single ⟨Or.inl rfl, rfl⟩
  · exact fun hrun => ⟨rfl, by decide +kernel, reservations_consistent hrun⟩

/-- **Rings are lost, and rings of others are stopped:** a process leaves while there is no memory to clean up,
and a process stops a ring that another one has reserved. -/
theorem rings_lost_and_taken : ∃ devices : ℕ → Option Accel,
      (∃ events s, Run (uioStep devices) State.init events s ∧ (s 0 0).list = [] ∧
        (s 0 0).ringsUsed = 0x101 ∧ ¬ Consistent (s 0 0)) ∧
      ∃ events s e s', Run (uioStep devices) State.init events s ∧ uioStep devices s e s' ∧
        (step devices s e).2 = none ∧ ¬ Confined s e s' := by
  refine ⟨fun _ => some ⟨16, 1⟩, ?_, ?_⟩
  · refine ⟨[.mmap 0 0 1 10 true true, .ioctl .reserve 1 (some ⟨0, 1, 0x101⟩), .mmapClose 0 0 1 10 0x101 false], _,
      .cons rfl (.cons rfl (.single rfl)), by decide +kernel, by decide +kernel, ?_⟩
    intro hconsistent
    exact absurd hconsistent.used_eq (by decide +kernel)
  · refine ⟨[.mmap 0 0 1 10 true true, .mmap 0 0 2 20 true true, .ioctl .reserve 1 (some ⟨0, 1, 0x101⟩),
      .ioctl .enable 1 (some ⟨0, 1, 0x1⟩)], _, .ioctl .disable 2 (some ⟨0, 1, 0x1⟩), _,
      .cons rfl (.cons rfl (.cons rfl (.single rfl))), rfl, rfl, ?_⟩
    intro hconfined
    have hreserved := hconfined.call .disable 2 _ rfl 0 0 0 (Or.inl (by decide +kernel))
    exact absurd hreserved (by decide +kernel)

end QuickAssist.Uio
