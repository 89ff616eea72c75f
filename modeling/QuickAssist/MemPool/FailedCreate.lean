import QuickAssist.MemPool.Create

/-!
# What a create of a memory pool that fails leaves behind

`Lac_MemPoolCreate` can fail at six kinds of places, and is to undo what it has done at each of them, so that one can
try again as often as one likes.

**The defect.** `Lac_MemPoolCleanUpInternal` frees the elements of a pool with a table by counting up to the
`numElementsInPool` of the header, and `Lac_MemPoolCreate` writes that field after the last element. If an element
cannot be allocated the field is what `malloc` has left there: too few elements are freed, or entries are followed that
were not written. `Cleans` is the condition: no table, or a field that happens to be right.
-/

namespace QuickAssist.MemPool

open Lib Lib.Alloc Option List

variable {α : Type*} [DecidableEq α] {A : Allocator α} {s : Pools α} {c : CreateCall}

/-! ## A create that fails -/

inductive FailurePoint
  | poolID
  | pools
  | header
  | poolName
  | tracking
  | element (i : ℕ)

def GetsSlot (s : Pools α) (c : CreateCall) : Prop :=
  c.poolIdNull = false ∧ ∃ j < lacMemPoolsNumSupported, s.lacMemPools j = none

def GetsHeader (s : Pools α) (c : CreateCall) : Prop := GetsSlot s c ∧ c.hdrOk = true ∧ c.poolNameNull = false

def FailsAt (s : Pools α) (c : CreateCall) : FailurePoint → Prop
  | .poolID => c.poolIdNull = true
  | .pools => c.poolIdNull = false ∧ ∀ j < lacMemPoolsNumSupported, s.lacMemPools j ≠ none
  | .header => GetsSlot s c ∧ c.hdrOk = false
  | .poolName => GetsSlot s c ∧ c.hdrOk = true ∧ c.poolNameNull = true
  | .tracking => GetsHeader s c ∧ c.trackMemory = true ∧ c.trackOk = false
  | .element i =>
    GetsHeader s c ∧ (c.trackMemory = true → c.trackOk = true) ∧ i < c.numElementsInPool.toNat ∧
      (∀ j < i, c.elemOk j = true) ∧ c.elemOk i = false

/-- A call that fails leaves nothing behind: it fails before the first element, there is no table, or the
header's number, not yet written, is that of the elements. -/
def Cleans (c : CreateCall) : FailurePoint → Prop
  | .element i => c.trackMemory = true → i ≤ c.trackCapacity ∧ c.hdrNum.toNat = i
  | _ => True

variable (A) in
lemma memPoolCreate_of_slot (h : GetsSlot s c) :
    ∃ slot, s.lacMemPools slot = none ∧ memPoolCreate A s c = createIn A s c slot := by
  obtain ⟨hid, j, hj, hnone⟩ := h
  obtain ⟨slot, hfind⟩ := findPool_of_free (Nat.zero_le j) (by omega : j < 0 + lacMemPoolsNumSupported) hnone
  refine ⟨slot, (findPool_eq_some hfind).2, ?_⟩
  simp [memPoolCreate, hid, hfind]

variable {live : Finset α} {i slot : ℕ} {addr : α}

omit [DecidableEq α] in
lemma release_eq_iff (hslot : s.lacMemPools slot = none) : s.release slot live = s ↔ live = s.live := by
  constructor
  · intro h
    exact congrArg Pools.live h
  · rintro rfl
    exact Pools.release_self hslot

lemma createElements_fails {table : Option (TrackTable α)}
    (hempty : ∀ t ∈ table, t.entry = fun _ => none) (hroom : ∀ t ∈ table, i ≤ t.capacity)
    (hi : i < c.numElementsInPool.toNat) (hok : ∀ j < i, c.elemOk j = true) (hfail : c.elemOk i = false) :
    createElements A s c slot live (newHdr addr c.hdrNum table) =
      (cleanUpInternal (liveAfter A live i) (filled A live (newHdr addr c.hdrNum table) i)).map
        fun live => (s.release slot live, .error .resource) := by
  have hloop := addElements_eq A live (newHdr addr c.hdrNum table) (Nat.zero_le i)
    (by omega : i ≤ 0 + c.numElementsInPool.toNat) hroom (fun j _ => hok j) (fun _ => hfail)
  rw [liveAfter_zero, filled_zero A live addr c.hdrNum table hempty] at hloop
  have hne : decide (i = 0 + c.numElementsInPool.toNat) = false := decide_eq_false (by omega)
  rw [createElements, hloop, hne]
  rfl

lemma createElements_overrun {table : TrackTable α} (hempty : ∀ j, table.entry j = none) (hroom : table.capacity < i)
    (hi : i ≤ c.numElementsInPool.toNat) (hok : ∀ j < i, c.elemOk j = true) :
    createElements A s c slot live (newHdr addr c.hdrNum (some table)) = none := by
  have hsome : (newHdr addr c.hdrNum (some table)).trackBlks = some table := rfl
  have hloop := addElements_overrun A live _ hsome (Nat.zero_le _)
    (by omega : table.capacity < 0 + c.numElementsInPool.toNat) (fun j _ hj => hok j (by omega))
  have hentry : ∀ t ∈ some table, t.entry = fun _ => none := by
    rintro t ⟨⟩
    exact funext hempty
  rw [liveAfter_zero, filled_zero A live addr c.hdrNum _ hentry] at hloop
  rw [createElements, hloop, bind_none]

/-! ## Which failures leave nothing behind -/

/-- A call leaves everything as it was: it ends, with an error, and slots and addresses in use are what they
were. -/
def LeavesNothing (A : Allocator α) (s : Pools α) (c : CreateCall) : Prop :=
  ∃ e, memPoolCreate A s c = some (s, .error e)

lemma leavesNothing_of_full (hid : c.poolIdNull = false)
    (hfull : ∀ j < lacMemPoolsNumSupported, s.lacMemPools j ≠ none) : LeavesNothing A s c := by
  have hfind : findPool s.lacMemPools lacMemPoolsNumSupported 0 = none := by
    apply findPool_of_full
    intro j _ hlt
    exact hfull j (by omega)
  refine ⟨.fail, ?_⟩
  simp [memPoolCreate, hid, hfind]

lemma leavesNothing_of_header (hslot : GetsSlot s c) (hhdr : c.hdrOk = false) : LeavesNothing A s c := by
  obtain ⟨slot, hnone, hcreate⟩ := memPoolCreate_of_slot A hslot
  refine ⟨.resource, ?_⟩
  rw [hcreate, createIn, hhdr, Pools.release_self hnone]
  rfl

lemma leavesNothing_of_poolName (hslot : GetsSlot s c) (hhdr : c.hdrOk = true)
    (hname : c.poolNameNull = true) : LeavesNothing A s c := by
  obtain ⟨slot, hnone, hcreate⟩ := memPoolCreate_of_slot A hslot
  refine ⟨.invalidParam, ?_⟩
  rw [hcreate, createIn, hhdr, hname, free_header, map_some, Pools.release_self hnone]
  rfl

lemma leavesNothing_of_tracking (hget : GetsHeader s c) (htrack : c.trackMemory = true)
    (htable : c.trackOk = false) : LeavesNothing A s c := by
  obtain ⟨hslot, hhdr, hname⟩ := hget
  obtain ⟨slot, hnone, hcreate⟩ := memPoolCreate_of_slot A hslot
  refine ⟨.resource, ?_⟩
  simp only [hcreate, createIn, hhdr, hname, htrack, htable, Bool.not_true, Bool.not_false,
    Bool.false_eq_true, ↓reduceIte]
  rw [free_header, map_some, Pools.release_self hnone]

lemma leavesNothing_of_untracked (hfail : FailsAt s c (.element i))
    (htrack : c.trackMemory = false) : LeavesNothing A s c := by
  obtain ⟨⟨hslot, hhdr, hname⟩, -, hi, hok, hno⟩ := hfail
  obtain ⟨slot, hnone, hcreate⟩ := memPoolCreate_of_slot A hslot
  refine ⟨.resource, ?_⟩
  simp only [hcreate, createIn, hhdr, hname, htrack, Bool.not_true, Bool.false_eq_true, ↓reduceIte]
  rw [createElements_fails (by simp) (by simp) hi hok hno, cleanUp_untracked, map_some, Pools.release_self hnone]

lemma leavesNothing_iff_of_tracked (hfail : FailsAt s c (.element i)) (htrack : c.trackMemory = true) :
    LeavesNothing A s c ↔ i ≤ c.trackCapacity ∧ c.hdrNum.toNat = i := by
  obtain ⟨⟨hslot, hhdr, hname⟩, htable, hi, hok, hno⟩ := hfail
  obtain ⟨slot, hnone, hcreate⟩ := memPoolCreate_of_slot A hslot
  have hfresh := A.fresh s.live
  have hfresh' : (newTable A c (insert (A.choose s.live) s.live)).addr ∉ insert (A.choose s.live) s.live :=
    A.fresh (insert (A.choose s.live) s.live)
  unfold LeavesNothing
  simp only [hcreate, createIn, hhdr, hname, htrack, htable htrack, Bool.not_true, Bool.false_eq_true, ↓reduceIte]
  by_cases hroom : i ≤ c.trackCapacity
  · rw [createElements_fails (by simp [newTable]) (by simpa [newTable] using hroom) hi hok hno]
    simp only [hroom, true_and]
    constructor
    · rintro ⟨e, h⟩
      obtain ⟨live, hclean, heq⟩ := map_eq_some_iff.mp h
      have hlive : live = s.live := (release_eq_iff hnone).mp (Prod.mk.inj heq).1
      rw [hlive] at hclean
      by_contra hne
      exact cleanUp_tracked_of_ne hne hclean
    · intro hnum
      refine ⟨.resource, ?_⟩
      rw [cleanUp_tracked_of_eq hfresh hfresh' hnum, map_some, Pools.release_self hnone]
  · -- the table is full before the element that fails
    rw [createElements_overrun (fun _ => rfl) (lt_of_not_ge hroom) hi.le hok]
    simp [hroom]

lemma leavesNothing_iff_cleans {p : FailurePoint} (hfail : FailsAt s c p) : LeavesNothing A s c ↔ Cleans c p := by
  cases p with
  | poolID =>
    refine iff_of_true ⟨.invalidParam, ?_⟩ trivial
    have hnull : c.poolIdNull = true := hfail
    rw [memPoolCreate, if_pos hnull]
  | pools => exact iff_of_true (leavesNothing_of_full hfail.1 hfail.2) trivial
  | header => exact iff_of_true (leavesNothing_of_header hfail.1 hfail.2) trivial
  | poolName => exact iff_of_true (leavesNothing_of_poolName hfail.1 hfail.2.1 hfail.2.2) trivial
  | tracking => exact iff_of_true (leavesNothing_of_tracking hfail.1 hfail.2.1 hfail.2.2) trivial
  | element i =>
    rcases htrack : c.trackMemory with _ | _
    · apply iff_of_true (leavesNothing_of_untracked hfail htrack)
      intro h
      simp [htrack] at h
    · rw [leavesNothing_iff_of_tracked hfail htrack]
      simp [Cleans, htrack]

def createStep (A : Allocator α) (s : Pools α) (c : CreateCall) : Option (Pools α) :=
  (memPoolCreate A s c).map Prod.fst

lemma exec_createStep {cs : List CreateCall} (h : ∀ c ∈ cs, LeavesNothing A s c) :
    exec (createStep A) s cs = some s := by
  induction cs with
  | nil => rfl
  | cons c cs ih =>
    obtain ⟨e, hc⟩ := h c mem_cons_self
    have hstep : createStep A s c = some s := by rw [createStep, hc, map_some]
    rw [exec, hstep, bind_some]
    exact ih fun c' hc' => h c' (mem_cons_of_mem c hc')

/-- **A create that fails leaves nothing behind iff it has no table to clean up by, or the number in the header
is right by chance.** -/
theorem failing_create_cleans_iff (A : Allocator α) (s : Pools α) : (∀ c p, FailsAt s c p →
      ((∃ e, memPoolCreate A s c = some (s, .error e)) ↔ Cleans c p)) ∧
    ∀ cs : List CreateCall, (∀ c ∈ cs, ∃ p, FailsAt s c p ∧ Cleans c p) → exec (createStep A) s cs = some s := by
  constructor
  · intro c p hfail
    exact leavesNothing_iff_cleans hfail
  · intro cs hcs
    apply exec_createStep
    intro c hc
    obtain ⟨p, hfail, hcleans⟩ := hcs c hc
    exact (leavesNothing_iff_cleans hfail).mpr hcleans

def noPools : Pools ℕ := ⟨fun _ => none, ∅⟩

def threeCall (trackMemory : Bool) (hdrNum : U32) : CreateCall where
  poolIdNull := false
  poolNameNull := false
  numElementsInPool := 3
  trackMemory := trackMemory
  hdrOk := true
  hdrNum := hdrNum
  trackOk := true
  elemOk i := decide (i < 2)

lemma threeCall_fails (trackMemory : Bool) (hdrNum : U32) :
    FailsAt noPools (threeCall trackMemory hdrNum) (.element 2) := by
  refine ⟨⟨⟨rfl, 0, by decide, rfl⟩, rfl, rfl⟩, fun _ => rfl, by simp [threeCall], ?_, rfl⟩
  intro j hj
  exact decide_eq_true hj

/-- Two calls that fail at the third element of a pool without a table, whatever the header holds. -/
theorem untracked_creates_clean : FailsAt noPools (threeCall false 7) (.element 2) ∧
    (∃ e, memPoolCreate .above noPools (threeCall false 7) = some (noPools, .error e)) ∧
    exec (createStep .above) noPools [threeCall false 7, threeCall false 0] = some noPools := by
  have huntracked : ∀ num, Cleans (threeCall false num) (.element 2) := by
    intro num h
    simp [threeCall] at h
  obtain ⟨hiff, hruns⟩ := failing_create_cleans_iff .above noPools
  refine ⟨threeCall_fails false 7, (hiff _ _ (threeCall_fails false 7)).mpr (huntracked 7), ?_⟩
  apply hruns
  intro c hc
  simp only [mem_cons, not_mem_nil, or_false] at hc
  rcases hc with rfl | rfl
  · exact ⟨_, threeCall_fails false 7, huntracked 7⟩
  · exact ⟨_, threeCall_fails false 0, huntracked 0⟩

/-- **What a failing create leaves behind:** the second element, if the header happens to hold 1; if it holds 3,
an entry is followed that was not written. -/
theorem tracked_create_leaks : FailsAt noPools (threeCall true 1) (.element 2) ∧
    (∃ s', memPoolCreate .above noPools (threeCall true 1) = some (s', .error .resource) ∧ s'.live = {4}) ∧
    FailsAt noPools (threeCall true 3) (.element 2) ∧ memPoolCreate .above noPools (threeCall true 3) = none := by
  refine ⟨threeCall_fails true 1, ⟨_, rfl, ?_⟩, threeCall_fails true 3, rfl⟩
  decide

end QuickAssist.MemPool
