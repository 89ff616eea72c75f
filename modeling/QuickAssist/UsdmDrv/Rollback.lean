import QuickAssist.UsdmDrv.Ownership

/-!
# An allocation that fails

`dev_mem_alloc` can fail before there is a slab, when the slab cannot be mapped for the device, and when the answer
cannot be copied to the process. In the last two cases something has been done that has to be undone.

**The defects.** A call that fails leaves the driver as it was unless it gets as far as the mapping and

* the slab cannot be mapped and the type is neither small nor large. The page of the control information has been
  charged and is not discharged;
* the answer cannot be copied and the address in the *request* is not that of the new slab. It is the request that
  `userMemFree` is given, and the process has no way to know the address in advance. With the address of the slab of
  another process in it that slab is freed, and the new one stays (`failed_request_frees_other`).
-/

namespace QuickAssist.UsdmDrv

open Lib Function List Option

variable {A : Access → Prop} {s s' : Usdm} {slabs : ℕ → List ℕ} {chain : U64 → List ℕ} {procs : List ℕ}
  {fp p : ℕ} {list : ProcMemList} {cfg : Params} {arg : UserMemInfo} {copyFrom copyTo : Bool} {k : KernelAnswers}

/-! ## What has to be as before -/

/-- The slabs, the lists and the amount of memory are as before. The fields of a slab count as long as it
is there. -/
structure Usdm.Unchanged (s s' : Usdm) : Prop where
  live : s'.live = s.live
  kmem : ∀ p ∈ s.live, s'.kmem p = s.kmem p
  allocatedBy : ∀ p ∈ s.live, s'.allocatedBy p = s.allocatedBy p
  privateData : s'.privateData = s.privateData
  kernelLinks : ∀ p ∈ s.live, s'.kernelLinks.prev p = s.kernelLinks.prev p ∧
    s'.kernelLinks.next p = s.kernelLinks.next p
  slabList : s'.slabList = s.slabList
  hashLinks : ∀ p ∈ s.live, s'.hashLinks.prev p = s.hashLinks.prev p ∧ s'.hashLinks.next p = s.hashLinks.next p
  files : s'.procLinks = s.procLinks ∧ s'.memDevNuma = s.memDevNuma
  memAllocated : s'.memAllocated = s.memAllocated

lemma Usdm.Unchanged.refl (s : Usdm) : s.Unchanged s :=
  ⟨rfl, fun _ _ => rfl, fun _ _ => rfl, rfl, fun _ _ => ⟨rfl, rfl⟩, rfl, fun _ _ => ⟨rfl, rfl⟩, ⟨rfl, rfl⟩, rfl⟩

def KMem.footprint (m : KMem) : U64 := m.size + if m.hugeMemCtrl ≠ 0 then pageSize else 0

lemma memAllocated_freeSlab (s : Usdm) (fp : ℕ) (list : ProcMemList) (p : ℕ) :
    (freeSlab s fp list p).memAllocated = s.memAllocated - (s.kmem p).footprint := by
  unfold freeSlab KMem.footprint
  grind

lemma Served.charge_eq {size : U64} {type : U32}
    (h : Served cfg s size type k) : charge size type = (newKMem size type k).footprint := by
  unfold charge KMem.footprint newKMem
  by_cases htype : type ≠ 0
  · rw [if_pos htype, if_pos htype, if_pos (h.ctrlPage htype)]
  · rw [if_neg htype, if_neg htype, if_neg (by simp)]
    exact (BitVec.add_zero _).symm

/-! ## Undoing an allocation -/

/-- **A slab that is allocated and freed leaves no trace.** -/
theorem UsdmInv.freeSlab_addSlab (h : UsdmInv A s slabs chain procs)
    (hdata : s.privateData fp = some list) (hp : p ∉ s.live) (kmem : KMem) {list' : ProcMemList}
    (hdata' : (UsdmDrv.addSlab { s with memAllocated := s.memAllocated + kmem.footprint } fp list p
      kmem).privateData fp = some list') : s.Unchanged (UsdmDrv.freeSlab (UsdmDrv.addSlab
      { s with memAllocated := s.memAllocated + kmem.footprint } fp list p kmem) fp list' p) := by
  obtain ⟨hslabs, hchain⟩ := h.notMem_of_notMem_live hp
  have hne : ∀ q ∈ s.live, q ≠ p := by
    rintro q hq rfl
    exact hp hq
  have hkmem : (UsdmDrv.addSlab { s with memAllocated := s.memAllocated + kmem.footprint } fp list p
      kmem).kmem p = kmem := by
    simp [UsdmDrv.addSlab]
  have hlist' : list' = ⟨list.allocsNr + 1, list.hugepagesNr, (s.kernelLinks.addEnd list.slabs p).2⟩ := by
    have hself := update_self fp (some (⟨list.allocsNr + 1, list.hugepagesNr,
      (s.kernelLinks.addEnd list.slabs p).2⟩ : ProcMemList)) s.privateData
    exact Option.some.inj (hdata'.symm.trans hself)
  subst hlist'
  have hends : procEnds s.privateData fp = list.slabs := by simp only [procEnds, hdata]
  have hlinked := h.kernel.linked fp
  rw [hends] at hlinked
  obtain ⟨hslabsEnds, hslabsLinks⟩ := hlinked.remove_addEnd (hslabs fp)
  obtain ⟨hchainEnds, hchainLinks⟩ :=
    (h.hash.linked (getKey kmem.phyAddr)).remove_addHead (hchain (getKey kmem.phyAddr))
  refine ⟨erase_cons_head p s.live, ?_, ?_, ?_, ?_, ?_, ?_, ⟨rfl, rfl⟩, ?_⟩
  · intro q hq
    exact update_of_ne (hne q hq) kmem s.kmem
  · intro q hq
    exact update_of_ne (hne q hq) fp s.allocatedBy
  · unfold UsdmDrv.freeSlab
    dsimp only [UsdmDrv.addSlab]
    rw [hslabsEnds, update_idem]
    have hcount : list.allocsNr + 1 - 1 = list.allocsNr := by grind
    rw [hcount, ← hdata, update_eq_self]
  · intro q hq
    exact hslabsLinks q (hne q hq)
  · unfold UsdmDrv.freeSlab
    rw [hkmem]
    dsimp only [UsdmDrv.addSlab]
    rw [update_idem, update_self, hchainEnds, update_eq_self]
  · intro q hq
    unfold UsdmDrv.freeSlab
    rw [hkmem]
    dsimp only [UsdmDrv.addSlab]
    rw [update_self]
    exact hchainLinks q (hne q hq)
  · rw [memAllocated_freeSlab, hkmem]
    dsimp only [UsdmDrv.addSlab]
    grind

lemma UsdmInv.userMemFree_eq (h : UsdmInv A s slabs chain procs)
    (hdata : s.privateData fp = some list) {id : U64} {ok : Bool} (hfree : userMemFree s fp id = some (s', ok)) :
    ((∀ q ∈ s.live, (s.kmem q).phyAddr ≠ id) ∧ s' = s) ∨
      ∃ q ∈ s.live, (s.kmem q).phyAddr = id ∧ s' = UsdmDrv.freeSlab s fp list q := by
  obtain ⟨r, hfind, hr⟩ := h.findSlab_spec id
  unfold userMemFree at hfree
  rw [hdata, hfind] at hfree
  cases r with
  | none =>
    cases hfree
    exact Or.inl ⟨fun q hq hphys => absurd ((hr q).mpr ⟨hq, hphys⟩) (by simp), rfl⟩
  | some q =>
    cases hfree
    obtain ⟨hq, hphys⟩ := (hr q).mp rfl
    exact Or.inr ⟨q, hq, hphys, rfl⟩

/-! ## The calls that fail -/

/-- The call gets as far as the mapping: the file is open, the request can be copied, and the checks are
passed. -/
def Reaches (cfg : Params) (s : Usdm) (fp : ℕ) (arg : UserMemInfo) (copyFrom : Bool) (k : KernelAnswers) : Prop :=
  (s.privateData fp).isSome ∧ copyFrom = true ∧ Served cfg s arg.size arg.type k

inductive Failed (cfg : Params) (s : Usdm) (fp : ℕ) (arg : UserMemInfo) (copyFrom : Bool)
    (k : KernelAnswers) : Usdm → Prop
  | early (hnot : ¬ Reaches cfg s fp arg copyFrom k) : Failed cfg s fp arg copyFrom k s
  | notMapped (hreaches : Reaches cfg s fp arg copyFrom k) (hfails : k.mapFails = true) :
      Failed cfg s fp arg copyFrom k
        { s with memAllocated := s.memAllocated + undischarged arg.type }
  | notCopied {s' : Usdm} {list : ProcMemList} {p : ℕ} {ok : Bool}
      (hreaches : Reaches cfg s fp arg copyFrom k) (hfails : k.mapFails = false)
      (hdata : s.privateData fp = some list) (hp : k.kmem = some p)
      (hfree : userMemFree (addSlab
        { s with memAllocated := s.memAllocated + charge arg.size arg.type } fp list p
        (newKMem arg.size arg.type k)) fp arg.phyAddr = some (s', ok)) : Failed cfg s fp arg copyFrom k s'

lemma devMemAlloc_failed (hfailed : devMemAlloc cfg s fp arg copyFrom k copyTo = some (s', false)) :
    Failed cfg s fp arg copyFrom k s' := by
  unfold devMemAlloc at hfailed
  split at hfailed
  next hclosed =>
    cases hfailed
    refine .early fun hreaches => ?_
    have hopen := hreaches.1
    rw [isNone_iff_eq_none.mp hclosed] at hopen
    cases hopen
  next hclosed =>
    have hopen : (s.privateData fp).isSome := ne_none_iff_isSome.mp fun hnone => by
      rw [hnone] at hclosed
      exact hclosed rfl
    split at hfailed
    next hcopy =>
      cases hfailed
      refine .early fun hreaches => ?_
      rw [hreaches.2.1] at hcopy
      cases hcopy
    next hcopy =>
      have hcopy' : copyFrom = true := by
        cases copyFrom with
        | true => rfl
        | false => exact absurd rfl hcopy
      have halloc := userMemAlloc_allocated cfg s fp arg.size arg.type k
      generalize userMemAlloc cfg s fp arg.size arg.type k = out at halloc hfailed
      cases halloc with
      | refused hrefused =>
        cases hfailed
        exact .early fun hreaches => hrefused ⟨hopen, hreaches.2.2⟩
      | notMapped _ hserved hfails =>
        cases hfailed
        exact .notMapped ⟨hopen, hcopy', hserved⟩ hfails
      | added hdata hserved hfails hp =>
        cases copyTo with
        | true => exact absurd (Prod.mk.inj (Option.some.inj hfailed)).2 Bool.noConfusion
        | false =>
          obtain ⟨⟨s'', ok⟩, hfree, heq⟩ := map_eq_some_iff.mp hfailed
          cases heq
          exact .notCopied ⟨hopen, hcopy', hserved⟩ hfails hdata hp hfree

def LeavesTrace (cfg : Params) (s : Usdm) (fp : ℕ) (arg : UserMemInfo) (copyFrom : Bool) (k : KernelAnswers) : Prop :=
  Reaches cfg s fp arg copyFrom k ∧ (k.mapFails = true ∧ arg.type ≠ 0 ∧ arg.type ≠ large ∨
      k.mapFails = false ∧ arg.phyAddr ≠ k.phys)

section

variable (hinv : s.InvFor A) (hfresh : k.Fresh s) (h : Failed cfg s fp arg copyFrom k s')

include hinv hfresh h

lemma Failed.unchanged (hnot : ¬ LeavesTrace cfg s fp arg copyFrom k) : s.Unchanged s' := by
  cases h with
  | early => exact Usdm.Unchanged.refl s
  | notMapped hreaches hfails =>
    have hzero : undischarged arg.type = 0 := by
      refine if_pos (Classical.byContradiction fun htype => hnot ⟨hreaches, Or.inl ?_⟩)
      exact ⟨hfails, not_or.mp htype⟩
    refine ⟨rfl, fun _ _ => rfl, fun _ _ => rfl, rfl, fun _ _ => ⟨rfl, rfl⟩, rfl,
      fun _ _ => ⟨rfl, rfl⟩, ⟨rfl, rfl⟩, ?_⟩
    rw [hzero]
    exact BitVec.add_zero _
  | @notCopied _ list p _ hreaches hfails hdata hp hfree =>
    have hphys : arg.phyAddr = k.phys := by
      refine Classical.byContradiction fun hne => hnot ⟨hreaches, Or.inr ⟨hfails, hne⟩⟩
    obtain ⟨slabs, chain, procs, hinv⟩ := hinv
    obtain ⟨hnew, -⟩ := hfresh.1 p hp
    have hadd := hinv.allocate hfresh hdata hp (s.memAllocated + charge arg.size arg.type) arg.size arg.type
    rw [hreaches.2.2.charge_eq] at hadd hfree
    obtain ⟨list', hdata'⟩ : ∃ list', (addSlab
        { s with memAllocated := s.memAllocated + (newKMem arg.size arg.type k).footprint } fp
        list p (newKMem arg.size arg.type k)).privateData fp = some list' :=
      ⟨_, update_self fp _ s.privateData⟩
    have hself : ((addSlab { s with memAllocated := s.memAllocated + (newKMem arg.size arg.type k).footprint } fp
        list p (newKMem arg.size arg.type k)).kmem p).phyAddr = arg.phyAddr := by
      simp [addSlab, newKMem, hphys]
    have hundo := hinv.freeSlab_addSlab hdata hnew (newKMem arg.size arg.type k) hdata'
    rcases hadd.userMemFree_eq hdata' hfree with ⟨hnone, -⟩ | ⟨q, hq, hqphys, rfl⟩
    · exact absurd hself (hnone p mem_cons_self)
    · obtain rfl : q = p := hadd.phys q hq p mem_cons_self (hqphys.trans hself.symm)
      exact hundo

lemma Failed.changed (htrace : LeavesTrace cfg s fp arg copyFrom k) : ¬ s.Unchanged s' := by
  intro hunchanged
  cases h with
  | early hnot => exact hnot htrace.1
  | notMapped hreaches hfails =>
    rcases htrace.2 with ⟨-, hsmall, hlarge⟩ | ⟨hmaps, -⟩
    · have hpage : undischarged arg.type = pageSize := if_neg (not_or.mpr ⟨hsmall, hlarge⟩)
      have hmem := hunchanged.memAllocated
      have hzero : pageSize = 0 := by
        grind
      exact absurd hzero (by decide)
    · exact absurd (hfails.symm.trans hmaps) Bool.noConfusion
  | @notCopied _ list p _ hreaches hfails hdata hp hfree =>
    rcases htrace.2 with ⟨hmaps, -⟩ | ⟨-, hphys⟩
    · exact absurd (hfails.symm.trans hmaps) Bool.noConfusion
    obtain ⟨slabs, chain, procs, hinv⟩ := hinv
    obtain ⟨hnew, -⟩ := hfresh.1 p hp
    have hadd := hinv.allocate hfresh hdata hp (s.memAllocated + charge arg.size arg.type) arg.size arg.type
    obtain ⟨list', hdata'⟩ : ∃ list', (addSlab
        { s with memAllocated := s.memAllocated + charge arg.size arg.type } fp list p
        (newKMem arg.size arg.type k)).privateData fp = some list' :=
      ⟨_, update_self fp _ s.privateData⟩
    -- the new slab is still there: it is not the one at the address in the request
    refine hnew ?_
    rw [← hunchanged.live]
    rcases hadd.userMemFree_eq hdata' hfree with ⟨-, rfl⟩ | ⟨q, hq, hqphys, rfl⟩
    · exact mem_cons_self
    · refine (mem_erase_of_ne ?_).mpr mem_cons_self
      rintro rfl
      refine hphys ?_
      rw [← hqphys]
      simp [addSlab, newKMem]

end

/-! ## In every run -/

lemma invFor_of_run {maxHugePages : U32} {es : List Event}
    (hrun : Run (guarded Event.FreesOwn (ofFun (usdmStep cfg))) (usdmInit maxHugePages) es s) :
    s.InvFor fun _ => True := by
  refine hrun.invariant (I := fun s => s.InvFor fun _ => True) ?_ (usdmInit_inv _ maxHugePages)
  rintro s e s' hs ⟨hown, hstep⟩
  exact (usdmStep_carried carried_true hs trivial hown (fun _ _ _ _ _ _ _ => trivial) hstep).1

/-- **A failed allocation changes nothing, unless it leaves something behind.** -/
theorem devMemAlloc_unchanged_iff {cfg : Params} {maxHugePages : U32} {es : List Event}
    {s s' : Usdm} {fp : ℕ} {arg : UserMemInfo} {copyFrom copyTo : Bool} {k : KernelAnswers}
    (hrun : Run (guarded Event.FreesOwn (ofFun (usdmStep cfg))) (usdmInit maxHugePages) es s) (hfresh : k.Fresh s)
    (hfailed : devMemAlloc cfg s fp arg copyFrom k copyTo = some (s', false)) :
    s.Unchanged s' ↔ ¬ LeavesTrace cfg s fp arg copyFrom k := by
  have hinv := invFor_of_run hrun
  have hcases := devMemAlloc_failed hfailed
  exact ⟨fun hunchanged htrace => hcases.changed hinv hfresh htrace hunchanged, hcases.unchanged hinv hfresh⟩

/-- Two processes, the first of which has a slab. -/
def oneSlab : List Event :=
  [.memOpen 1 true, .memOpen 2 true,
    .devMemAlloc 1 ⟨4096, 0, 0⟩ true ⟨0, some 64, 0x1000, 0x200000, false⟩ true]

def secondSlab : KernelAnswers := ⟨0, some 128, 0x3000, 0x201000, false⟩

/-- For instance, the address in the request happens to be that of the new slab. -/
theorem guessed_address_unchanged : ∃ s s',
      Run (guarded Event.FreesOwn (ofFun (usdmStep ⟨0, 0⟩))) (usdmInit 0) oneSlab s ∧
      devMemAlloc ⟨0, 0⟩ s 2 ⟨4096, 0, 0x201000⟩ true secondSlab false = some (s', false) ∧ s.Unchanged s' := by
  obtain ⟨s, s', hrun, hfailed, hfresh⟩ : ∃ s s',
      Run (guarded Event.FreesOwn (ofFun (usdmStep ⟨0, 0⟩))) (usdmInit 0) oneSlab s ∧
      devMemAlloc ⟨0, 0⟩ s 2 ⟨4096, 0, 0x201000⟩ true secondSlab false = some (s', false) ∧ secondSlab.Fresh s :=
    ⟨_, _, exec_guardFun_run rfl, rfl, by decide⟩
  refine ⟨s, s', hrun, hfailed, (devMemAlloc_unchanged_iff hrun hfresh hfailed).mpr ?_⟩
  rintro ⟨-, ⟨hfails, -⟩ | ⟨-, hphys⟩⟩
  · exact absurd hfails (by decide)
  · exact absurd rfl hphys

/-- **A failed request frees the slab of another process.** Its address was passed in the request; the new
slab stays. -/
theorem failed_request_frees_other : ∃ s s', Run (ofFun (usdmStep ⟨0, 0⟩)) (usdmInit 0) oneSlab s ∧
      secondSlab.Fresh s ∧ devMemAlloc ⟨0, 0⟩ s 2 ⟨4096, 0, 0x200000⟩ true secondSlab false = some (s', false) ∧
      s.live = [64] ∧ s'.live = [128] ∧ ¬ s.Unchanged s' := by
  refine ⟨_, _, exec_run rfl, by decide, rfl, rfl, rfl, fun hunchanged => ?_⟩
  exact absurd hunchanged.live (by decide)

end QuickAssist.UsdmDrv
