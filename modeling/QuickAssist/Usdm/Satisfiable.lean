import QuickAssist.Usdm.FirstFit
import QuickAssist.Usdm.Process

/-!
# Requests that can be served

`alloc_addr` sends a request to a slab of units or gives it a slab of its own. It looks at the number of units, and at
whether the alignment is that of a slab, but not at both together: the first unit behind the control block that has the
alignment may be far behind it.

**Which of them is meant.** That there are no large slabs with huge pages is said in the source. That a request for
1.5 MB at a multiple of 1 MB is sent to a slab of 2 MB is not: the only multiple of 1 MB behind the control block is in
the middle of the slab.
-/

namespace QuickAssist.Usdm

open Lib

variable {ctrl ctrl' : BlockCtrl} {size align f p : ℕ} {h h' : Heap} {a : Answers} {node : ℤ} {type : SlabType}

/-! ## Places in a slab -/

/-- There is a place for a block of this size and alignment in a slab that has no other blocks: behind
the control block, at a multiple of the alignment. -/
def Placeable (size align : ℕ) : Prop :=
  alignUp reserved (align / unitSize) + divRoundUp size unitSize ≤ bitmapLen * 64
  deriving Decidable

/-- A request is given a slab of its own. Source: the routing of `alloc_addr`. -/
def RoutedLarge (size align : ℕ) : Prop :=
  slabSize / unitSize < divRoundUp size unitSize + reserved ∨ slabSize ≤ align
  deriving Decidable

lemma memAlloc_initSlab (hclean : ctrl.Clean) (hpos : 0 < size) (hlt : size < 2 ^ 64)
    (hplace : alignUp reserved align + divRoundUp size unitSize ≤ bitmapLen * 64) :
    ∃ found, memAlloc (initSlab ctrl slabSize) size align = some found := by
  by_cases hwrap : 2 ^ 64 ≤ size + (unitSize - 1)
  · exact ⟨_, memAlloc_of_wrap hpos hlt hwrap⟩
  · have hbarrier : (initSlab ctrl slabSize).bitmap bitmapLen = BitVec.allOnes 64 := rfl
    have hunits : 0 < divRoundUp size unitSize := by
      unfold divRoundUp unitSize at *
      omega
    have hrun : FreeRun (initSlab ctrl slabSize).bitmap (divRoundUp size unitSize) align
        (alignUp reserved align) := by
      refine ⟨hplace, fun i hle hi => ?_, dvd_alignUp reserved⟩
      have hres := le_alignUp reserved align
      rw [← Bool.not_eq_true, bit_initSlab hclean (by omega)]
      omega
    rw [memAlloc_eq hbarrier hpos]
    cases hsearch : memSearch (initSlab ctrl slabSize).bitmap (divRoundUp size unitSize) align 2048
        ⟨0, 0, 0⟩ with
    | some f => exact ⟨_, rfl⟩
    | none =>
      obtain ⟨-, hnone⟩ := memSearch_least 2048 hunits (Scan.ok_zero _ align) (by decide) (by decide)
        fun g hg => absurd hg (Nat.not_lt_zero g)
      exact absurd hrun (hnone hsearch _)

lemma bit_initSlab_reserved (ctrl : BlockCtrl) (total : ℕ) :
    ∀ i < reserved, bit (initSlab ctrl total).bitmap i = true := by
  intro i hi
  rw [reserved_eq] at hi
  have hdiv : i / 64 = 0 := Nat.div_eq_of_lt (by omega)
  have hmod : i % 64 = i := Nat.mod_eq_of_lt (by omega)
  rw [initSlab, bit_update, bit_update, hdiv, hmod]
  split
  · rw [BitVec.getLsbD_allOnes, decide_eq_true_eq]
    omega
  · rw [if_pos rfl, getLsbD_lowMask (by omega), decide_eq_true_eq, reserved_eq]
    exact hi

lemma place_of_memAlloc (hmarked : ∀ i < reserved, bit ctrl.bitmap i = true) (halign : align ≤ 1024)
    (halloc : memAlloc ctrl size align = some (f, ctrl')) :
    alignUp reserved align + divRoundUp size unitSize ≤ bitmapLen * 64 := by
  obtain ⟨-, hend, hsearch, -⟩ := memAlloc_eq_some halloc
  obtain ⟨-, haligned, hclear⟩ := memSearch_spec (Scan.ok_zero _ _) (by decide) hsearch
  rcases Nat.eq_zero_or_pos (divRoundUp size unitSize) with hzero | hpos
  · -- a block of no units: the first multiple of the alignment is in the slab
    rw [hzero, reserved_eq, bitmapLen]
    unfold alignUp
    split <;> omega
  · have hres : reserved ≤ f := by
      by_contra hlow
      have hset := hmarked f (Nat.lt_of_not_le hlow)
      rw [hclear f (Nat.le_refl f) (by omega)] at hset
      cases hset
    have hfirst : alignUp reserved align ≤ f := by
      by_contra hlt
      rcases Nat.eq_zero_or_pos align with rfl | halign'
      · exact hlt hres
      · exact not_dvd_of_lt_alignUp (Nat.ne_of_gt halign') hres (Nat.lt_of_not_le hlt)
          (haligned (Nat.ne_of_gt halign'))
    omega

/-! ## New slabs -/

lemma allocSlab_fresh (hpossible : a.Possible h) (htype : type ≠ .large)
    (halloc : allocSlab h a slabSize node type = (h', some p)) :
    h'.blockCtrl p = ⟨fun _ => 0, fun _ => 0⟩ ∧ (h'.memInfo p).size = slabSize ∧
      (h'.memInfo p).virtAddr % ctrlPageSize = 0 := by
  have hcases := allocSlab_cases h a slabSize node type
  rw [halloc] at hcases
  cases hcases with
  | mapped strictNode numHugepages hmapped =>
    unfold Heap.addSlab addSlabToHash Heap.newSlab
    dsimp only
    rw [Function.update_self, Function.update_self]
    refine ⟨rfl, ?_⟩
    cases hmapped with
    | hugePage hmmap hphys => exact ⟨rfl, (hpossible.hugepage_fresh _ _ hmmap).page⟩
    | small hioctl hmmap =>
      exact ⟨(hpossible.memAlloc_size _ _ _ _ hioctl).2 (by decide), (hpossible.mmap_fresh _ _ _ hmmap).page⟩
    | large => exact absurd rfl htype

lemma allocNew_served_iff (hpossible : a.Possible h) (htype : type ≠ .large)
    (hgrant : ∃ h₁ p, allocSlab h a slabSize node type = (h₁, some p)) (hpos : 0 < size)
    (hlt : size < 2 ^ 64) (halign : align / unitSize ≤ 1024) :
    (∃ addr, (allocNew h a size node align type (slabSize / unitSize)).2 = some addr) ↔ Placeable size align := by
  obtain ⟨h₁, p, halloc⟩ := hgrant
  obtain ⟨hctrl, hsize, hpage⟩ := allocSlab_fresh hpossible htype halloc
  have hfresh : BlockCtrl.Clean ⟨fun _ => 0, fun _ => 0⟩ := clean_zero
  unfold allocNew
  rw [show slabSize / unitSize * unitSize = slabSize from rfl, halloc]
  dsimp only
  rw [if_neg htype, if_neg (not_not.mpr hpage)]
  unfold initSlabAndAlloc storeMmapRange Heap.setAllocations
  dsimp only
  rw [hctrl, hsize]
  cases hmem : memAlloc (initSlab ⟨fun _ => 0, fun _ => 0⟩ slabSize) size (align / unitSize) with
  | none =>
    refine iff_of_false (by rintro ⟨addr, haddr⟩; cases haddr) fun hplace => ?_
    obtain ⟨found, hfound⟩ := memAlloc_initSlab hfresh hpos hlt hplace
    rw [hmem] at hfound
    cases hfound
  | some found => exact iff_of_true ⟨_, rfl⟩ (place_of_memAlloc (bit_initSlab_reserved _ _) halign hmem)

lemma allocNew_large_served {allocatePages : ℕ}
    (hgrant : ∃ h₁ p, allocSlab h a (allocatePages * unitSize) node .large = (h₁, some p)) :
    ∃ addr, (allocNew h a size node align .large allocatePages).2 = some addr := by
  obtain ⟨h₁, p, halloc⟩ := hgrant
  unfold allocNew
  rw [halloc]
  exact ⟨_, rfl⟩

/-! ## Requests -/

/-- The kernel grants what it is asked for during a call: the mutex can be locked and unlocked, the file
can be opened, and a slab that is asked for is obtained. -/
structure Answers.Grants (a : Answers) (h : Heap) (size : ℕ) (node : ℤ) (align : ℕ) : Prop where
  lock : a.lock = true
  unlock : a.unlock = true
  openFd : (qaeOpenFd h a).2 = true
  slab : ∀ h' memType allocatePages,
    allocLookup h a size node align = (h', .ask memType allocatePages) →
      ∃ h'' p, allocSlab h' a (allocatePages * unitSize) node memType = (h'', some p)

def Heap.Marked (h : Heap) : Prop := ∀ p ∈ h.userMemList, ∀ i < reserved, bit (h.blockCtrl p).bitmap i = true

lemma Heap.marked_of_idle (hidle : h.userMemList = []) : h.Marked := by
  intro p hp
  rw [hidle] at hp
  cases hp

/-- They are in every heap that is reached by calls whose sizes do not wrap around. -/
lemma HeapInv.marked (hinv : HeapInv h []) : h.Marked := by
  intro p hp i hi
  obtain ⟨bs, hslab⟩ := hinv.units p hp
  rw [reserved_eq] at hi
  exact (hslab.inv.bits i (by omega)).mpr (Or.inl (reserved_eq ▸ hi))

lemma Heap.Marked.qaeOpenFd (hmarked : h.Marked) : (qaeOpenFd h a).1.Marked := by
  unfold Usdm.qaeOpenFd
  split
  · exact hmarked
  · apply Heap.marked_of_idle
    split <;> rfl

lemma Heap.Marked.findSlab (hmarked : h.Marked) (halign : align ≤ 1024) {found : ℕ × ℕ}
    (hfind : findSlab h size node align = (h', some found)) :
    alignUp reserved align + divRoundUp size unitSize ≤ bitmapLen * 64 := by
  have hcases := findSlab_cases h size node align
  rw [hfind] at hcases
  cases hcases with
  | inUse hp hmem => exact place_of_memAlloc (hmarked _ hp) halign hmem
  | cached hp hmem => exact place_of_memAlloc (bit_initSlab_reserved _ _) halign hmem

lemma units_of_pow (hpow : ∃ k, align = 2 ^ k) (hsmall : align < slabSize) : align / unitSize ≤ 1024 := by
  obtain ⟨k, rfl⟩ := hpow
  have hk : k < 21 := (Nat.pow_lt_pow_iff_right (show 1 < 2 by decide)).mp hsmall
  have hle : 2 ^ k ≤ 2 ^ 20 := Nat.pow_le_pow_right (by decide) (by omega)
  unfold unitSize
  omega

/-- **Requests that are served.** -/
theorem allocAddr_served_iff (hmarked : h.Marked) (hpos : 0 < size) (hlt : size < 2 ^ 64)
    (hpow : ∃ k, align = 2 ^ k) (hgrants : a.Grants h size node align) (hpossible : ∀ h' memType allocatePages,
      allocLookup h a size node align = (h', .ask memType allocatePages) → a.Possible h') :
    (∃ addr, (allocAddr h a size node align).2 = some addr) ↔
      if RoutedLarge size align then (qaeOpenFd h a).1.hugepagesEnabled = false
      else Placeable size align := by
  have hopen : qaeOpenFd h a = ((qaeOpenFd h a).1, true) := Prod.ext rfl hgrants.openFd
  have hmarked' := hmarked.qaeOpenFd (a := a)
  have hslab := hgrants.slab
  unfold allocAddr
  unfold allocLookup at hslab hpossible ⊢
  rw [hopen] at hslab hpossible ⊢
  dsimp only at hslab hpossible ⊢
  generalize (qaeOpenFd h a).1 = h₁ at *
  by_cases hlarge : RoutedLarge size align
  · have hcond : slabSize / unitSize < divRoundUp size unitSize + reserved ∨ slabSize ≤ align := hlarge
    rw [if_pos hcond] at hslab hpossible ⊢
    rw [if_pos hlarge]
    cases hhpg : h₁.hugepagesEnabled with
    | true => exact iff_of_false (by rintro ⟨addr, haddr⟩; cases haddr) Bool.noConfusion
    | false =>
      rw [hhpg, if_neg Bool.noConfusion] at hslab
      exact iff_of_true (allocNew_large_served (hslab h₁ _ _ rfl)) rfl
  · have hcond : ¬ (slabSize / unitSize < divRoundUp size unitSize + reserved ∨ slabSize ≤ align) := hlarge
    have halign := units_of_pow hpow (Nat.lt_of_not_le (not_or.mp hcond).2)
    rw [if_neg hcond] at hslab hpossible ⊢
    rw [if_neg hlarge]
    cases hfind : findSlab h₁ size node (align / unitSize) with
    | mk h₂ r =>
      rw [hfind] at hslab hpossible
      cases r with
      | some found => exact iff_of_true ⟨_, rfl⟩ (hmarked'.findSlab halign hfind)
      | none =>
        refine allocNew_served_iff (hpossible h₂ _ _ rfl) ?_ (hslab h₂ _ _ rfl) hpos hlt halign
        split <;> exact SlabType.noConfusion

/-! ## The whole call -/

/-- **The requests that are served**, when the kernel grants what it is asked for: those that have a place in
the kind of slab they are sent to. -/
theorem qaeMemAllocNUMA_served_iff {h : Heap} {a : Answers} {size align : U64} {node : ℤ}
    (hmarked : h.Marked) (haccepted : Accepted size align) (hgrants : a.Grants h size.toNat node align.toNat)
    (hpossible : Event.Possible ⟨.alloc size node align, a⟩ h) :
    (∃ addr, (qaeMemAllocNUMA h a size node align).live = ⟨addr, size.toNat, align.toNat⟩ :: h.live) ↔
      if RoutedLarge size.toNat align.toNat then (qaeOpenFd h a).1.hugepagesEnabled = false
      else Placeable size.toNat align.toNat := by
  rw [← allocAddr_served_iff hmarked haccepted.pos size.isLt haccepted.pow hgrants hpossible]
  have hlive := (kept_allocAddr h a size.toNat align.toNat node).live.trans (live_qaeOpenFd h a)
  unfold qaeMemAllocNUMA
  rw [if_pos ⟨haccepted, hgrants.lock⟩]
  cases halloc : allocAddr h a size.toNat node align.toNat with
  | mk h' r =>
    rw [halloc] at hlive
    cases r with
    | none =>
      refine iff_of_false ?_ (by rintro ⟨addr, haddr⟩; cases haddr)
      rintro ⟨addr, heq⟩
      exact List.cons_ne_self _ _ (heq.symm.trans hlive)
    | some addr =>
      refine iff_of_true ⟨addr, ?_⟩ ⟨addr, rfl⟩
      dsimp only
      rw [if_pos hgrants.unlock]
      exact congrArg (List.cons _) hlive

lemma granting_grants {size align : ℕ} (hsmall : ¬ RoutedLarge size align) :
    granting.Grants heapInit size 0 align := by
  refine ⟨rfl, rfl, rfl, ?_⟩
  intro h' memType allocatePages hlookup
  have hcond : ¬ (slabSize / unitSize < divRoundUp size unitSize + reserved ∨ slabSize ≤ align) := hsmall
  unfold allocLookup at hlookup
  rw [show qaeOpenFd heapInit granting = (_, true) from rfl] at hlookup
  dsimp only at hlookup
  rw [if_neg hcond] at hlookup
  obtain ⟨rfl, hask⟩ := Prod.mk.inj hlookup
  obtain ⟨rfl, rfl⟩ := Lookup.ask.inj hask
  exact ⟨_, _, rfl⟩

/-- A block of 1000 bytes is served in a process that has made no call. -/
theorem first_block_served : Heap.Marked heapInit ∧ granting.Grants heapInit 1000 0 64 ∧
      ∃ addr, (qaeMemAllocNUMA heapInit granting 1000 0 64).live = [⟨addr, 1000, 64⟩] := by
  have hmarked : Heap.Marked heapInit := Heap.marked_of_idle rfl
  have hgrants : granting.Grants heapInit 1000 0 64 := granting_grants (by decide)
  have hpossible : Event.Possible ⟨.alloc 1000 0 64, granting⟩ heapInit :=
    alloc_possible (fun _ => granting_possible) (by decide +kernel)
  have hserved := qaeMemAllocNUMA_served_iff hmarked (by decide) hgrants hpossible
  exact ⟨hmarked, hgrants, hserved.mpr (by decide)⟩

/-- **Not every request that passes the checks is served:** 1.5 MB at a multiple of 1 MB has no place in a slab
of units, and 4 MB are not to be had with huge pages. -/
theorem not_always_served : (Accepted 0x180000 0x100000 ∧ granting.Grants heapInit 0x180000 0 0x100000 ∧
        (∃ h' p, allocSlab (allocLookup heapInit granting 0x180000 0 0x100000).1 granting slabSize 0
          .small = (h', some p)) ∧ (qaeMemAllocNUMA heapInit granting 0x180000 0 0x100000).live = []) ∧
      (Accepted 0x400000 64 ∧ hugepages.Grants heapInit 0x400000 0 64 ∧
        (qaeMemAllocNUMA heapInit hugepages 0x400000 0 64).live = []) := by
  have hgrants : hugepages.Grants heapInit 0x400000 0 64 := by
    refine ⟨rfl, rfl, rfl, ?_⟩
    intro h' memType allocatePages hlookup
    cases (Prod.mk.inj hlookup).2
  exact ⟨⟨by decide, granting_grants (by decide), ⟨_, _, rfl⟩, by decide +kernel⟩,
    ⟨by decide, hgrants, by decide +kernel⟩⟩

end QuickAssist.Usdm
