import QuickAssist.Lib.Extent
import QuickAssist.Usdm.Slab
import QuickAssist.UsdmDrv.Accounting

/-!
# What is written and what is shown

An allocation fills in the control information of the new slab, and `mmap` puts pages of a slab into the address space
of the process. The size and the type of a slab, and the size of a mapping, are the process's choice.
`userMemAllocTrace` is `userMemAlloc` with the bytes that it writes to the control information, and `memMmapTrace` is
`mem_mmap` with the page frames that it maps.

**The defect.** `memset` clears a whole `block_ctrl_t`, 4440 bytes, and a small slab may be a page of 4096. A mapping
of one page is taken to be for the control page, and the pointer to it is null in a small slab. `beyond_the_page` has
an instance of each.

**Outside.** `virt_to_phys` subtracts the start of the direct mapping, which begins at a page, and what the kernel
hands out lies in that mapping and does not wrap around. `remap_pfn_range` maps consecutive frames.
-/

namespace QuickAssist.UsdmDrv

open Lib List BitVec

variable {cfg : Params} {s s' : Usdm} {fp : ℕ} {size pageOffset : U64} {type : U32} {k : KernelAnswers}
  {m : KMem} {e : Event}
open QuickAssist.Usdm (sizeofBlockCtrl)

/-! ## Writing -/

/-- The fields that are set before the slab is mapped for the device: `nodeId`, `size` and `type` of a
`dev_mem_info_t`. -/
def memInfoFields (memInfo : U64) : List Extent :=
  [⟨memInfo.toNat, 8⟩, ⟨memInfo.toNat + 8, 8⟩, ⟨memInfo.toNat + 16, 4⟩]

/-- The field that is set afterwards, `phy_addr`. -/
def phyAddrField (memInfo : U64) : List Extent := [⟨memInfo.toNat + 32, 8⟩]

/-- The end of `userMemAlloc`, with what is written. -/
def mapSlabTrace (s : Usdm) (fp : ℕ) (list : ProcMemList) (p : ℕ) (kmem : KMem) (type : U32)
    (mapFails : Bool) (memInfo : U64) : (Usdm × Bool) × List Extent :=
  (mapSlab s fp list p kmem type mapFails, memInfoFields memInfo ++ if mapFails then [] else phyAddrField memInfo)

/-- `userMemAlloc`, with the bytes that are written to the control information: a page of its own for a large
slab, and the beginning of a small one. -/
def userMemAllocTrace (cfg : Params) (s : Usdm) (fp : ℕ) (size : U64) (largeMemory : U32)
    (k : KernelAnswers) : (Usdm × Bool) × List Extent :=
  if size = 0 then ((s, false), [])
  else
    match s.privateData fp with
    | none => ((s, false), [])
    | some list =>
      let size := remappingSize size
      let totalInKBytes := inKBytes (s.memAllocated + size)
      let maxMemNuma := cfg.maxMemNuma.setWidth 64
      if largeMemory ≠ 0 then
        if maxMemNuma ≠ 0 ∧ maxMemNuma < totalInKBytes + pageSize / 1024 then ((s, false), [])
        else if k.ctrlPage = 0 then ((s, false), [])
        else
          match k.kmem with
          | none => ((s, false), [])
          | some p =>
            if k.slab = 0 ∨ ¬ isPageAligned k.slab then ((s, false), [])
            else
              mapSlabTrace { s with memAllocated := s.memAllocated + (size + pageSize) } fp list p
                ⟨k.slab, k.ctrlPage, size, k.phys⟩ largeMemory k.mapFails k.ctrlPage
      else if maxMemNuma ≠ 0 ∧ maxMemNuma < totalInKBytes then ((s, false), [])
      else if k.slab = 0 ∨ ¬ isPageAligned k.slab then ((s, false), [])
      else
        match k.kmem with
        | none => ((s, false), [])
        | some p =>
          let (out, writes) :=
            mapSlabTrace { s with memAllocated := s.memAllocated + size } fp list p
              ⟨k.slab, 0, size, k.phys⟩ largeMemory k.mapFails k.slab
          (out, ⟨k.slab.toNat, sizeofBlockCtrl⟩ :: writes)

def newPages (size : U64) (type : U32) (k : KernelAnswers) : List Extent :=
  ⟨k.slab.toNat, (remappingSize size).toNat⟩ ::
    if type ≠ 0 then [⟨k.ctrlPage.toNat, pageSize.toNat⟩] else []

def WritesWithin (writes pages : List Extent) : Prop := ∀ w ∈ writes, ∃ e ∈ pages, w.Within e

/-- A small slab has room for a `block_ctrl_t`. -/
def HasRoom (size : U64) (type : U32) : Prop := type = 0 → sizeofBlockCtrl ≤ (remappingSize size).toNat
  deriving Decidable

def initialised (type : U32) (k : KernelAnswers) : List Extent :=
  if type ≠ 0 then memInfoFields k.ctrlPage ++ if k.mapFails then [] else phyAddrField k.ctrlPage
  else ⟨k.slab.toNat, sizeofBlockCtrl⟩ ::
    (memInfoFields k.slab ++ if k.mapFails then [] else phyAddrField k.slab)

lemma userMemAllocTrace_eq {list : ProcMemList} (hdata : s.privateData fp = some list) :
    userMemAllocTrace cfg s fp size type k =
      if Served cfg s size type k then (userMemAlloc cfg s fp size type k, initialised type k)
      else ((s, false), []) := by
  by_cases hserved : Served cfg s size type k
  · rw [if_pos hserved, userMemAlloc_eq hdata, if_pos hserved]
    unfold userMemAllocTrace
    rw [hdata]
    refine ((checks_eq _ _ _).trans (if_pos hserved)).trans ?_
    unfold charge newKMem initialised
    split <;> rfl
  · rw [if_neg hserved]
    unfold userMemAllocTrace
    rw [hdata]
    exact (checks_eq _ _ _).trans (if_neg hserved)

lemma userMemAllocTrace_fst : (userMemAllocTrace cfg s fp size type k).1 = userMemAlloc cfg s fp size type k := by
  cases hdata : s.privateData fp with
  | none =>
    simp only [userMemAllocTrace, userMemAlloc, hdata]
    split <;> rfl
  | some list =>
    rw [userMemAllocTrace_eq hdata, userMemAlloc_eq hdata]
    split <;> rfl

lemma within_memInfo {memInfo : U64} {mapFails : Bool} {w : Extent}
    (hw : w ∈ memInfoFields memInfo ++ if mapFails then [] else phyAddrField memInfo) :
    w.Within ⟨memInfo.toNat, 40⟩ := by
  rw [mem_append] at hw
  rcases hw with hw | hw
  · simp only [memInfoFields, mem_cons, not_mem_nil, or_false] at hw
    rcases hw with rfl | rfl | rfl <;> constructor <;> dsimp only <;> omega
  · split at hw
    · simp at hw
    · simp only [phyAddrField, mem_singleton] at hw
      subst hw
      constructor <;> dsimp only <;> omega

/-- **What is written lies in the new pages if and only if there is room for it.** -/
theorem initialised_within_iff : WritesWithin (initialised type k) (newPages size type k) ↔ HasRoom size type := by
  unfold initialised newPages HasRoom WritesWithin
  by_cases htype : type ≠ 0
  · simp only [if_pos htype]
    refine iff_of_true ?_ fun hzero => absurd hzero htype
    intro w hw
    obtain ⟨hstart, hend⟩ := within_memInfo hw
    have hpage : pageSize.toNat = 4096 := rfl
    refine ⟨⟨k.ctrlPage.toNat, pageSize.toNat⟩, by simp, hstart, ?_⟩
    dsimp only at hstart hend ⊢
    omega
  · simp only [if_neg htype, forall_mem_cons, mem_singleton, exists_eq_left]
    have hzero : type = 0 := not_not.mp htype
    constructor
    · rintro ⟨⟨-, hend⟩, -⟩ -
      dsimp only at hend
      omega
    · intro hroom
      have hle := hroom hzero
      refine ⟨⟨Nat.le_refl _, by dsimp only; omega⟩, fun w hw => ?_⟩
      obtain ⟨hstart, hend⟩ := within_memInfo hw
      have hctrl : 40 ≤ sizeofBlockCtrl := by decide
      refine ⟨hstart, ?_⟩
      dsimp only at hstart hend ⊢
      omega

lemma userMemAllocTrace_within_iff : WritesWithin (userMemAllocTrace cfg s fp size type k).2 (newPages size type k) ↔
      ((s.privateData fp).isSome → Served cfg s size type k → HasRoom size type) := by
  cases hdata : s.privateData fp with
  | none =>
    have hnil : (userMemAllocTrace cfg s fp size type k).2 = [] := by
      simp only [userMemAllocTrace, hdata]
      split <;> rfl
    rw [hnil]
    simp [WritesWithin]
  | some list =>
    rw [userMemAllocTrace_eq hdata]
    by_cases hserved : Served cfg s size type k
    · simp [initialised_within_iff, hserved]
    · simp [hserved, WritesWithin]

/-! ## Showing -/

def virtToPhys (pageOffset v : U64) : U64 := v - pageOffset

/-- The frame of a physical address. Source: `>> PAGE_SHIFT`. -/
def frameOf (phys : U64) : U64 := phys >>> 12

def remapPfnRange (pfn size : U64) : List U64 :=
  (List.range ((remappingSize size).toNat / pageSize.toNat)).map fun i => pfn + BitVec.ofNat 64 i

/-- `mem_mmap`, with the frames that are mapped. -/
def memMmapTrace (pageOffset : U64) (s : Usdm) (fp : ℕ) (pgoff size : U64)
    (remap : Bool) : Option ((Usdm × Bool) × List U64) :=
  (userMemGetInfo s fp (pgoff <<< 12)).map fun
    | none => ((s, false), [])
    | some p =>
      if (s.kmem p).size < size then ((s, false), [])
      else
        -- there is an agreement that a mapping of one page is for the control information
        let area := if size = pageSize then (s.kmem p).hugeMemCtrl else (s.kmem p).kmallocPtr
        let physKmallocArea := virtToPhys pageOffset area
        if !remap then ((s, false), [])
        else (({ s with accesses := ⟨fp, s.allocatedBy p⟩ :: s.accesses }, true),
          remapPfnRange (frameOf physKmallocArea) size)

lemma memMmapTrace_fst (pageOffset : U64) (s : Usdm) (fp : ℕ) (pgoff size : U64) (remap : Bool) :
    (memMmapTrace pageOffset s fp pgoff size remap).map Prod.fst = memMmap s fp pgoff size remap := by
  unfold memMmapTrace memMmap
  rw [Option.map_map]
  congr 1
  funext found
  cases found with
  | none => rfl
  | some p =>
    simp only [Function.comp_apply]
    split
    · rfl
    split <;> rfl

def KMem.Owns (pageOffset : U64) (m : KMem) (frame : U64) : Prop :=
  (∃ i, i < m.size.toNat ∧ frame = frameOf (virtToPhys pageOffset (m.kmallocPtr + BitVec.ofNat 64 i))) ∨
    m.hugeMemCtrl ≠ 0 ∧ ∃ i, i < pageSize.toNat ∧
      frame = frameOf (virtToPhys pageOffset (m.hugeMemCtrl + BitVec.ofNat 64 i))

def HasPage (m : KMem) (size : U64) : Prop := size = pageSize → m.hugeMemCtrl ≠ 0
  deriving Decidable

structure KMem.Sited (pageOffset : U64) (m : KMem) : Prop where
  rounded : pageSize.toNat ∣ m.size.toNat
  direct : pageOffset.toNat ≤ m.kmallocPtr.toNat
  fits : m.kmallocPtr.toNat + m.size.toNat ≤ 2 ^ 64
  notNull : pageSize.toNat ≤ m.kmallocPtr.toNat

lemma toNat_frameOf (v : U64) (h : pageOffset.toNat ≤ v.toNat) :
    (frameOf (virtToPhys pageOffset v)).toNat = (v.toNat - pageOffset.toNat) / 4096 := by
  unfold frameOf virtToPhys
  rw [toNat_ushiftRight, toNat_sub_of_le h, Nat.shiftRight_eq_div_pow]

lemma KMem.Sited.toNat_add (h : m.Sited pageOffset) {i : ℕ} (hi : i < m.size.toNat) :
    (m.kmallocPtr + BitVec.ofNat 64 i).toNat = m.kmallocPtr.toNat + i := by
  have hfits := h.fits
  rw [BitVec.toNat_add, BitVec.toNat_ofNat, Nat.mod_eq_of_lt (by omega : i < 2 ^ 64), Nat.mod_eq_of_lt (by omega)]

lemma pages_le (hrounded : pageSize.toNat ∣ m.size.toNat) (hsize : ¬ m.size < size) {i : ℕ}
    (hi : i < (remappingSize size).toNat / pageSize.toNat) : i * 4096 < m.size.toNat := by
  have hpage : pageSize.toNat = 4096 := rfl
  rw [hpage] at hrounded hi
  have hle : size.toNat ≤ m.size.toNat := by
    rw [lt_def] at hsize
    omega
  have hround : (remappingSize size).toNat ≤ size.toNat + 4095 := by
    refine Nat.le_trans Nat.and_le_left ?_
    unfold pageSize
    bv_omega
  omega

lemma KMem.Sited.owns_data (h : m.Sited pageOffset) (hsize : ¬ m.size < size) :
    ∀ f ∈ remapPfnRange (frameOf (virtToPhys pageOffset m.kmallocPtr)) size, m.Owns pageOffset f := by
  intro f hf
  obtain ⟨i, hi, rfl⟩ := mem_map.mp hf
  have hbyte := pages_le h.rounded hsize (mem_range.mp hi)
  refine Or.inl ⟨i * 4096, hbyte, eq_of_toNat_eq ?_⟩
  have hadd := h.toNat_add hbyte
  have hdirect := h.direct
  have hframe := toNat_frameOf m.kmallocPtr hdirect
  rw [toNat_frameOf _ (by rw [hadd]; omega), hadd, BitVec.toNat_add, hframe, BitVec.toNat_ofNat]
  omega

lemma KMem.Sited.not_owns_null (h : m.Sited pageOffset) (hoffset : pageSize.toNat ∣ pageOffset.toNat)
    (hctrl : m.hugeMemCtrl = 0) : ¬ m.Owns pageOffset (frameOf (virtToPhys pageOffset 0)) := by
  rintro (⟨i, hi, heq⟩ | ⟨hne, -⟩)
  · have hadd := h.toNat_add hi
    have hdirect := h.direct
    have hnull := h.notNull
    have hpage : pageSize.toNat = 4096 := rfl
    replace heq := congrArg BitVec.toNat heq
    rw [toNat_frameOf (m.kmallocPtr + BitVec.ofNat 64 i) (by rw [hadd]; omega), hadd] at heq
    unfold frameOf virtToPhys at heq
    rw [toNat_ushiftRight, toNat_sub, Nat.shiftRight_eq_div_pow] at heq
    have hzero : (0 : U64).toNat = 0 := rfl
    rw [hpage] at hoffset hnull
    obtain ⟨q, hq⟩ := hoffset
    rcases Nat.eq_zero_or_pos q with rfl | hpos
    · omega
    · omega
  · exact hne hctrl

lemma KMem.owns_ctrl (hctrl : m.hugeMemCtrl ≠ 0) :
    ∀ f ∈ remapPfnRange (frameOf (virtToPhys pageOffset m.hugeMemCtrl)) pageSize, m.Owns pageOffset f := by
  intro f hf
  obtain ⟨i, hi, rfl⟩ := mem_map.mp hf
  obtain rfl : i = 0 := Nat.lt_one_iff.mp (mem_range.mp hi)
  refine Or.inr ⟨hctrl, 0, by decide, ?_⟩
  simp

lemma mem_remapPfnRange_pageSize (pfn : U64) : pfn ∈ remapPfnRange pfn pageSize := by
  have hone : (remappingSize pageSize).toNat / pageSize.toNat = 1 := by decide
  simp [remapPfnRange, hone]

/-- **What is shown is of the slab if and only if the slab has the page that is asked for.** -/
theorem KMem.Sited.owns_iff (h : m.Sited pageOffset) (hoffset : pageSize.toNat ∣ pageOffset.toNat)
    (hsize : ¬ m.size < size) : (∀ f ∈ remapPfnRange (frameOf (virtToPhys pageOffset
        (if size = pageSize then m.hugeMemCtrl else m.kmallocPtr))) size, m.Owns pageOffset f) ↔ HasPage m size := by
  by_cases hpage : size = pageSize
  · subst hpage
    constructor
    · intro howns _ hctrl
      rw [hctrl] at howns
      exact h.not_owns_null hoffset hctrl (howns _ (mem_remapPfnRange_pageSize _))
    · intro hhas
      exact KMem.owns_ctrl (hhas rfl)
  · rw [if_neg hpage]
    exact iff_of_true (h.owns_data hsize) fun heq => absurd heq hpage

/-! ## In every run -/

/-- What the kernel hands out lies in the direct mapping and does not wrap around. -/
def Event.Sited (pageOffset : U64) : Event → Prop
  | .devMemAlloc _ arg _ k _ => k.slab ≠ 0 → pageOffset.toNat ≤ k.slab.toNat ∧
      k.slab.toNat + (remappingSize arg.size).toNat ≤ 2 ^ 64
  | _ => True

instance (pageOffset : U64) (e : Event) : Decidable (e.Sited pageOffset) := by
  apply @Event.casesOn _ e <;> intros <;> dsimp only [Event.Sited] <;> infer_instance

def Event.Contained (s : Usdm) : Event → Prop
  | .devMemAlloc _ arg _ _ _ => HasRoom arg.size arg.type
  | .memMmap _ pgoff size _ => ∀ p ∈ s.live, (s.kmem p).phyAddr = pgoff <<< 12 → HasPage (s.kmem p) size
  | _ => True

instance (s : Usdm) (e : Event) : Decidable (e.Contained s) := by
  apply @Event.casesOn _ e <;> intros <;> dsimp only [Event.Contained] <;> infer_instance

def Event.Modest (pageOffset : U64) (s : Usdm) (e : Event) : Prop :=
  e.Sited pageOffset ∧ e.FreesOwn s ∧ e.Contained s
  deriving Decidable

def Usdm.Sited (pageOffset : U64) (s : Usdm) : Prop := ∀ p ∈ s.live, (s.kmem p).Sited pageOffset

lemma carried_sited (pageOffset : U64) : UsdmInv.Carried (Usdm.Sited pageOffset) := by
  constructor
  · intro s s' h hlive hkmem _ p hp
    rw [hkmem]
    exact h p (hlive ▸ hp)
  · intro s p list _ _ h q hq
    exact h q (mem_of_mem_erase hq)

lemma Served.sited (h : Served cfg s size type k) (hsited : k.slab ≠ 0 → pageOffset.toNat ≤ k.slab.toNat ∧
      k.slab.toNat + (remappingSize size).toNat ≤ 2 ^ 64) : (newKMem size type k).Sited pageOffset := by
  obtain ⟨hdirect, hfits⟩ := hsited h.slab
  refine ⟨dvd_remappingSize size, hdirect, hfits, ?_⟩
  have haligned : remappingSize k.slab = k.slab := of_decide_eq_true h.aligned
  have hdvd := dvd_remappingSize k.slab
  rw [haligned] at hdvd
  refine Nat.le_of_dvd (Nat.pos_of_ne_zero fun hzero => h.slab ?_) hdvd
  exact eq_of_toNat_eq hzero

lemma Usdm.Sited.userMemAlloc (h : s.Sited pageOffset) {fp : ℕ}
    (hfresh : k.Fresh s) (hsited : k.slab ≠ 0 → pageOffset.toNat ≤ k.slab.toNat ∧
      k.slab.toNat + (remappingSize size).toNat ≤ 2 ^ 64) :
    (userMemAlloc cfg s fp size type k).1.Sited pageOffset := by
  have halloc := userMemAlloc_allocated cfg s fp size type k
  generalize UsdmDrv.userMemAlloc cfg s fp size type k = out at halloc
  cases halloc with
  | refused | notMapped => exact h
  | @added list p hdata hserved hfails hp =>
    have hnew := (hfresh.1 p hp).1
    refine forall_mem_cons.mpr ⟨?_, fun q hq => ?_⟩
    · simp only [addSlab, Function.update_self]
      exact hserved.sited hsited
    · have hne : q ≠ p := fun heq => hnew (heq ▸ hq)
      simp only [addSlab, Function.update_of_ne hne]
      exact h q hq

/-- **The step lemma.** -/
theorem usdmStep_sited (hinv : s.InvFor fun _ => True) (h : s.Sited pageOffset)
    (he : e.Modest pageOffset s) (hstep : usdmStep cfg s e = some s') :
    s'.InvFor (fun _ => True) ∧ s'.Sited pageOffset := by
  obtain ⟨hsited, hown, -⟩ := he
  refine usdmStep_carried (carried_sited pageOffset) hinv h hown ?_ hstep
  rintro fp arg copyFrom k copyTo rfl hfresh
  exact h.userMemAlloc hfresh hsited

/-- **Writes and mappings stay within a slab if and only if there is what is asked for.** -/
theorem contained_iff {cfg : Params} {pageOffset : U64} {maxHugePages : U32}
    {es : List Event} {s : Usdm} (hoffset : pageSize.toNat ∣ pageOffset.toNat)
    (hrun : Run (guarded (Event.Modest pageOffset) (ofFun (usdmStep cfg))) (usdmInit maxHugePages) es s) :
    (∀ fp size type k, WritesWithin (userMemAllocTrace cfg s fp size type k).2 (newPages size type k) ↔
        ((s.privateData fp).isSome → Served cfg s size type k → HasRoom size type)) ∧ ∀ fp pgoff size remap s' frames,
      memMmapTrace pageOffset s fp pgoff size remap = some ((s', true), frames) →
        ∃ p ∈ s.live, (s.kmem p).phyAddr = pgoff <<< 12 ∧
          ((∀ f ∈ frames, (s.kmem p).Owns pageOffset f) ↔ HasPage (s.kmem p) size) := by
  have hboth : s.InvFor (fun _ => True) ∧ s.Sited pageOffset := by
    refine hrun.invariant (I := fun s => s.InvFor (fun _ => True) ∧ s.Sited pageOffset) ?_ ?_
    · rintro s e s' ⟨hinv, h⟩ ⟨he, hstep⟩
      exact usdmStep_sited hinv h he hstep
    · refine ⟨usdmInit_inv _ maxHugePages, ?_⟩
      intro p hp
      cases hp
  refine ⟨fun fp size type k => userMemAllocTrace_within_iff, ?_⟩
  intro fp pgoff size remap s' frames hmap
  obtain ⟨⟨slabs, chain, procs, hinv⟩, hsited⟩ := hboth
  obtain ⟨found, hfound, heq⟩ := Option.map_eq_some_iff.mp hmap
  cases found with
  | none => cases heq
  | some p =>
    obtain ⟨r, hfind, hr⟩ := hinv.findSlab_spec (pgoff <<< 12)
    have hlive : p ∈ s.live ∧ (s.kmem p).phyAddr = pgoff <<< 12 := by
      unfold userMemGetInfo at hfound
      split at hfound
      · cases hfound
      · exact (hr p).mp (Option.some.inj (hfind.symm.trans hfound))
    refine ⟨p, hlive.1, hlive.2, ?_⟩
    dsimp only at heq
    split at heq
    · cases heq
    next hsize =>
      split at heq
      · cases heq
      · rw [← (Prod.mk.inj heq).2]
        exact (hsited p hlive.1).owns_iff hoffset hsize

/-- For instance: a process has a small slab of two pages, and maps both. -/
theorem two_pages_contained :
    ∃ s s', Run (guarded (Event.Modest 0xffff888000000000) (ofFun (usdmStep ⟨0, 0⟩))) (usdmInit 0)
        [.memOpen 1 true,
          .devMemAlloc 1 ⟨8000, 0, 0⟩ true ⟨0, some 64, 0xffff888000010000, 0x10000, false⟩ true] s ∧
      memMmapTrace 0xffff888000000000 s 1 0x10 8192 true = some ((s', true), [0x10, 0x11]) ∧
      ∃ p ∈ s.live, (s.kmem p).Owns 0xffff888000000000 0x10 ∧ (s.kmem p).Owns 0xffff888000000000 0x11 := by
  have hrun : Run (guarded (Event.Modest 0xffff888000000000) (ofFun (usdmStep ⟨0, 0⟩))) (usdmInit 0) [.memOpen 1 true,
        .devMemAlloc 1 ⟨8000, 0, 0⟩ true ⟨0, some 64, 0xffff888000010000, 0x10000, false⟩ true] _ := exec_guardFun_run rfl
  obtain ⟨p, hp, -, howns⟩ := (contained_iff (by decide) hrun).2 1 0x10 8192 true _ [0x10, 0x11] rfl
  have hboth := howns.mpr fun hsize => absurd hsize (by decide)
  exact ⟨_, _, hrun, rfl, p, hp, hboth _ (by simp), hboth _ (by simp)⟩

/-! ## Beyond the page -/

/-- **Outside of the slab.** A small slab of a page is asked for, and 4440 bytes are cleared in it. A page of
a small slab is mapped, and the frame of the null pointer is shown. -/
theorem beyond_the_page : (∃ s, Run (ofFun (usdmStep ⟨0, 0⟩)) (usdmInit 0) [.memOpen 1 true] s ∧ ¬ WritesWithin
        (userMemAllocTrace ⟨0, 0⟩ s 1 4096 0 ⟨0, some 64, 0xffff888000010000, 0x10000, false⟩).2
        (newPages 4096 0 ⟨0, some 64, 0xffff888000010000, 0x10000, false⟩)) ∧
    ∃ s s', Run (ofFun (usdmStep ⟨0, 0⟩)) (usdmInit 0)
        [.memOpen 1 true,
          .devMemAlloc 1 ⟨8192, 0, 0⟩ true ⟨0, some 64, 0xffff888000010000, 0x10000, false⟩ true] s ∧
      memMmapTrace 0xffff888000000000 s 1 0x10 4096 true = some ((s', true), [0x778000000]) ∧
      s.live = [64] ∧ ¬ (s.kmem 64).Owns 0xffff888000000000 0x778000000 := by
  constructor
  · refine ⟨_, exec_run rfl, fun hwithin => ?_⟩
    have hroom := userMemAllocTrace_within_iff.mp hwithin rfl (by decide)
    exact absurd hroom (by decide)
  · have hsited : (⟨0xffff888000010000, 0, 8192, 0x10000⟩ : KMem).Sited 0xffff888000000000 :=
      ⟨by decide, by decide, by decide, by decide⟩
    exact ⟨_, _, exec_run rfl, rfl, rfl, hsited.not_owns_null (by decide) rfl⟩

end QuickAssist.UsdmDrv
