import QuickAssist.Lib.Run
import QuickAssist.Usdm.Blocks
import QuickAssist.Usdm.Moves

/-!
# The blocks that the caller holds

`blocks_safe` is about all calls whose sizes do not wrap around when they are rounded up to units, whatever the kernel
grants or refuses, and also when blocks are lost because the mutex could not be locked or unlocked. The alignment is
that of the physical address, `phys_alignment_byte`; the mapping of a slab is only aligned to pages.

**The defect.** For a size of `2 ^ 64 - 1` the number of units is 0. The request is taken for a small one, the search is
content with the first unit of the slab, and the caller gets the address of the control block
(`wrapped_size_gives_control_area`).
-/

namespace QuickAssist.Usdm

open Lib Function List

variable {h h' : Heap} {a : Answers} {b : Block} {p size align allocatePages len : ℕ} {node : ℤ} {type : SlabType}
  {info : DevMemInfo} {phy : U64}

/-! ## The functions -/

lemma qaeOpenFd_of_open (hfd : h.fd = true) (a : Answers) : qaeOpenFd h a = (h, true) := by
  rw [qaeOpenFd, if_pos hfd]

namespace HeapInv

lemma of_empty (hunits : h.userMemList = []) (hcache : h.userCache = [])
    (hlarge : h.userLargeMemList = []) (hhash : h.slabList = fun _ => []) (hlive : h.live = []) : HeapInv h [] := by
  have hslabs : h.slabs = [] := by rw [Heap.slabs, hunits, hcache, hlarge]; rfl
  refine ⟨fun _ => hlive, ?_, ?_, ?_, ?_, ?_, ?_⟩
  · rw [hslabs, hhash]
    exact ⟨nodup_nil, by simp, by simp, fun _ => nodup_nil, by simp⟩
  · simp [hunits]
  · simp [hcache]
  · simp [hlarge]
  · simp [hlive]
  · rw [hlive]
    exact List.Pairwise.nil

lemma qaeOpenFd (hinv : HeapInv h []) {ok : Bool} (hopen : qaeOpenFd h a = (h', ok)) :
    HeapInv h' [] ∧ (ok = true → h'.fd = true) := by
  by_cases hfd : h.fd = true
  · rw [qaeOpenFd_of_open hfd] at hopen
    cases hopen
    exact ⟨hinv, fun _ => hfd⟩
  · have hlive := hinv.closed (Bool.eq_false_iff.mpr hfd)
    rw [Usdm.qaeOpenFd, if_neg hfd] at hopen
    split at hopen
    · cases hopen
      exact ⟨of_empty rfl rfl rfl rfl hlive, fun _ => rfl⟩
    · cases hopen
      exact ⟨of_empty rfl rfl rfl rfl hlive, by simp⟩

lemma fd_of_mem (hinv : HeapInv h []) {b : Block} (hb : b ∈ h.live) : h.fd = true := by
  by_contra hfd
  rw [hinv.closed (Bool.eq_false_iff.mpr hfd)] at hb
  cases hb

end HeapInv

inductive Freed (h : Heap) (b : Block) : Heap → Prop
  | notFound : Freed h b h
  | notLocked : Freed h b (h.forget b.addr)
  | inUse {p : ℕ} {h₁ : Heap} (hp : p ∈ h.userMemList) (hhas : (h.memInfo p).extent.Has b.addr)
      (hh₁ : h₁ = (h.setCtrl p (memFree (h.blockCtrl p) p b.addr)).setAllocations p
        (h.allocations p - 1)) (hcount : h₁.allocations p ≠ 0) : Freed h b (h₁.forget b.addr)
  | unused {p : ℕ} {h₁ : Heap} (hp : p ∈ h.userMemList) (hhas : (h.memInfo p).extent.Has b.addr)
      (hh₁ : h₁ = (h.setCtrl p (memFree (h.blockCtrl p) p b.addr)).setAllocations p
        (h.allocations p - 1)) (hcount : h₁.allocations p = 0) :
      Freed h b (((pushSlab { h₁ with userMemList := h₁.userMemList.erase p } p).getD
        (freeSlab { h₁ with userMemList := h₁.userMemList.erase p } p)).forget b.addr)
  | large {p : ℕ} (hp : p ∈ h.userLargeMemList) (hhas : (h.memInfo p).extent.Has b.addr) :
      Freed h b ((freeSlab { h with userLargeMemList := h.userLargeMemList.erase p } p).forget b.addr)

namespace HeapInv

section

variable (hinv : HeapInv h []) (hb : b ∈ h.live)

include hinv hb

/-- **What freeing does.** The slab that is found is in one of the lists, and not in the cache. -/
theorem freed : Freed h b (Usdm.qaeMemFreeNUMA h a b.addr) := by
  unfold Usdm.qaeMemFreeNUMA freeAddr
  rw [qaeOpenFd_of_open (hinv.fd_of_mem hb)]
  dsimp only
  split
  · cases hfind : findSlabInHash h b.addr with
    | none => exact .notFound
    | some p =>
      obtain ⟨-, q, hq, hhasq⟩ := hinv.placed b hb
      have hbound := (hinv.layout.mapped q hq).bounded
      have hva : b.addr < 2 ^ 64 := Nat.lt_of_lt_of_le hhasq.2 hbound
      obtain ⟨hp, hhas⟩ := findSlabInHash_spec hinv hva hfind
      dsimp only
      rcases Heap.mem_slabs.mp hp with hp | hp | hp
      · obtain ⟨bs, hslab⟩ := hinv.units p hp
        rw [if_neg hslab.type]
        generalize hh₁ : (h.setCtrl p _).setAllocations p _ = h₁
        by_cases hzero : h₁.allocations p = 0
        · rw [if_neg fun hne => hne hzero]
          exact .unused hp hhas hh₁.symm hzero
        · rw [if_pos hzero]
          exact .inUse hp hhas hh₁.symm hzero
      · obtain ⟨f, hf, -⟩ := (hinv.cached p hp).placed b hb hhas
        cases hf
      · rw [if_pos (hinv.large p hp).type]
        exact .large hp hhas
  · exact .notLocked

/-- **Freeing is a sequence of moves,** but for what the caller holds. -/
theorem moves_free {New : Heap → ℕ → DevMemInfo → Prop} :
    ∃ h₁ live, Moves a New (h, []) (h₁, []) ∧ Usdm.qaeMemFreeNUMA h a b.addr = { h₁ with live := live } := by
  generalize hh' : Usdm.qaeMemFreeNUMA h a b.addr = h'
  have hfreed : Freed h b h' := hh' ▸ hinv.freed hb
  cases hfreed with
  | notFound => exact ⟨h, h.live, .refl, rfl⟩
  | notLocked => exact ⟨h, _, .refl, rfl⟩
  | @inUse p h₁ hp hhas hh₁ hcount =>
    rw [hh₁]
    exact ⟨_, _, (Shift.write _ _ h.strictNode).moves, rfl⟩
  | @unused p h₁ hp hhas hh₁ hcount =>
    obtain ⟨bs, hslab⟩ := hinv.units p hp
    have hmapped := hinv.layout.mapped p (Heap.mem_slabs.mpr (Or.inl hp))
    have hsize : (h₁.memInfo p).size = slabSize := hh₁ ▸ (hmapped.units hslab.type).2.1
    have hdropped : Moves a New (h, []) ({ h₁ with userMemList := h₁.userMemList.erase p }, [p]) := by
      rw [hh₁]
      exact (Shift.write _ _ h.strictNode).moves.trans (Shift.moves (.drop hp))
    refine ⟨_, _, hdropped.trans ?_, rfl⟩
    unfold pushSlab
    dsimp only
    split
    · exact Shift.moves (.push hsize (by assumption))
    · exact .single .free
  | large hp hhas => exact ⟨_, _, (Shift.dropLarge hp).moves.tail .free, rfl⟩

/-- **Freeing a block keeps the invariant.** -/
theorem qaeMemFreeNUMA : HeapInv (qaeMemFreeNUMA h a b.addr) [] := by
  generalize hh' : Usdm.qaeMemFreeNUMA h a b.addr = h'
  have hfreed : Freed h b h' := hh' ▸ hinv.freed hb
  cases hfreed with
  | notFound => exact hinv
  | notLocked => exact hinv.forget eraseP_sublist
  | inUse hp hhas hh₁ hcount => exact (hinv.freeUnits hp hb hhas hh₁).1 hcount
  | unused hp hhas hh₁ hcount => exact (hinv.freeUnits hp hb hhas hh₁).2 hcount
  | large hp hhas => exact hinv.freeLarge hp hb hhas

end

end HeapInv

def Heap.Offers (h : Heap) (size align : ℕ) (found : ℕ × ℕ) : Prop :=
  HeapInv ((h.setAllocations found.1 (h.allocations found.1 + 1)).hand ⟨found.2, size, align⟩) []

/-- The kind of slab, and the number of units, that the kernel is asked for. -/
inductive Asks (size align : ℕ) : SlabType → ℕ → Prop
  | large (hroute : ctrlPageSize < max size align) : Asks size align .large (divRoundUp (max size align) unitSize)
  | units {type : SlabType} (htype : type ≠ .large) (hsmall : align < slabSize) :
      Asks size align type (slabSize / unitSize)

lemma Asks.small {size align allocatePages : ℕ} (hasks : Asks size align type allocatePages)
    (htype : type ≠ .large) : align < slabSize := by
  cases hasks with
  | large => exact absurd rfl htype
  | units _ hsmall => exact hsmall

lemma clean_zero : BlockCtrl.Clean ⟨fun _ => 0, fun _ => 0⟩ := fun _ _ _ => BitVec.getLsbD_zero

namespace HeapInv

section

variable (hinv : HeapInv h [])

include hinv

lemma findSlab (hfd : h.fd = true) (hreq : Request size align) (hsmall : align < slabSize)
    {result : Heap × Option (ℕ × ℕ)} (hfind : FindSlab h size (align / unitSize) result) :
    result.1.fd = true ∧ result.2.elim (HeapInv result.1 []) (result.1.Offers size align) := by
  cases hfind with
  | inUse hp hmem => exact ⟨hfd, hinv.take hfd hreq hsmall hp hmem⟩
  | notFound => exact ⟨hfd, hinv⟩
  | @cached p f ctrl hp hmem =>
    have hslab := hinv.cached p hp
    have hone : h.allocations p + 1 = 1 := by
      rw [show h.allocations p = 0 from BitVec.eq_of_toNat_eq hslab.count]
      rfl
    refine ⟨hfd, ?_⟩
    show HeapInv ((Heap.setAllocations _ p (h.allocations p + 1)).hand _) []
    rw [hone]
    exact (hinv.pop hp _).place hfd hreq hsmall hslab.type hslab.inv.clean hmem
  | noRoom hp =>
    refine ⟨(freeSlab_fd _ _).trans hfd, HeapInv.freeSlab ?_⟩
    exact (hinv.pop hp _).writeHeld (fun q hne => update_of_ne hne _ _) fun _ _ => rfl

omit hinv in
lemma reconfigure {held : List ℕ} (hinv : HeapInv h held) (strictNode : Bool) (numHugepages : ℕ)
    (pageTable : ℕ → U64) (stored : List Bool) :
    HeapInv { h with
      strictNode := strictNode, numHugepages := numHugepages, pageTable := pageTable,
      stored := stored } held :=
  { hinv with }

lemma notMem_of_fresh (hfresh : h.Fresh ⟨p, len⟩) (hlen : 0 < len) : p ∉ h.slabs := by
  intro hp
  obtain ⟨m, hm, hwithin⟩ := (hinv.layout.mapped p hp).control_within
  have hcontrol : 0 < ((h.memInfo p).control p).len := by
    unfold DevMemInfo.control
    dsimp only
    split <;> decide
  exact (hfresh.apart p hp m hm).not_has ⟨Nat.le_refl p, Nat.lt_add_of_pos_right hlen⟩ (hwithin.has_start hcontrol)

lemma newUnits (node : ℤ) (htype : type ≠ .large)
    {phys : U64} (hfresh : h.Fresh ⟨p, slabSize⟩) (hphys : slabSize ∣ phys.toNat) :
    HeapInv (addSlabToHash (h.newSlab p ⟨node, slabSize, type, phys, p⟩) p) [p] := by
  refine hinv.addSlab (hinv.notMem_of_fresh hfresh (by decide)) ?_ ?_
  · exact ⟨hfresh.pos, hfresh.page, hfresh.bounded, fun _ => ⟨rfl, rfl, hphys⟩, fun hlarge => absurd hlarge htype⟩
  · intro m hm q hq n hn
    rw [DevMemInfo.mappings, if_neg htype] at hm
    obtain rfl := mem_singleton.mp hm
    exact hfresh.apart q hq n hn

lemma newLarge (node : ℤ) (phys : U64) {virt : ℕ} (hctrl : h.Fresh ⟨p, ctrlPageSize⟩) (hfresh : h.Fresh ⟨virt, len⟩)
    (hapart : Extent.Apart ⟨virt, len⟩ ⟨p, ctrlPageSize⟩) :
    HeapInv (addSlabToHash (h.newSlab p ⟨node, len, .large, phys, virt⟩) p) [p] := by
  refine hinv.addSlab (hinv.notMem_of_fresh hctrl (by decide)) ?_ ?_
  · exact ⟨hctrl.pos, hctrl.page, hfresh.bounded, fun hunits => absurd rfl hunits, fun _ => hapart⟩
  · intro m hm q hq n hn
    rcases mem_cons.mp hm with rfl | hm
    · exact hctrl.apart q hq n hn
    · obtain rfl := mem_singleton.mp hm
      exact hfresh.apart q hq n hn

/-- **A slab that the kernel has mapped** is apart from the others, and the block fits into it. -/
theorem mapped (hpossible : a.Possible h) (hreq : Request size align)
    (hasks : Asks size align type allocatePages) (hmapped : SlabMapped a (allocatePages * unitSize) node type p info) :
    HeapInv (addSlabToHash (h.newSlab p info) p) [p] ∧ info.type = type ∧
      (type = .large → size ≤ info.size ∧ align ∣ info.phyAddr.toNat) := by
  cases hasks with
  | units htype hsmall =>
    cases hmapped with
    | hugePage hmmap hphys =>
      exact ⟨hinv.newUnits node htype (hpossible.hugepage_fresh _ _ hmmap) (hpossible.hugepage_aligned _ _ hmmap), rfl,
        fun hlarge => absurd hlarge htype⟩
    | @small params _ hioctl hmmap =>
      have hsize : params.size = slabSize := (hpossible.memAlloc_size _ _ _ _ hioctl).2 (by decide)
      have hphys := hpossible.memAlloc_aligned _ _ _ _ hioctl 21 (Nat.le_of_eq hsize.symm)
      have hfresh := hpossible.mmap_fresh _ _ _ hmmap
      rw [hsize] at hfresh ⊢
      exact ⟨hinv.newUnits _ htype hfresh hphys, rfl, fun hlarge => absurd hlarge htype⟩
    | large => exact absurd rfl htype
  | large hroute =>
    cases hmapped with
    | large hioctl hctrl hmmap =>
      have hle := (hpossible.memAlloc_size _ _ _ _ hioctl).1
      have hwrap := hreq.noWrap
      have hbound := hreq.bounded
      obtain ⟨-, hround⟩ := divRoundUp_unitSize (Nat.zero_lt_of_lt hroute) (by omega)
      have hapart := hpossible.mmap_apart _ _ _ _ _ hmmap hctrl (by omega)
      refine ⟨hinv.newLarge _ _ (hpossible.mmap_fresh _ _ _ hctrl) (hpossible.mmap_fresh _ _ _ hmmap) hapart, rfl,
        fun _ => ⟨by dsimp only; omega, ?_⟩⟩
      obtain ⟨k, rfl⟩ := hreq.pow
      exact hpossible.memAlloc_aligned _ _ _ _ hioctl k (by omega)

end

end HeapInv

def Served (size align : ℕ) (h : Heap) : Option ℕ → Prop
  | none => HeapInv h []
  | some addr => HeapInv (h.hand ⟨addr, size, align⟩) []

/-- What the first part of an allocation leaves. -/
def Looked (size align : ℕ) (h : Heap) : Lookup → Prop
  | .done r => Served size align h r
  | .ask type allocatePages => HeapInv h [] ∧ h.fd = true ∧ Asks size align type allocatePages

/-- **A new slab serves the request,** or it is given back. -/
theorem HeapInv.allocNew (hinv : HeapInv h []) (hfd : h.fd = true) (hpossible : a.Possible h)
    (hreq : Request size align) (hasks : Asks size align type allocatePages) {result : Heap × Option ℕ}
    (hnew : AllocNew h a size node align type allocatePages result) : Served size align result.1 result.2 := by
  cases hnew with
  | refused strictNode => exact hinv.reconfigure strictNode h.numHugepages h.pageTable h.stored
  | @mapped strictNode numHugepages p info result hmapped huse =>
    obtain ⟨hheld, htype, hlarge⟩ := hinv.mapped hpossible hreq hasks hmapped
    have hstored : HeapInv ((h.addSlab strictNode numHugepages p info).storeSlab a p) [p] :=
      (hheld.reconfigure strictNode numHugepages _ _).writeHeld (fun _ _ => rfl) fun q hne => update_of_ne hne _ _
    have hinfo : ((h.addSlab strictNode numHugepages p info).storeSlab a p).memInfo p = info := by
      show Function.update h.memInfo p info p = info
      exact update_self _ _ _
    have hctrl : ((h.addSlab strictNode numHugepages p info).storeSlab a p).blockCtrl p = ⟨fun _ => 0, fun _ => 0⟩ := by
      show Function.update h.blockCtrl p _ p = _
      exact update_self _ _ _
    cases huse with
    | large hkind =>
      obtain ⟨hsize, halign⟩ := hlarge hkind
      rw [← hinfo] at htype hsize halign
      exact hstored.placeLarge hfd hreq.pos (htype.trans hkind) hsize halign
    | offPage => exact hstored.freeSlab
    | noRoom => exact (hstored.writeHeld (fun q hne => update_of_ne hne _ _) fun _ _ => rfl).freeSlab
    | @units hkind f ctrl hmem =>
      rw [← hinfo] at htype
      have hserved := hstored.place hfd hreq (hasks.small hkind) (fun hlarge => hkind (htype.symm.trans hlarge))
        (hctrl ▸ clean_zero) hmem
      -- the slab counts the block already
      rwa [Heap.setAllocations, Heap.storeSlab, Heap.setAllocations, Heap.setCtrl, update_idem] at hserved

section

variable (hinv : HeapInv h []) (hreq : Request size align)

include hinv hreq

lemma HeapInv.looked (a : Answers) (node : ℤ) :
    Looked size align (allocLookup h a size node align).1 (allocLookup h a size node align).2 := by
  unfold allocLookup
  rcases hopen : Usdm.qaeOpenFd h a with ⟨h₁, _ | _⟩
  · exact (hinv.qaeOpenFd hopen).1
  · obtain ⟨hinv₁, hfd₁⟩ := hinv.qaeOpenFd hopen
    have hopened := hfd₁ rfl
    dsimp only
    split
    · rename_i hroute
      split
      · exact hinv₁
      · refine ⟨hinv₁, hopened, .large ?_⟩
        rw [reserved_eq] at hroute
        unfold divRoundUp slabSize unitSize at hroute
        unfold ctrlPageSize
        omega
    · rename_i hroute
      have hsmall : align < slabSize := Nat.lt_of_not_le fun hle => hroute (Or.inr hle)
      have hfound := hinv₁.findSlab hopened hreq hsmall (findSlab_cases h₁ size node (align / unitSize))
      generalize Usdm.findSlab h₁ size node (align / unitSize) = result at hfound
      obtain ⟨h₂, _ | found⟩ := result
      · refine ⟨hfound.2, hfound.1, .units ?_ hsmall⟩
        split <;> exact SlabType.noConfusion
      · exact hfound.2

lemma HeapInv.ask {h₁ : Heap} (hlookup : allocLookup h a size node align = (h₁, .ask type allocatePages)) :
    HeapInv h₁ [] ∧ h₁.fd = true ∧ Asks size align type allocatePages := by
  have hlooked := hinv.looked hreq a node
  rwa [hlookup] at hlooked

lemma allocAddr_served (hpossible : ∀ h₁ memType allocatePages,
      allocLookup h a size node align = (h₁, .ask memType allocatePages) → a.Possible h₁) :
    Served size align (allocAddr h a size node align).1 (allocAddr h a size node align).2 := by
  unfold allocAddr
  rcases hlookup : allocLookup h a size node align with ⟨h₁, r | ⟨type, allocatePages⟩⟩
  · have hlooked := hinv.looked hreq a node
    rwa [hlookup] at hlooked
  · obtain ⟨hinv₁, hfd, hasks⟩ := hinv.ask hreq hlookup
    exact hinv₁.allocNew hfd (hpossible _ _ _ hlookup) hreq hasks (allocNew_cases _ _ _ _ _ _ _)

end

/-- **Allocating a block keeps the invariant.** -/
theorem HeapInv.qaeMemAllocNUMA (hinv : HeapInv h []) {size align : U64} (hwrap : size.toNat + 1023 < 2 ^ 64)
    (hpossible : ∀ h₁ memType allocatePages,
      allocLookup h a size.toNat node align.toNat = (h₁, .ask memType allocatePages) →
      a.Possible h₁) : HeapInv (qaeMemAllocNUMA h a size node align) [] := by
  unfold Usdm.qaeMemAllocNUMA
  split
  · rename_i haccepted
    have hserved := allocAddr_served hinv (haccepted.1.request hwrap) hpossible
    generalize allocAddr h a size.toNat node align.toNat = result at hserved
    obtain ⟨h₁, _ | addr⟩ := result
    · exact hserved
    · dsimp only
      split
      · exact hserved
      · -- the block is allocated, but the caller does not get it
        exact HeapInv.forget hserved (sublist_cons_self _ _)
  · exact hinv

/-! ## Whole runs -/

/-- Rounding the size up to units does not wrap around. -/
def Event.NoWrap (e : Event) : Prop :=
  match e.call with
  | .alloc size _ _ => size.toNat + 1023 < 2 ^ 64
  | .free _ => True

lemma heapStep_inv {h' : Heap} {e : Event} (hinv : HeapInv h [])
    (hstep : guarded (fun _ e => e.NoWrap) heapStep h e h') : HeapInv h' [] := by
  obtain ⟨hwrap, hpossible, rfl⟩ := hstep
  obtain ⟨call, answers⟩ := e
  cases call with
  | alloc size node align => exact hinv.qaeMemAllocNUMA hwrap hpossible
  | free va =>
    obtain ⟨b, hb, rfl⟩ := hpossible
    exact hinv.qaeMemFreeNUMA hb

/-- **The blocks that the caller holds are disjoint, within their slabs, aligned and apart from all control
areas.** -/
theorem blocks_safe {es : List Event} {h : Heap}
    (hrun : Run (guarded (fun _ e => Event.NoWrap e) heapStep) heapInit es h) : h.Safe := by
  have hinit : HeapInv heapInit [] := HeapInv.of_empty rfl rfl rfl rfl rfl
  have hinv : HeapInv h [] := hrun.invariant (I := fun h => HeapInv h [])
    (fun _ _ _ hinv hstep => heapStep_inv hinv hstep) hinit
  exact hinv.safe

def refusing : Answers where
  lock := true
  unlock := true
  openFd := true
  getNumHpt := some 0
  memAlloc := fun _ _ _ => none
  mmap := fun _ _ => none
  hugepageMmap := fun _ => none
  hugepageVirt2phy := fun _ => 0
  nextLevel := fun _ => true

/-- A kernel that grants a slab of units at `0x200000`, and nothing else. -/
def granting : Answers :=
  { refusing with
    memAlloc := fun size node type =>
      if size = slabSize ∧ type = .small then some ⟨node, slabSize, 0x40000000⟩ else none
    mmap := fun _ len => if len = slabSize then some 0x200000 else none }

lemma refusing_possible (h : Heap) : refusing.Possible h :=
  ⟨fun _ _ _ hsome => (nomatch hsome), fun _ _ _ _ _ hsome => (nomatch hsome), fun _ _ _ _ hsome => (nomatch hsome),
    fun _ _ _ _ hsome => (nomatch hsome),
    fun _ _ hsome => (nomatch hsome),
    fun _ _ hsome => (nomatch hsome)⟩

/-- What is to be shown of a kernel without huge pages that grants memory of one size, where it is aligned, to a
process that has no slabs. -/
lemma possible_of_one (hslabs : h.slabs = []) (j : ℕ)
    (hphy : 2 ^ j ∣ phy.toNat) (hhuge : a.hugepageMmap = fun _ => none)
    (hmem : a.memAlloc = fun size node t => if size = 2 ^ j ∧ t = type then some ⟨node, 2 ^ j, phy⟩ else none)
    (hmmap : ∀ phy len v, a.mmap phy len = some v → 0 < v ∧ v % ctrlPageSize = 0 ∧ v + len ≤ 2 ^ 64)
    (hapart : ∀ phy len len' v v', a.mmap phy len = some v → a.mmap phy len' = some v' → len ≠ len' →
      Extent.Apart ⟨v, len⟩ ⟨v', len'⟩) : a.Possible h := by
  have hgrant : ∀ size node type params, a.memAlloc size node type = some params →
      size = 2 ^ j ∧ params = ⟨node, 2 ^ j, phy⟩ := by
    intro size node type params hsome
    rw [hmem] at hsome
    obtain ⟨hcond, heq⟩ := Option.ite_none_right_eq_some.mp hsome
    exact ⟨hcond.1, (Option.some.inj heq).symm⟩
  refine ⟨?_, hapart, ?_, ?_, by simp [hhuge], by simp [hhuge]⟩
  · intro phy len v hsome
    obtain ⟨hpos, hpage, hbounded⟩ := hmmap phy len v hsome
    exact ⟨hpos, hpage, hbounded, fun _ hp => absurd (hslabs ▸ hp) not_mem_nil⟩
  · intro size node type params hsome
    obtain ⟨rfl, rfl⟩ := hgrant size node type params hsome
    exact ⟨Nat.le_refl _, fun _ => rfl⟩
  · intro size node type params hsome k hk
    obtain ⟨-, rfl⟩ := hgrant size node type params hsome
    have hle : k ≤ j := (Nat.pow_le_pow_iff_right (show 1 < 2 by decide)).mp hk
    exact Nat.dvd_trans (Nat.pow_dvd_pow 2 hle) hphy

lemma granting_mmap {v : ℕ} (h : granting.mmap phy len = some v) : len = slabSize ∧ v = 0x200000 := by
  obtain ⟨hlen, heq⟩ := Option.ite_none_right_eq_some.mp h
  exact ⟨hlen, (Option.some.inj heq).symm⟩

lemma granting_possible (hslabs : h.slabs = []) : granting.Possible h := by
  refine possible_of_one hslabs 21 (by decide) rfl rfl ?_ ?_
  · intro phy len v hsome
    obtain ⟨rfl, rfl⟩ := granting_mmap hsome
    decide
  · intro phy len len' v v' hsome hsome' hne
    exact absurd ((granting_mmap hsome).1.trans (granting_mmap hsome').1.symm) hne

lemma alloc_possible {size align : U64} {node : ℤ} (hgrant : ∀ h' : Heap, h'.slabs = [] → a.Possible h')
    (hslabs : (allocLookup h a size.toNat node align.toNat).1.slabs = []) :
    Event.Possible ⟨.alloc size node align, a⟩ h := by
  intro h' memType allocatePages hlookup
  rw [hlookup] at hslabs
  exact hgrant h' hslabs

/-- Two blocks are allocated, the second one in the same slab, and the first one is freed. -/
theorem two_blocks_safe : ∃ h, Run (guarded (fun _ e => Event.NoWrap e) heapStep) heapInit
        [⟨.alloc 1000 0 64, granting⟩, ⟨.alloc 3000 0 4096, refusing⟩, ⟨.free 0x201400, refusing⟩] h ∧
      h.live = [⟨0x202000, 3000, 4096⟩] ∧ h.Safe := by
  apply Run.exists_and
  · exact .cons ⟨show 1000 + 1023 < 2 ^ 64 by decide,
        alloc_possible (fun _ => granting_possible) (by decide +kernel), rfl⟩ <|
      .cons ⟨show 3000 + 1023 < 2 ^ 64 by decide, fun _ _ _ _ => refusing_possible _, rfl⟩ <|
      .single ⟨trivial, ⟨⟨0x201400, 1000, 64⟩, by decide +kernel, rfl⟩, rfl⟩
  · exact fun hrun => ⟨by decide +kernel, blocks_safe hrun⟩

/-- **For a size of `2 ^ 64 - 1` the caller gets the control block of the slab.** -/
theorem wrapped_size_gives_control_area : ∃ h, Run heapStep heapInit [⟨.alloc 0xFFFFFFFFFFFFFFFF 0 64, granting⟩] h ∧
      h.live = [⟨0x200000, 0xFFFFFFFFFFFFFFFF, 64⟩] ∧ h.slabs = [0x200000] ∧ ¬ h.Safe := by
  refine ⟨_, Run.single ⟨alloc_possible (fun _ => granting_possible) (by decide +kernel), rfl⟩,
    by decide +kernel, by decide +kernel, ?_⟩
  intro hsafe
  have hcontrol := hsafe.control ⟨0x200000, 0xFFFFFFFFFFFFFFFF, 64⟩ (by decide +kernel) 0x200000 (by decide +kernel)
  revert hcontrol
  decide +kernel

end QuickAssist.Usdm
