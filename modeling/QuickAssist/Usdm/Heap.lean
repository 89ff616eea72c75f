import QuickAssist.Lib.Extent
import QuickAssist.Usdm.Slab

/-!
# The heap of the user-space allocator

`qaeMemAllocNUMA` serves a request of up to 2 MB from a slab of units and a larger one with a slab of its own. Slabs
come from the kernel, through the driver or as huge pages, and are named by the address of their control information. A
slab of units is in the list of slabs in use or, when its last block has been freed, in the cache; a large one is in
the list of large slabs. All of them are in a hash, by a key that the page table keeps for every page. In the source
the lists are linked through the slabs.

**What the outside decides** is in `Answers`, one record for each call: whether the mutex can be locked, whether the
file can be opened, and what the kernel answers to each request for memory. What it grants is described by
`Answers.Possible`: the extents that it maps are new, apart from each other and from those of every slab there is.

**What the caller holds** is in `live`. In the same way `granted` has the slabs that were obtained from the kernel and
not given back, and `stored` the kind of the pages whenever some were put into the page table. The functions of the
source never read them.
-/

namespace QuickAssist.Usdm

open Lib Function

/-! ## The state -/

/-- The kinds of slabs. Source: `enum slabType`. -/
inductive SlabType
  | small
  | large
  | hugePage
  deriving DecidableEq

/-- What is known about a slab from its allocation on. Source: `dev_mem_info_t`. -/
structure DevMemInfo where
  nodeId : ℤ
  size : ℕ
  type : SlabType
  phyAddr : U64
  virtAddr : ℕ

structure Block where
  addr : ℕ
  size : ℕ
  align : ℕ
  deriving DecidableEq

structure Heap where
  fd : Bool
  hugepagesEnabled : Bool
  numHugepages : ℕ
  /-- `load_key_fptr` is the walker for huge pages. -/
  loadKeyHpg : Bool
  strictNode : Bool
  cacheSize : U64
  memInfo : ℕ → DevMemInfo
  allocations : ℕ → U32
  blockCtrl : ℕ → BlockCtrl
  /-- The slabs of units in use. Source: `pUserMemListHead`. -/
  userMemList : List ℕ
  /-- The slabs of units that are kept for later. Source: `pUserCacheHead`. -/
  userCache : List ℕ
  userLargeMemList : List ℕ
  slabList : U64 → List ℕ
  /-- What the page table has for each page. Source: `g_page_table`. -/
  pageTable : ℕ → U64
  live : List Block
  /-- The pages for which entries have been stored since the table was emptied, huge ones or not. -/
  stored : List Bool
  granted : List ℕ

structure Granted where
  nodeId : ℤ
  size : ℕ
  phyAddr : U64

structure Answers where
  lock : Bool
  unlock : Bool
  openFd : Bool
  /-- The number of huge pages, from `DEV_MEM_IOC_GET_NUM_HPT`. -/
  getNumHpt : Option ℕ
  /-- `DEV_MEM_IOC_MEMALLOC`, for a size, a node and a kind. -/
  memAlloc : ℕ → ℤ → SlabType → Option Granted
  /-- `mmap` of the driver's file at a physical address, for a length, and `madvise`. -/
  mmap : U64 → ℕ → Option ℕ
  /-- `mmap` of a huge page for a length, and `madvise`. -/
  hugepageMmap : ℕ → Option ℕ
  /-- The physical address of a huge page. Source: `hugepage_virt2phy`. -/
  hugepageVirt2phy : ℕ → U64
  /-- The levels of the page table that lead to an address are there, or can be made. -/
  nextLevel : ℕ → Bool

/-! ## The page table and the hash -/

def getKey (phys : U64) : U64 := (phys >>> 20) &&& 0xFFF

def pageSize (hpEn : Bool) : ℕ := if hpEn then 0x200000 else 0x1000

/-- Which entry of the table an address has, by the bits of the address that the levels use.
Source: `page_index_t`. -/
def pageIndex (hpEn : Bool) (virt : ℕ) : ℕ := if hpEn then virt / 0x200000 % 2 ^ 36 else virt / 0x1000 % 2 ^ 45

/-- Store the entries of some pages. Source: the loop of `store_mmap_range`. -/
def storeLoop (hpEn : Bool) (nextLevel : ℕ → Bool) (virt : ℕ) (phys : U64) :
    ℕ → ℕ → (ℕ → U64) → ℕ → U64
  | 0, _, table => table
  | pages + 1, offset, table =>
    storeLoop hpEn nextLevel virt phys pages (offset + pageSize hpEn)
      (if nextLevel (virt + offset) then
        update table (pageIndex hpEn (virt + offset)) (phys + BitVec.ofNat 64 offset)
      else table)

def storeMmapRange (h : Heap) (a : Answers) (virt : ℕ) (phys : U64) (size : ℕ) : Heap :=
  let hpEn := h.hugepagesEnabled
  let phys := (phys &&& ~~~ BitVec.ofNat 64 (pageSize hpEn - 1)) ||| getKey phys
  { h with
    pageTable := storeLoop hpEn a.nextLevel virt phys ((size + pageSize hpEn - 1) / pageSize hpEn) 0 h.pageTable
    stored := hpEn :: h.stored }

/-- The key of an address. Source: `load_key`, `load_key_hpg`. -/
def loadKey (h : Heap) (virt : ℕ) : U64 := h.pageTable (pageIndex h.loadKeyHpg virt) &&& 0xFFF

def addSlabToHash (h : Heap) (p : ℕ) : Heap :=
  let key := getKey (h.memInfo p).phyAddr
  { h with slabList := update h.slabList key (p :: h.slabList key) }

def delSlabFromHash (h : Heap) (p : ℕ) : Heap :=
  let key := getKey (h.memInfo p).phyAddr
  { h with slabList := update h.slabList key ((h.slabList key).erase p) }

/-- The slab that an address lies in; the difference wraps around. -/
def findSlabInHash (h : Heap) (virtAddr : ℕ) : Option ℕ :=
  (h.slabList (loadKey h virtAddr)).find? fun p =>
    (virtAddr + 2 ^ 64 - (h.memInfo p).virtAddr) % 2 ^ 64 < (h.memInfo p).size

/-! ## Slabs -/

def maxCache : U64 := 0x800000

def maxLookupNum : ℕ := 10

def Heap.setCtrl (h : Heap) (p : ℕ) (ctrl : BlockCtrl) : Heap := { h with blockCtrl := update h.blockCtrl p ctrl }

def Heap.setAllocations (h : Heap) (p : ℕ) (n : U32) : Heap := { h with allocations := update h.allocations p n }

def userMemLookupBySize (h : Heap) (size : ℕ) (node : ℤ) (align : ℕ) : ℕ → List ℕ → Option (ℕ × ℕ × BlockCtrl)
  | _, [] => none
  | linkNum, p :: rest =>
    if h.strictNode ∧ (h.memInfo p).nodeId ≠ node then
      userMemLookupBySize h size node align linkNum rest
    else
      match memAlloc (h.blockCtrl p) size align with
      | some (firstBlock, ctrl) => some (p, firstBlock, ctrl)
      | none =>
        if maxLookupNum ≤ linkNum + 1 then none
        else userMemLookupBySize h size node align (linkNum + 1) rest

def initSlabAndAlloc (h : Heap) (p size physAlignUnit : ℕ) : Heap × Option ℕ :=
  let ctrl := initSlab (h.blockCtrl p) (h.memInfo p).size
  match memAlloc ctrl size physAlignUnit with
  | none => (h.setCtrl p ctrl, none)
  | some (firstBlock, ctrl) =>
    ({ h.setCtrl p ctrl with userMemList := p :: h.userMemList }, some (p + firstBlock * unitSize))

def pushSlab (h : Heap) (p : ℕ) : Option Heap :=
  let size := BitVec.ofNat 64 (h.memInfo p).size
  if h.cacheSize + size ≤ maxCache then
    some { h with cacheSize := h.cacheSize + size, userCache := p :: h.userCache }
  else none

def popSlab (h : Heap) (node : ℤ) : Option (ℕ × Heap) :=
  (h.userCache.find? fun p => node = -1 ∨ ¬ (h.strictNode ∧ node ≠ (h.memInfo p).nodeId)).map fun p =>
    (p, { h with cacheSize := h.cacheSize - BitVec.ofNat 64 (h.memInfo p).size, userCache := h.userCache.erase p })

/-- Give a slab back to the kernel. Source: `free_slab`, `hugepage_free_slab`. -/
def freeSlab (h : Heap) (p : ℕ) : Heap :=
  let h := { delSlabFromHash h p with granted := h.granted.erase p }
  if (h.memInfo p).type = .hugePage then { h with numHugepages := h.numHugepages + 1 } else h

def findSlab (h : Heap) (size : ℕ) (node : ℤ) (align : ℕ) : Heap × Option (ℕ × ℕ) :=
  match userMemLookupBySize h size node align 0 h.userMemList with
  | some (p, firstBlock, ctrl) => (h.setCtrl p ctrl, some (p, p + firstBlock * unitSize))
  | none =>
    match popSlab h node with
    | none => (h, none)
    | some (p, h) =>
      match initSlabAndAlloc h p size align with
      | (h, some addr) => (h, some (p, addr))
      | (h, none) => (freeSlab h p, none)

/-! ## Opening the file -/

def initHugepages (h : Heap) (a : Answers) : Heap × Bool :=
  let numHugepages := a.getNumHpt.getD 0
  ({ h with
      numHugepages := numHugepages
      loadKeyHpg := h.loadKeyHpg || decide (0 < numHugepages)
      hugepagesEnabled := decide (0 < numHugepages) }, a.getNumHpt.isSome)

/-- Open the file if it is not open; whether that worked. A process sees a new process identifier at
its first call only, and then the file is not open. -/
def qaeOpenFd (h : Heap) (a : Answers) : Heap × Bool :=
  if h.fd then (h, true)
  else
    let h := { h with
      pageTable := fun _ => 0
      stored := []
      slabList := fun _ => []
      cacheSize := 0
      userCache := []
      userMemList := []
      userLargeMemList := [] }
    if a.openFd then initHugepages { h with fd := true } a else (h, false)

/-! ## New slabs -/

def Heap.newSlab (h : Heap) (p : ℕ) (info : DevMemInfo) : Heap :=
  { h with
    memInfo := update h.memInfo p info
    allocations := update h.allocations p 0
    blockCtrl := update h.blockCtrl p ⟨fun _ => 0, fun _ => 0⟩
    granted := p :: h.granted }

/-- The length of the mapping of the control information of a large slab. Source: `getpagesize`. -/
def ctrlPageSize : ℕ := 4096

def ioctlAllocSlab (h : Heap) (a : Answers) (size : ℕ) (node : ℤ) (type : SlabType) : Heap × Option ℕ :=
  match a.memAlloc size node type with
  | none => (h, none)
  | some params =>
    let h := if node ≠ params.nodeId then { h with strictNode := false } else h
    if type = .small then
      match a.mmap params.phyAddr params.size with
      | none => (h, none)
      | some slab => (h.newSlab slab ⟨params.nodeId, params.size, type, params.phyAddr, slab⟩, some slab)
    else
      match a.mmap params.phyAddr ctrlPageSize with
      | none => (h, none)
      | some slab =>
        match a.mmap params.phyAddr params.size with
        | none => (h, none)
        | some virtAddr => (h.newSlab slab ⟨params.nodeId, params.size, type, params.phyAddr, virtAddr⟩, some slab)

def hugepageAllocSlab (h : Heap) (a : Answers) (size : ℕ) (node : ℤ) (type : SlabType) : Heap × Option ℕ :=
  if h.numHugepages = 0 then (h, none)
  else
    match a.hugepageMmap size with
    | none => (h, none)
    | some slab =>
      let phyAddr := a.hugepageVirt2phy slab
      if phyAddr = 0 then (h, none)
      else
        ({ h.newSlab slab ⟨node, size, type, phyAddr, slab⟩ with
            numHugepages := h.numHugepages - 1 }, some slab)

def allocSlab (h : Heap) (a : Answers) (size : ℕ) (node : ℤ) (type : SlabType) : Heap × Option ℕ :=
  match if type = .hugePage then hugepageAllocSlab h a size node type
    else ioctlAllocSlab h a size node type with
  | (h, none) => (h, none)
  | (h, some p) => (addSlabToHash h p, some p)

/-! ## Allocating and freeing -/

/-- What the first part of `alloc_addr` comes to. -/
inductive Lookup
  | done (addr : Option ℕ)
  | ask (memType : SlabType) (allocatePages : ℕ)

/-- The part of `alloc_addr` that comes before `alloc_slab`. -/
def allocLookup (h : Heap) (a : Answers) (size : ℕ) (node : ℤ) (physAlignmentByte : ℕ) : Heap × Lookup :=
  let physAlignUnit := physAlignmentByte / unitSize
  let requestedPages := divRoundUp size unitSize + reserved
  match qaeOpenFd h a with
  | (h, false) => (h, .done none)
  | (h, true) =>
    if slabSize / unitSize < requestedPages ∨ slabSize ≤ physAlignmentByte then
      if h.hugepagesEnabled then (h, .done none)
      else (h, .ask .large (divRoundUp (max size physAlignmentByte) unitSize))
    else
      match findSlab h size node physAlignUnit with
      | (h, some (p, addr)) => (h.setAllocations p (h.allocations p + 1), .done (some addr))
      | (h, none) => (h, .ask (if h.hugepagesEnabled then .hugePage else .small) (slabSize / unitSize))

/-- The part of `alloc_addr` from `alloc_slab` on. -/
def allocNew (h : Heap) (a : Answers) (size : ℕ) (node : ℤ) (physAlignmentByte : ℕ)
    (memType : SlabType) (allocatePages : ℕ) : Heap × Option ℕ :=
  match allocSlab h a (allocatePages * unitSize) node memType with
  | (h, none) => (h, none)
  | (h, some p) =>
    let info := h.memInfo p
    let h := storeMmapRange h a info.virtAddr info.phyAddr info.size
    let h := h.setAllocations p 1
    if memType = .large then
      ({ h with userLargeMemList := p :: h.userLargeMemList }, some info.virtAddr)
    else if info.virtAddr % ctrlPageSize ≠ 0 then (freeSlab h p, none)
    else
      match initSlabAndAlloc h p size (physAlignmentByte / unitSize) with
      | (h, none) => (freeSlab h p, none)
      | (h, some addr) => (h, some addr)

def allocAddr (h : Heap) (a : Answers) (size : ℕ) (node : ℤ) (physAlignmentByte : ℕ) : Heap × Option ℕ :=
  match allocLookup h a size node physAlignmentByte with
  | (h, .done addr) => (h, addr)
  | (h, .ask memType allocatePages) => allocNew h a size node physAlignmentByte memType allocatePages

/-- The arguments pass the checks of `qaeMemAllocNUMA`. -/
def Accepted (size physAlignmentByte : U64) : Prop :=
  size ≠ 0 ∧ physAlignmentByte ≠ 0 ∧ physAlignmentByte ≤ 0x400000 ∧ physAlignmentByte &&& (physAlignmentByte - 1) = 0
  deriving Decidable

def Heap.hand (h : Heap) (b : Block) : Heap := { h with live := b :: h.live }

/-- A pointer to a block is set to `NULL`. -/
def Heap.forget (h : Heap) (addr : ℕ) : Heap := { h with live := h.live.eraseP fun b => b.addr = addr }

def qaeMemAllocNUMA (h : Heap) (a : Answers) (size : U64) (node : ℤ) (physAlignmentByte : U64) : Heap :=
  if Accepted size physAlignmentByte ∧ a.lock then
    match allocAddr h a size.toNat node physAlignmentByte.toNat with
    | (h, none) => h
    | (h, some addr) => if a.unlock then h.hand ⟨addr, size.toNat, physAlignmentByte.toNat⟩ else h
  else h

/-- Free a block; whether the pointer to it is set to `NULL`. -/
def freeAddr (h : Heap) (a : Answers) (va : ℕ) : Heap × Bool :=
  match qaeOpenFd h a with
  | (h, false) => (h, false)
  | (h, true) =>
    match findSlabInHash h va with
    | none => (h, false)
    | some p =>
      if (h.memInfo p).type = .large then
        (freeSlab { h with userLargeMemList := h.userLargeMemList.erase p } p, true)
      else
        let h := h.setCtrl p (memFree (h.blockCtrl p) p va)
        let h := h.setAllocations p (h.allocations p - 1)
        if h.allocations p ≠ 0 then (h, true)
        else
          let h := { h with userMemList := h.userMemList.erase p }
          ((pushSlab h p).getD (freeSlab h p), true)

/-- Free a block of the caller. If the mutex cannot be locked the pointer to the block is set to
`NULL` and the block is lost. -/
def qaeMemFreeNUMA (h : Heap) (a : Answers) (va : ℕ) : Heap :=
  if a.lock then
    match freeAddr h a va with
    | (h, true) => h.forget va
    | (h, false) => h
  else h.forget va

/-! ## Runs -/

inductive Call
  /-- `qaeMemAllocNUMA(size, node, phys_alignment_byte)`. -/
  | alloc (size : U64) (node : ℤ) (physAlignmentByte : U64)
  | free (va : ℕ)

structure Event where
  call : Call
  answers : Answers

def Heap.slabs (h : Heap) : List ℕ := h.userMemList ++ h.userCache ++ h.userLargeMemList

/-- The extents that are mapped for a slab: a large one has its control information in another
mapping. -/
def DevMemInfo.mappings (info : DevMemInfo) (p : ℕ) : List Extent :=
  if info.type = .large then [⟨p, ctrlPageSize⟩, ⟨info.virtAddr, info.size⟩]
  else [⟨info.virtAddr, info.size⟩]

structure Heap.Fresh (h : Heap) (e : Extent) : Prop where
  pos : 0 < e.start
  page : e.start % ctrlPageSize = 0
  bounded : e.start + e.len ≤ 2 ^ 64
  apart : ∀ p ∈ h.slabs, ∀ m ∈ (h.memInfo p).mappings p, e.Apart m

structure Answers.Possible (a : Answers) (h : Heap) : Prop where
  mmap_fresh : ∀ phy len v, a.mmap phy len = some v → h.Fresh ⟨v, len⟩
  mmap_apart : ∀ phy len len' v v', a.mmap phy len = some v → a.mmap phy len' = some v' →
    len ≠ len' → Extent.Apart ⟨v, len⟩ ⟨v', len'⟩
  /-- The memory that the driver allocates has the size that was asked for, up to a page. -/
  memAlloc_size : ∀ size node type params, a.memAlloc size node type = some params →
    size ≤ params.size ∧ (size % ctrlPageSize = 0 → params.size = size)
  memAlloc_aligned : ∀ size node type params, a.memAlloc size node type = some params →
    ∀ k, 2 ^ k ≤ params.size → 2 ^ k ∣ params.phyAddr.toNat
  hugepage_fresh : ∀ len v, a.hugepageMmap len = some v → h.Fresh ⟨v, len⟩
  hugepage_aligned : ∀ len v, a.hugepageMmap len = some v → slabSize ∣ (a.hugepageVirt2phy v).toNat

/-- Only blocks that the caller holds are freed, and what the kernel grants is possible when it is
asked. -/
def Event.Possible (e : Event) (h : Heap) : Prop :=
  match e.call with
  | .alloc size node align =>
    ∀ h' memType allocatePages,
      allocLookup h e.answers size.toNat node align.toNat = (h', .ask memType allocatePages) →
      e.answers.Possible h'
  | .free va => ∃ b ∈ h.live, b.addr = va

def heapCall (h : Heap) (e : Event) : Heap :=
  match e.call with
  | .alloc size node align => qaeMemAllocNUMA h e.answers size node align
  | .free va => qaeMemFreeNUMA h e.answers va

def heapStep (h : Heap) (e : Event) (h' : Heap) : Prop := e.Possible h ∧ h' = heapCall h e

def heapInit : Heap where
  fd := false
  hugepagesEnabled := false
  numHugepages := 0
  loadKeyHpg := false
  strictNode := true
  cacheSize := 0
  memInfo := fun _ => ⟨0, 0, .small, 0, 0⟩
  allocations := fun _ => 0
  blockCtrl := fun _ => ⟨fun _ => 0, fun _ => 0⟩
  userMemList := []
  userCache := []
  userLargeMemList := []
  slabList := fun _ => []
  pageTable := fun _ => 0
  live := []
  stored := []
  granted := []

end QuickAssist.Usdm
