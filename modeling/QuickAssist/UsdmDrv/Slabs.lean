import Mathlib.Algebra.Group.Nat.Defs
import QuickAssist.Lib.Links
import QuickAssist.Lib.Words

/-!
# The slabs of the USDM kernel driver

A process opens the device and asks for slabs with an `ioctl`; it maps a slab by its physical address and frees it by
its physical address. For each slab the driver keeps a `kdev_mem_info_t`, which is in two doubly linked lists: in the
list of the file the slab was allocated through, and in the chain of a hash table that all files share. The lists of
the open files are in a third one. The links are the fields of `Lib.Links`, one pair of functions for each pair of
fields of the source.

What the kernel's allocators answer comes with the event, and so does which of the copies from and to user memory
fail. Which `kdev_mem_info_t` objects are allocated, which file each slab was allocated through, and who has freed or
mapped what is not in the driver.
-/

namespace QuickAssist.UsdmDrv

open Lib Function

/-! ## The state -/

/-- `kdev_mem_info_t`, without the links -/
structure KMem where
  kmallocPtr : U64
  hugeMemCtrl : U64
  size : U64
  phyAddr : U64

/-- `user_proc_mem_list_t`, without the links -/
structure ProcMemList where
  allocsNr : U64
  hugepagesNr : U64
  slabs : Ends ℕ

structure Access where
  file : ℕ
  allocatedBy : ℕ

/-- The state of the driver. Slabs are named by the address of their `kdev_mem_info_t`, and files by
a number. -/
structure Usdm where
  kmem : ℕ → KMem
  /-- `pPrev_kernel` and `pNext_kernel` -/
  kernelLinks : Links ℕ
  /-- `pPrev_kernel_hash` and `pNext_kernel_hash` -/
  hashLinks : Links ℕ
  slabList : U64 → Ends ℕ
  privateData : ℕ → Option ProcMemList
  /-- `pPrev` and `pNext` of the lists of the files -/
  procLinks : Links ℕ
  memDevNuma : Ends ℕ
  memAllocated : U64
  maxHugePages : U32
  live : List ℕ
  allocatedBy : ℕ → ℕ
  accesses : List Access

structure Params where
  maxMemNuma : U32
  maxHugePagesPerProcess : U32

def usdmInit (maxHugePages : U32) : Usdm where
  kmem := fun _ => ⟨0, 0, 0, 0⟩
  kernelLinks := ⟨fun _ => none, fun _ => none⟩
  hashLinks := ⟨fun _ => none, fun _ => none⟩
  slabList := fun _ => ⟨none, none⟩
  privateData := fun _ => none
  procLinks := ⟨fun _ => none, fun _ => none⟩
  memDevNuma := ⟨none, none⟩
  memAllocated := 0
  maxHugePages := maxHugePages
  live := []
  allocatedBy := fun _ => 0
  accesses := []

/-! ## Allocating -/

def pageSize : U64 := 4096

def large : U32 := 1

def getKey (phys : U64) : U64 := phys >>> 20 &&& 0xFFF

def remappingSize (size : U64) : U64 := (size + pageSize - 1) &&& ~~~ (pageSize - 1)

def isPageAligned (x : U64) : Bool := (x + pageSize - 1) &&& ~~~ (pageSize - 1) = x

/-- Source: `DIV_ROUND_UP`, for kilobytes. -/
def inKBytes (x : U64) : U64 := (x + 1023) / 1024

/-- What the kernel answers during an allocation; a null pointer is zero or `none`. -/
structure KernelAnswers where
  ctrlPage : U64
  kmem : Option ℕ
  slab : U64
  phys : U64
  /-- `icp_iommu_map` fails. -/
  mapFails : Bool

/-- The kernel hands out memory that is not in use: the `kdev_mem_info_t` is no other one, and no
other slab has the same physical address. -/
def KernelAnswers.Fresh (s : Usdm) (k : KernelAnswers) : Prop :=
  (∀ p ∈ k.kmem, p ∉ s.live ∧ 0 < p ∧ p < 2 ^ 64) ∧ ∀ q ∈ s.live, (s.kmem q).phyAddr ≠ k.phys
  deriving Decidable

/-- The slab is put in the list of the file and in the hash.
Source: the end of `userMemAlloc`, with `add_slab_to_hash`. -/
def addSlab (s : Usdm) (fp : ℕ) (list : ProcMemList) (p : ℕ) (kmem : KMem) : Usdm :=
  let (kernelLinks, slabs) := s.kernelLinks.addEnd list.slabs p
  let key := getKey kmem.phyAddr
  let (hashLinks, chain) := s.hashLinks.addHead (s.slabList key) p
  let list' : ProcMemList := ⟨list.allocsNr + 1, list.hugepagesNr, slabs⟩
  { s with
    kmem := update s.kmem p kmem
    kernelLinks
    hashLinks
    slabList := update s.slabList key chain
    privateData := update s.privateData fp (some list')
    live := p :: s.live
    allocatedBy := update s.allocatedBy p fp }

/-- The slab is mapped for the device and added, or given back.
Source: `userMemAlloc` from the call of `icp_iommu_map` on. -/
def mapSlab (s : Usdm) (fp : ℕ) (list : ProcMemList) (p : ℕ) (kmem : KMem) (type : U32)
    (mapFails : Bool) : Usdm × Bool :=
  if mapFails then
    let memAllocated := if type = large then s.memAllocated - pageSize else s.memAllocated
    ({ s with memAllocated := memAllocated - kmem.size }, false)
  else (addSlab s fp list p kmem, true)

/-- Source: `userMemAlloc`. Every type but zero is handled as a large slab. The result says whether
a slab was allocated. -/
def userMemAlloc (cfg : Params) (s : Usdm) (fp : ℕ) (size : U64) (largeMemory : U32)
    (k : KernelAnswers) : Usdm × Bool :=
  if size = 0 then (s, false)
  else
    match s.privateData fp with
    | none => (s, false)
    | some list =>
      let size := remappingSize size
      let totalInKBytes := inKBytes (s.memAllocated + size)
      let maxMemNuma := cfg.maxMemNuma.setWidth 64
      if largeMemory ≠ 0 then
        if maxMemNuma ≠ 0 ∧ maxMemNuma < totalInKBytes + pageSize / 1024 then (s, false)
        else if k.ctrlPage = 0 then (s, false)
        else
          match k.kmem with
          | none => (s, false)
          | some p =>
            if k.slab = 0 ∨ ¬ isPageAligned k.slab then (s, false)
            else
              mapSlab { s with memAllocated := s.memAllocated + (size + pageSize) } fp list p
                ⟨k.slab, k.ctrlPage, size, k.phys⟩ largeMemory k.mapFails
      else if maxMemNuma ≠ 0 ∧ maxMemNuma < totalInKBytes then (s, false)
      else if k.slab = 0 ∨ ¬ isPageAligned k.slab then (s, false)
      else
        match k.kmem with
        | none => (s, false)
        | some p =>
          mapSlab { s with memAllocated := s.memAllocated + size } fp list p
            ⟨k.slab, 0, size, k.phys⟩ largeMemory k.mapFails

/-! ## Freeing -/

/-- Source: `find_slab`. The chain is followed for at most as many slabs as there are; the outer
`none` says that it goes on. -/
def findSlab (s : Usdm) (phyAddr : U64) : Option (Option ℕ) :=
  search s.hashLinks.next (fun p => (s.kmem p).phyAddr = phyAddr) s.live.length (s.slabList (getKey phyAddr)).head

/-- The slab is taken out of the list it is given, which need not be the one it is in, and out of
the hash.
Source: `free_slab`, with `del_slab_from_hash`. -/
def freeSlab (s : Usdm) (fp : ℕ) (list : ProcMemList) (p : ℕ) : Usdm :=
  let kmem := s.kmem p
  let (kernelLinks, slabs) := s.kernelLinks.remove list.slabs p
  let key := getKey kmem.phyAddr
  let (hashLinks, chain) := s.hashLinks.remove (s.slabList key) p
  let memAllocated := if kmem.hugeMemCtrl ≠ 0 then s.memAllocated - pageSize else s.memAllocated
  let list' : ProcMemList := ⟨list.allocsNr - 1, list.hugepagesNr, slabs⟩
  { s with
    kernelLinks
    hashLinks
    slabList := update s.slabList key chain
    privateData := update s.privateData fp (some list')
    memAllocated := memAllocated - kmem.size
    live := s.live.erase p
    accesses := ⟨fp, s.allocatedBy p⟩ :: s.accesses }

/-- Source: `userMemFree`. The result says whether zero is returned. -/
def userMemFree (s : Usdm) (fp : ℕ) (id : U64) : Option (Usdm × Bool) :=
  match s.privateData fp with
  | none => some (s, false)
  | some list =>
    (findSlab s id).map fun
      | some p => (freeSlab s fp list p, true)
      | none => (s, false)

/-- The loop of `userMemFreeSlabs`, from a slab on. The first argument bounds the number of
rounds. -/
def freeSlabsLoop (fp : ℕ) : ℕ → Usdm → Option ℕ → Option Usdm
  | _, s, none => some s
  | 0, _, some _ => none
  | n + 1, s, some p =>
    (s.privateData fp).bind fun list => freeSlabsLoop fp n (freeSlab s fp list p) (s.kernelLinks.next p)

def userMemFreeSlabs (s : Usdm) (fp : ℕ) : Option (Usdm × Bool) :=
  match s.privateData fp with
  | none => some (s, false)
  | some list =>
    let s' := { s with
      maxHugePages := s.maxHugePages + list.hugepagesNr.setWidth 32
      privateData := update s.privateData fp (some { list with hugepagesNr := 0 }) }
    (freeSlabsLoop fp s.live.length s' list.slabs.head).map fun s' => (s', true)

/-! ## The entry points -/

/-- What a process passes to an allocation, of its `dev_mem_info_t`. -/
structure UserMemInfo where
  size : U64
  type : U32
  phyAddr : U64

/-- Source: `dev_mem_alloc`. If the answer cannot be copied to the process, the slab at the address
that the process passed is freed. -/
def devMemAlloc (cfg : Params) (s : Usdm) (fp : ℕ) (arg : UserMemInfo) (copyFrom : Bool)
    (k : KernelAnswers) (copyTo : Bool) : Option (Usdm × Bool) :=
  if (s.privateData fp).isNone then some (s, false)
  else if !copyFrom then some (s, false)
  else
    let (s', ok) := userMemAlloc cfg s fp arg.size arg.type k
    if !ok then some (s', false)
    else if !copyTo then (userMemFree s' fp arg.phyAddr).map fun (s', _) => (s', false)
    else some (s', true)

def devMemFree (s : Usdm) (fp : ℕ) (phyAddr : U64) (copyFrom : Bool) : Option (Usdm × Bool) :=
  if (s.privateData fp).isNone then some (s, false)
  else if !copyFrom then some (s, false)
  else userMemFree s fp phyAddr

def devReleasePid (s : Usdm) (fp : ℕ) : Option (Usdm × Bool) := userMemFreeSlabs s fp

def devNumHpGet (cfg : Params) (s : Usdm) (fp : ℕ) (copyTo : Bool) : Option (Usdm × Bool) :=
  match s.privateData fp with
  | none => some (s, false)
  | some list =>
    let actualNumHugepages :=
      if s.maxHugePages < cfg.maxHugePagesPerProcess then s.maxHugePages
      else cfg.maxHugePagesPerProcess
    if !copyTo then some (s, false)
    else
      some ({ s with
        maxHugePages := s.maxHugePages - actualNumHugepages
        privateData := update s.privateData fp
          (some { list with hugepagesNr := actualNumHugepages.setWidth 64 }) }, true)

def userMemGetInfo (s : Usdm) (fp : ℕ) (id : U64) : Option (Option ℕ) :=
  match s.privateData fp with
  | none => some none
  | some _ => findSlab s id

/-- Source: `mem_mmap`. The last argument says whether `remap_pfn_range` succeeds. -/
def memMmap (s : Usdm) (fp : ℕ) (pgoff size : U64) (remap : Bool) : Option (Usdm × Bool) :=
  (userMemGetInfo s fp (pgoff <<< 12)).map fun
    | none => (s, false)
    | some p =>
      if (s.kmem p).size < size then (s, false)
      else if !remap then (s, false)
      else ({ s with accesses := ⟨fp, s.allocatedBy p⟩ :: s.accesses }, true)

def memOpen (s : Usdm) (fp : ℕ) (kzalloc : Bool) : Option (Usdm × Bool) :=
  match s.privateData fp with
  | some _ => some (s, true)
  | none =>
    if !kzalloc then some (s, false)
    else
      let (procLinks, memDevNuma) := s.procLinks.addEnd s.memDevNuma fp
      some ({ s with
        privateData := update s.privateData fp (some ⟨0, 0, ⟨none, none⟩⟩)
        procLinks
        memDevNuma }, true)

def memRelease (s : Usdm) (fp : ℕ) : Option (Usdm × Bool) :=
  match s.privateData fp with
  | none => some (s, true)
  | some _ =>
    (userMemFreeSlabs s fp).map fun (s, _) =>
      let (procLinks, memDevNuma) := s.procLinks.remove s.memDevNuma fp
      ({ s with
        privateData := update s.privateData fp none
        procLinks
        memDevNuma }, true)

inductive Event
  | memOpen (fp : ℕ) (kzalloc : Bool)
  | devMemAlloc (fp : ℕ) (arg : UserMemInfo) (copyFrom : Bool) (k : KernelAnswers) (copyTo : Bool)
  | devMemFree (fp : ℕ) (phyAddr : U64) (copyFrom : Bool)
  | devReleasePid (fp : ℕ)
  | devNumHpGet (fp : ℕ) (copyTo : Bool)
  | memMmap (fp : ℕ) (pgoff size : U64) (remap : Bool)
  | memRelease (fp : ℕ)

def Event.Possible (s : Usdm) : Event → Prop
  | .devMemAlloc _ _ _ k _ => k.Fresh s
  | _ => True

instance (s : Usdm) (e : Event) : Decidable (e.Possible s) := by
  unfold Event.Possible
  split <;> infer_instance

/-- One call: the state afterwards, and whether it succeeds. `none` says that it does not come to an
end. -/
def usdmCall (cfg : Params) (s : Usdm) : Event → Option (Usdm × Bool)
  | .memOpen fp kzalloc => memOpen s fp kzalloc
  | .devMemAlloc fp arg copyFrom k copyTo => devMemAlloc cfg s fp arg copyFrom k copyTo
  | .devMemFree fp phyAddr copyFrom => devMemFree s fp phyAddr copyFrom
  | .devReleasePid fp => devReleasePid s fp
  | .devNumHpGet fp copyTo => devNumHpGet cfg s fp copyTo
  | .memMmap fp pgoff size remap => memMmap s fp pgoff size remap
  | .memRelease fp => memRelease s fp

def usdmStep (cfg : Params) (s : Usdm) (e : Event) : Option Usdm :=
  if e.Possible s then (usdmCall cfg s e).map Prod.fst else none

end QuickAssist.UsdmDrv
