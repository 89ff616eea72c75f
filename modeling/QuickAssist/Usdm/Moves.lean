import QuickAssist.Usdm.Heap

/-!
# What the functions of the heap do to the lists of slabs

A slab is obtained from the kernel, comes into use, goes into the cache and out of it, and is given back, now and then
because something has failed half way. Each function of the heap is a sequence of `Move`s of a slab from a list to the
hands of the function, or back. What the moves keep, the functions keep: invariants are proved of the moves only.
-/

namespace QuickAssist.Usdm

open List

/-! ## Looking for a slab -/

lemma userMemLookupBySize_spec {h : Heap} {size align linkNum : ℕ} {node : ℤ} {slabs : List ℕ}
    {p f : ℕ} {ctrl : BlockCtrl} (hfind : userMemLookupBySize h size node align linkNum slabs = some (p, f, ctrl)) :
    p ∈ slabs ∧ memAlloc (h.blockCtrl p) size align = some (f, ctrl) := by
  induction slabs generalizing linkNum with
  | nil => cases hfind
  | cons q rest ih =>
    unfold userMemLookupBySize at hfind
    split at hfind
    · obtain ⟨hmem, halloc⟩ := ih hfind
      exact ⟨mem_cons_of_mem q hmem, halloc⟩
    · cases halloc : memAlloc (h.blockCtrl q) size align with
      | some r =>
        rw [halloc] at hfind
        obtain ⟨f', ctrl'⟩ := r
        obtain ⟨rfl, rfl, rfl⟩ : q = p ∧ f' = f ∧ ctrl' = ctrl := by simpa using hfind
        exact ⟨mem_cons_self, halloc⟩
      | none =>
        rw [halloc] at hfind
        obtain ⟨-, hfind⟩ := Option.ite_none_left_eq_some.mp hfind
        obtain ⟨hmem, halloc⟩ := ih hfind
        exact ⟨mem_cons_of_mem q hmem, halloc⟩

/-- The heap without a slab of its cache. -/
def Heap.uncache (h : Heap) (p : ℕ) : Heap :=
  { h with cacheSize := h.cacheSize - BitVec.ofNat 64 (h.memInfo p).size, userCache := h.userCache.erase p }

lemma popSlab_eq_some {h h' : Heap} {node : ℤ} {p : ℕ} (hpop : popSlab h node = some (p, h')) :
    p ∈ h.userCache ∧ h' = h.uncache p := by
  obtain ⟨q, hfind, heq⟩ := Option.map_eq_some_iff.mp hpop
  cases heq
  exact ⟨mem_of_find?_eq_some hfind, rfl⟩

/-- A block is taken from a slab that is new, or has been in the cache. -/
def Heap.useSlab (h : Heap) (p : ℕ) (ctrl : BlockCtrl) : Heap :=
  { h.setCtrl p ctrl with userMemList := p :: h.userMemList }

inductive FindSlab (h : Heap) (size align : ℕ) : Heap × Option (ℕ × ℕ) → Prop
  | inUse {p f : ℕ} {ctrl : BlockCtrl} (hp : p ∈ h.userMemList)
      (hmem : memAlloc (h.blockCtrl p) size align = some (f, ctrl)) :
      FindSlab h size align (h.setCtrl p ctrl, some (p, p + f * unitSize))
  | notFound : FindSlab h size align (h, none)
  | cached {p f : ℕ} {ctrl : BlockCtrl} (hp : p ∈ h.userCache)
      (hmem : memAlloc (initSlab (h.blockCtrl p) (h.memInfo p).size) size align = some (f, ctrl)) :
      FindSlab h size align ((h.uncache p).useSlab p ctrl, some (p, p + f * unitSize))
  | noRoom {p : ℕ} {ctrl : BlockCtrl} (hp : p ∈ h.userCache) :
      FindSlab h size align (freeSlab ((h.uncache p).setCtrl p ctrl) p, none)

/-- **What `find_slab` does.** -/
theorem findSlab_cases (h : Heap) (size : ℕ) (node : ℤ) (align : ℕ) :
    FindSlab h size align (findSlab h size node align) := by
  unfold findSlab
  cases hlookup : userMemLookupBySize h size node align 0 h.userMemList with
  | some found =>
    obtain ⟨hp, hmem⟩ := userMemLookupBySize_spec hlookup
    exact .inUse hp hmem
  | none =>
    cases hpop : popSlab h node with
    | none => exact .notFound
    | some popped =>
      obtain ⟨p, h₁⟩ := popped
      obtain ⟨hp, rfl⟩ := popSlab_eq_some hpop
      dsimp only [initSlabAndAlloc]
      cases hmem : memAlloc (initSlab ((h.uncache p).blockCtrl p) ((h.uncache p).memInfo p).size) size align with
      | none => exact .noRoom hp
      | some found => exact .cached hp hmem

/-! ## New slabs -/

/-- What a slab that the kernel has granted is like: its kind, where its control information is and what
this says. -/
inductive SlabMapped (a : Answers) (size : ℕ) (node : ℤ) : SlabType → ℕ → DevMemInfo → Prop
  | hugePage {p : ℕ} (hmmap : a.hugepageMmap size = some p) (hphys : a.hugepageVirt2phy p ≠ 0) :
      SlabMapped a size node .hugePage p ⟨node, size, .hugePage, a.hugepageVirt2phy p, p⟩
  | small {params : Granted} {p : ℕ} (hioctl : a.memAlloc size node .small = some params)
      (hmmap : a.mmap params.phyAddr params.size = some p) :
      SlabMapped a size node .small p ⟨params.nodeId, params.size, .small, params.phyAddr, p⟩
  | large {params : Granted} {p virt : ℕ} (hioctl : a.memAlloc size node .large = some params)
      (hctrl : a.mmap params.phyAddr ctrlPageSize = some p)
      (hmmap : a.mmap params.phyAddr params.size = some virt) :
      SlabMapped a size node .large p ⟨params.nodeId, params.size, .large, params.phyAddr, virt⟩

/-- The heap with a new slab in the hash. -/
def Heap.addSlab (h : Heap) (strictNode : Bool) (numHugepages p : ℕ) (info : DevMemInfo) : Heap :=
  addSlabToHash ({ h with strictNode := strictNode, numHugepages := numHugepages }.newSlab p info) p

inductive AllocSlab (h : Heap) (a : Answers) (size : ℕ) (node : ℤ) (type : SlabType) : Heap × Option ℕ → Prop
  | refused (strictNode : Bool) : AllocSlab h a size node type ({ h with strictNode := strictNode }, none)
  | mapped (strictNode : Bool) (numHugepages : ℕ) {p : ℕ} {info : DevMemInfo}
      (hmapped : SlabMapped a size node type p info) :
      AllocSlab h a size node type (h.addSlab strictNode numHugepages p info, some p)

section New

variable (h : Heap) (a : Answers) (size : ℕ) (node : ℤ) (type : SlabType)

lemma noteNode_eq (nodeId : ℤ) : (if node ≠ nodeId then { h with strictNode := false } else h) =
      { h with strictNode := if node ≠ nodeId then false else h.strictNode } := by
  split <;> rfl

/-- **What `alloc_slab` does.** There is no slab, or the kernel has mapped one and it is in the hash. -/
theorem allocSlab_cases : AllocSlab h a size node type (allocSlab h a size node type) := by
  unfold allocSlab hugepageAllocSlab ioctlAllocSlab
  by_cases htype : type = .hugePage
  · subst htype
    rw [if_pos rfl]
    split_ifs with hnum
    · exact .refused h.strictNode
    · cases hmmap : a.hugepageMmap size with
      | none => exact .refused h.strictNode
      | some p =>
        dsimp only
        split_ifs with hphys
        · exact .refused h.strictNode
        · exact .mapped h.strictNode (h.numHugepages - 1) (.hugePage hmmap hphys)
  · rw [if_neg htype]
    cases hioctl : a.memAlloc size node type with
    | none => exact .refused h.strictNode
    | some params =>
      dsimp only
      rw [noteNode_eq]
      generalize (if node ≠ params.nodeId then false else h.strictNode) = strictNode
      cases type with
      | hugePage => exact absurd rfl htype
      | small =>
        cases hmmap : a.mmap params.phyAddr params.size with
        | none => exact .refused strictNode
        | some p => exact .mapped strictNode h.numHugepages (.small hioctl hmmap)
      | large =>
        cases hctrl : a.mmap params.phyAddr ctrlPageSize with
        | none => exact .refused strictNode
        | some p =>
          cases hmmap : a.mmap params.phyAddr params.size with
          | none => exact .refused strictNode
          | some virt => exact .mapped strictNode h.numHugepages (.large hioctl hctrl hmmap)

end New

/-- The heap with a new slab whose pages are stored. -/
def Heap.storeSlab (h : Heap) (a : Answers) (p : ℕ) : Heap :=
  (storeMmapRange h a (h.memInfo p).virtAddr (h.memInfo p).phyAddr (h.memInfo p).size).setAllocations p 1

/-- What becomes of a slab that has just been mapped. -/
inductive FirstUse (h : Heap) (p size align : ℕ) (type : SlabType) : Heap × Option ℕ → Prop
  | large (htype : type = .large) : FirstUse h p size align type
      ({ h with userLargeMemList := p :: h.userLargeMemList }, some (h.memInfo p).virtAddr)
  | offPage (hpage : (h.memInfo p).virtAddr % ctrlPageSize ≠ 0) : FirstUse h p size align type (freeSlab h p, none)
  | noRoom {ctrl : BlockCtrl}
      (hmem : memAlloc (initSlab (h.blockCtrl p) (h.memInfo p).size) size (align / unitSize) = none) :
      FirstUse h p size align type (freeSlab (h.setCtrl p ctrl) p, none)
  | units (htype : type ≠ .large) {f : ℕ} {ctrl : BlockCtrl}
      (hmem : memAlloc (initSlab (h.blockCtrl p) (h.memInfo p).size) size (align / unitSize) = some (f, ctrl)) :
      FirstUse h p size align type (h.useSlab p ctrl, some (p + f * unitSize))

inductive AllocNew (h : Heap) (a : Answers) (size : ℕ) (node : ℤ) (align : ℕ) (type : SlabType) (allocatePages : ℕ) :
    Heap × Option ℕ → Prop
  | refused (strictNode : Bool) :
      AllocNew h a size node align type allocatePages ({ h with strictNode := strictNode }, none)
  | mapped (strictNode : Bool) (numHugepages : ℕ) {p : ℕ} {info : DevMemInfo} {result : Heap × Option ℕ}
      (hmapped : SlabMapped a (allocatePages * unitSize) node type p info)
      (huse : FirstUse ((h.addSlab strictNode numHugepages p info).storeSlab a p) p size align type result) :
      AllocNew h a size node align type allocatePages result

/-- **What `alloc_addr` does with a new slab.** -/
theorem allocNew_cases (h : Heap) (a : Answers) (size : ℕ) (node : ℤ) (align : ℕ) (type : SlabType)
    (allocatePages : ℕ) :
    AllocNew h a size node align type allocatePages (allocNew h a size node align type allocatePages) := by
  have hslab := allocSlab_cases h a (allocatePages * unitSize) node type
  unfold allocNew
  generalize allocSlab h a (allocatePages * unitSize) node type = result at hslab
  cases hslab with
  | refused strictNode => exact .refused strictNode
  | mapped strictNode numHugepages hmapped =>
    refine .mapped strictNode numHugepages hmapped ?_
    dsimp only [initSlabAndAlloc]
    split_ifs with htype hpage
    · exact .large htype
    · exact .offPage hpage
    · cases hmem : memAlloc _ size (align / unitSize) with
      | none => exact .noRoom hmem
      | some found => exact .units htype hmem

/-! ## Moves -/

/-- A slab goes from a list to the hands of a function, the second component, or back; or something is written that does
not say where slabs are. -/
inductive Shift : Heap × List ℕ → Heap × List ℕ → Prop
  | write {h : Heap} {held : List ℕ} (blockCtrl : ℕ → BlockCtrl) (allocations : ℕ → U32) (strictNode : Bool) :
      Shift (h, held) ({ h with blockCtrl := blockCtrl, allocations := allocations, strictNode := strictNode }, held)
  | pop {h : Heap} {p : ℕ} (hp : p ∈ h.userCache) : Shift (h, []) (h.uncache p, [p])
  | drop {h : Heap} {p : ℕ} (hp : p ∈ h.userMemList) :
      Shift (h, []) ({ h with userMemList := h.userMemList.erase p }, [p])
  | dropLarge {h : Heap} {p : ℕ} (hp : p ∈ h.userLargeMemList) :
      Shift (h, []) ({ h with userLargeMemList := h.userLargeMemList.erase p }, [p])
  | use {h : Heap} {p : ℕ} : Shift (h, [p]) ({ h with userMemList := p :: h.userMemList }, [])
  | useLarge {h : Heap} {p : ℕ} : Shift (h, [p]) ({ h with userLargeMemList := p :: h.userLargeMemList }, [])
  | push {h : Heap} {p : ℕ} (hsize : (h.memInfo p).size = slabSize)
      (hroom : h.cacheSize + BitVec.ofNat 64 (h.memInfo p).size ≤ maxCache) :
      Shift (h, [p])
        ({ h with cacheSize := h.cacheSize + BitVec.ofNat 64 (h.memInfo p).size, userCache := p :: h.userCache }, [])

/-- A move of a slab; `New h p info` is what is known of a slab that the kernel maps. -/
inductive Move (a : Answers) (New : Heap → ℕ → DevMemInfo → Prop) : Heap × List ℕ → Heap × List ℕ → Prop
  | shift {x y : Heap × List ℕ} (hshift : Shift x y) : Move a New x y
  | add {h : Heap} {p : ℕ} {info : DevMemInfo} (strictNode : Bool) (numHugepages : ℕ) (hnew : New h p info) :
      Move a New (h, []) ((h.addSlab strictNode numHugepages p info).storeSlab a p, [p])
  | free {h : Heap} {p : ℕ} : Move a New (h, [p]) (freeSlab h p, [])

abbrev Moves (a : Answers) (New : Heap → ℕ → DevMemInfo → Prop) : Heap × List ℕ → Heap × List ℕ → Prop :=
  Relation.ReflTransGen (Move a New)

structure SameTables (h h' : Heap) : Prop where
  fd : h'.fd = h.fd
  hugepagesEnabled : h'.hugepagesEnabled = h.hugepagesEnabled
  loadKeyHpg : h'.loadKeyHpg = h.loadKeyHpg
  memInfo : h'.memInfo = h.memInfo
  slabList : h'.slabList = h.slabList
  pageTable : h'.pageTable = h.pageTable

lemma Shift.same {x y : Heap × List ℕ} (hshift : Shift x y) : SameTables x.1 y.1 ∧ y.1.granted = x.1.granted := by
  cases hshift <;> exact ⟨⟨rfl, rfl, rfl, rfl, rfl, rfl⟩, rfl⟩

/-- **No slab is lost.** -/
theorem Shift.perm {x y : Heap × List ℕ} (hshift : Shift x y) : (x.2 ++ x.1.slabs).Perm (y.2 ++ y.1.slabs) := by
  cases hshift with
  | write | use => exact List.Perm.refl _
  | pop hp =>
    have hcache := perm_cons_erase hp
    exact ((hcache.append_left _).append_right _).trans (perm_middle.append_right _)
  | drop hp => exact ((perm_cons_erase hp).append_right _).append_right _
  | dropLarge hp => exact ((perm_cons_erase hp).append_left _).trans perm_middle
  | @useLarge h p =>
    show (p :: h.slabs).Perm (h.userMemList ++ h.userCache ++ p :: h.userLargeMemList)
    exact perm_middle.symm
  | @push h p =>
    show (p :: h.slabs).Perm (h.userMemList ++ p :: h.userCache ++ h.userLargeMemList)
    exact perm_middle.symm.append_right _

lemma freeSlab_lists (h : Heap) (p : ℕ) : (freeSlab h p).userMemList = h.userMemList ∧
    (freeSlab h p).userCache = h.userCache ∧ (freeSlab h p).userLargeMemList = h.userLargeMemList ∧
    (freeSlab h p).granted = h.granted.erase p ∧ (freeSlab h p).cacheSize = h.cacheSize ∧
    (freeSlab h p).memInfo = h.memInfo := by
  unfold freeSlab delSlabFromHash
  dsimp only
  split <;> exact ⟨rfl, rfl, rfl, rfl, rfl, rfl⟩

lemma slabs_freeSlab (h : Heap) (p : ℕ) : (freeSlab h p).slabs = h.slabs := by
  obtain ⟨hunits, hcache, hlarge, -⟩ := freeSlab_lists h p
  rw [Heap.slabs, hunits, hcache, hlarge, Heap.slabs]

section Moves

variable {h h' : Heap} {a : Answers} {New : Heap → ℕ → DevMemInfo → Prop} {size align : ℕ} {node : ℤ}
  {x y : Heap × List ℕ}

/-- **The invariant rule.** -/
theorem Moves.invariant {I : Heap × List ℕ → Prop} (hmoves : Moves a New x y)
    (hmove : ∀ x y, I x → Move a New x y → I y) (hx : I x) : I y := by
  induction hmoves with
  | refl => exact hx
  | tail _ hlast ih => exact hmove _ _ ih hlast

lemma Shift.moves (hshift : Shift x y) : Moves a New x y := .single (.shift hshift)

lemma moves_findSlab (h : Heap) (size : ℕ) (node : ℤ) (align : ℕ) :
    Moves a New (h, []) ((findSlab h size node align).1, []) := by
  have hcases := findSlab_cases h size node align
  generalize findSlab h size node align = result at hcases
  have hpop {p : ℕ} {ctrl : BlockCtrl} (hp : p ∈ h.userCache) :
      Moves a New (h, []) ((h.uncache p).setCtrl p ctrl, [p]) :=
    (Shift.pop hp).moves.trans (Shift.write _ h.allocations h.strictNode).moves
  cases hcases with
  | inUse => exact (Shift.write _ h.allocations h.strictNode).moves
  | notFound => exact .refl
  | cached hp => exact (hpop hp).trans Shift.use.moves
  | noRoom hp => exact (hpop hp).tail .free

lemma moves_allocNew {type : SlabType} {allocatePages : ℕ}
    (hnew : ∀ p info, SlabMapped a (allocatePages * unitSize) node type p info → New h p info) :
    Moves a New (h, []) ((allocNew h a size node align type allocatePages).1, []) := by
  have hcases := allocNew_cases h a size node align type allocatePages
  generalize allocNew h a size node align type allocatePages = result at hcases
  cases hcases with
  | refused strictNode => exact (Shift.write h.blockCtrl h.allocations strictNode).moves
  | mapped strictNode numHugepages hmapped huse =>
    refine (Relation.ReflTransGen.single (.add strictNode numHugepages (hnew _ _ hmapped))).trans ?_
    generalize (h.addSlab strictNode numHugepages _ _).storeSlab a _ = h₁ at huse
    have hwrite (ctrl : BlockCtrl) (p : ℕ) : Moves a New (h₁, [p]) (h₁.setCtrl p ctrl, [p]) :=
      (Shift.write _ h₁.allocations h₁.strictNode).moves
    cases huse with
    | large => exact Shift.useLarge.moves
    | offPage => exact .single .free
    | noRoom => exact (hwrite _ _).tail .free
    | units => exact (hwrite _ _).trans Shift.use.moves

/-- **An allocation** is a sequence of moves, after the opening of the file. -/
theorem moves_allocAddr (hnew : ∀ h₁ type allocatePages, allocLookup h a size node align = (h₁, .ask type allocatePages) →
      ∀ p info, SlabMapped a (allocatePages * unitSize) node type p info → New h₁ p info) :
    Moves a New ((qaeOpenFd h a).1, []) ((allocAddr h a size node align).1, []) := by
  have hlookup : Moves a New ((qaeOpenFd h a).1, []) ((allocLookup h a size node align).1, []) := by
    unfold allocLookup
    rcases qaeOpenFd h a with ⟨h₁, _ | _⟩
    · exact .refl
    · dsimp only
      split
      · split <;> exact .refl
      · have hfound : Moves a New (h₁, []) (_, []) := moves_findSlab h₁ size node (align / unitSize)
        generalize findSlab h₁ size node (align / unitSize) = result at hfound
        obtain ⟨h₂, _ | found⟩ := result
        · exact hfound
        · exact hfound.trans (Shift.write h₂.blockCtrl _ h₂.strictNode).moves
  unfold allocAddr
  rcases hask : allocLookup h a size node align with ⟨h₁, addr | ⟨type, allocatePages⟩⟩
  · rw [hask] at hlookup
    exact hlookup
  · rw [hask] at hlookup
    exact hlookup.trans (moves_allocNew (hnew _ _ _ hask))

lemma qaeMemAllocNUMA_eq (h : Heap) (a : Answers) (size : U64) (node : ℤ) (align : U64) :
    qaeMemAllocNUMA h a size node align = h ∨ Accepted size align ∧ ∃ live,
      qaeMemAllocNUMA h a size node align = { (allocAddr h a size.toNat node align.toNat).1 with live := live } := by
  unfold qaeMemAllocNUMA
  split
  · rename_i haccepted
    refine Or.inr ⟨haccepted.1, ?_⟩
    rcases allocAddr h a size.toNat node align.toNat with ⟨h₁, _ | addr⟩
    · exact ⟨h₁.live, rfl⟩
    · dsimp only
      split <;> exact ⟨_, rfl⟩
  · exact Or.inl rfl

end Moves

end QuickAssist.Usdm
