import QuickAssist.Usdm.PageTable
import QuickAssist.Usdm.Safety

/-!
# Finding the slab of an address

`find_slab_in_hash` takes the key of an address from the page table and looks for the address in the chain of that
key. The entries of a slab that was given back stay in the table, and the next slab that is mapped there may have
another key. That does no harm, since `store_mmap_range` writes the entries of all the pages of a new slab, and an
address is compared with the extents of the slabs in the chain before one of them is returned.

**The defect.** `store_addr` returns without a word if a level of the page table cannot be made, and the slab is used
nevertheless (`slab_not_found`).

**What the kernel does.** Next to `Answers.Possible`, mappings of a process end below the bits of an address that the
page table does not use, and huge pages are mapped at multiples of their size.
-/

namespace QuickAssist.Usdm

open Lib PageTable Function List

/-! ## The property -/

structure Heap.Finds (h : Heap) : Prop where
  found : ∀ v p, v < 2 ^ 64 → findSlabInHash h v = some p → p ∈ h.slabs ∧ (h.memInfo p).extent.Has v ∧
      ∀ q ∈ h.slabs, (h.memInfo q).extent.Has v → q = p
  notFound : ∀ v, v < 2 ^ 64 → findSlabInHash h v = none → ∀ p ∈ h.slabs, ¬ (h.memInfo p).extent.Has v

structure Answers.UserSpace (a : Answers) : Prop where
  mmap_below : ∀ phy len v, a.mmap phy len = some v → v + len ≤ 2 ^ 57
  hugepage_below : ∀ len v, a.hugepageMmap len = some v → v + len ≤ 2 ^ 57
  hugepage_virt : ∀ len v, a.hugepageMmap len = some v → slabSize ∣ v

def Answers.Levels (a : Answers) : Prop := a.nextLevel = fun _ => true

/-! ## The invariant -/

def DevMemInfo.range (info : DevMemInfo) : MmapRange := ⟨info.virtAddr, info.phyAddr, info.size⟩

section Range

variable {info : DevMemInfo} {hpEn : Bool} {v : ℕ}

lemma DevMemInfo.covers_of_has (hv : info.extent.Has v) : info.range.Covers hpEn v :=
  ⟨hv.1, Nat.lt_of_le_of_lt (Nat.sub_le _ _) hv.2⟩

variable (h : info.range.Placed hpEn)

include h

lemma PageTable.MmapRange.Placed.lt_of_has (hv : info.extent.Has v) : v < 2 ^ 57 := Nat.lt_of_lt_of_le hv.2 h.below

lemma PageTable.MmapRange.Placed.has_begin (hle : info.virtAddr ≤ v)
    (hlt : v - v % pageSize hpEn < info.virtAddr + info.size) : info.extent.Has (v - v % pageSize hpEn) := by
  obtain ⟨m, hm⟩ := h.virt_aligned
  refine ⟨?_, hlt⟩
  show info.virtAddr ≤ _
  change info.virtAddr = _ at hm
  have hdiv := Nat.div_add_mod v (pageSize hpEn)
  have hpos : 0 < pageSize hpEn := by
    rw [pageSize_eq]
    exact Nat.two_pow_pos _
  have hmle : pageSize hpEn * m ≤ pageSize hpEn * (v / pageSize hpEn) := by
    apply Nat.mul_le_mul_left
    rwa [Nat.le_div_iff_mul_le hpos, Nat.mul_comm, ← hm]
  omega

end Range

structure Keyed (h : Heap) (slabs : List ℕ) : Prop where
  walker : h.loadKeyHpg = h.hugepagesEnabled
  closed : h.fd = false → h.hugepagesEnabled = false
  placed : ∀ p ∈ slabs, (h.memInfo p).range.Placed h.hugepagesEnabled
  chain : ∀ p ∈ slabs, p ∈ h.slabList (getKey (h.memInfo p).phyAddr)
  entries : ∀ p ∈ slabs, ∀ v, (h.memInfo p).extent.Has v →
    h.pageTable (pageIndex h.hugepagesEnabled v) &&& lowMask 12 = getKey (h.memInfo p).phyAddr

namespace Keyed

variable {h h' : Heap} {slabs slabs' : List ℕ} {p : ℕ}

section

variable (hk : Keyed h slabs)

include hk

lemma frame (hsame : SameTables h h') (hsub : ∀ q ∈ slabs', q ∈ slabs) : Keyed h' slabs' := by
  refine ⟨?_, ?_, ?_, ?_, ?_⟩
  · rw [hsame.loadKeyHpg, hsame.hugepagesEnabled]
    exact hk.walker
  · rw [hsame.fd, hsame.hugepagesEnabled]
    exact hk.closed
  · intro q hq
    rw [hsame.memInfo, hsame.hugepagesEnabled]
    exact hk.placed q (hsub q hq)
  · intro q hq
    rw [hsame.memInfo, hsame.slabList]
    exact hk.chain q (hsub q hq)
  · intro q hq v
    rw [hsame.memInfo, hsame.hugepagesEnabled, hsame.pageTable]
    exact hk.entries q (hsub q hq) v

lemma freeSlab (hsub : ∀ q ∈ slabs', q ∈ slabs ∧ q ≠ p) : Keyed (freeSlab h p) slabs' := by
  have hchain : ∀ q ∈ slabs', q ∈ (delSlabFromHash h p).slabList (getKey (h.memInfo q).phyAddr) := by
    intro q hq
    obtain ⟨hmem, hne⟩ := hsub q hq
    have hq' := hk.chain q hmem
    unfold delSlabFromHash
    dsimp only
    by_cases hkey : getKey (h.memInfo q).phyAddr = getKey (h.memInfo p).phyAddr
    · rw [hkey, update_self]
      rw [hkey] at hq'
      exact (mem_erase_of_ne hne).mpr hq'
    · rwa [update_of_ne hkey]
  have hdel : Keyed { delSlabFromHash h p with granted := h.granted.erase p } slabs' :=
    ⟨hk.walker, hk.closed, fun q hq => hk.placed q (hsub q hq).1, hchain, fun q hq => hk.entries q (hsub q hq).1⟩
  unfold Usdm.freeSlab
  dsimp only
  split
  · exact hdel.frame ⟨rfl, rfl, rfl, rfl, rfl, rfl⟩ fun q hq => hq
  · exact hdel

lemma addSlab (hp : p ∉ slabs) (info : DevMemInfo) : Keyed (addSlabToHash (h.newSlab p info) p) slabs := by
  have hinfo : ∀ q ∈ slabs, (addSlabToHash (h.newSlab p info) p).memInfo q = h.memInfo q := by
    intro q hq
    apply update_of_ne
    rintro rfl
    exact hp hq
  refine ⟨hk.walker, hk.closed, ?_, ?_, ?_⟩
  · intro q hq
    rw [hinfo q hq]
    exact hk.placed q hq
  · intro q hq
    rw [hinfo q hq]
    have hq' := hk.chain q hq
    unfold addSlabToHash Heap.newSlab
    dsimp only
    rw [update_self]
    by_cases hkey : getKey (h.memInfo q).phyAddr = getKey info.phyAddr
    · rw [hkey, update_self]
      rw [hkey] at hq'
      exact mem_cons_of_mem p hq'
    · rwa [update_of_ne hkey]
  · intro q hq v hv
    rw [hinfo q hq] at hv ⊢
    exact hk.entries q hq v hv

/-- **A new slab.** When its pages have been stored it is found as well, and no other is lost: a page
of another slab is not among its own. -/
theorem store {a : Answers} (hlevels : a.Levels)
    (hplaced : (h.memInfo p).range.Placed h.hugepagesEnabled) (hchain : p ∈ h.slabList (getKey (h.memInfo p).phyAddr))
    (hapart : ∀ q ∈ slabs, (h.memInfo q).extent.Apart (h.memInfo p).extent) :
    Keyed (storeMmapRange h a (h.memInfo p).virtAddr (h.memInfo p).phyAddr (h.memInfo p).size) (p :: slabs) := by
  have htable : ∀ v, v < 2 ^ 57 → (storeMmapRange h a (h.memInfo p).virtAddr (h.memInfo p).phyAddr
          (h.memInfo p).size).pageTable (pageIndex h.hugepagesEnabled v) =
        if (h.memInfo p).range.Covers h.hugepagesEnabled v then
          (h.memInfo p).range.entry h.hugepagesEnabled v
        else h.pageTable (pageIndex h.hugepagesEnabled v) := by
    intro v hv
    unfold storeMmapRange
    rw [hlevels]
    exact flat_pageTable hplaced hv h.pageTable
  have hentries : ∀ q ∈ p :: slabs, ∀ v, (h.memInfo q).extent.Has v →
      (storeMmapRange h a (h.memInfo p).virtAddr (h.memInfo p).phyAddr
          (h.memInfo p).size).pageTable (pageIndex h.hugepagesEnabled v) &&& lowMask 12 =
        getKey (h.memInfo q).phyAddr := by
    refine forall_mem_cons.mpr ⟨?_, ?_⟩
    · intro v hv
      rw [htable v (hplaced.lt_of_has hv), if_pos (DevMemInfo.covers_of_has hv)]
      exact hplaced.entry_key v
    · intro q hq v hv
      rw [htable v ((hk.placed q hq).lt_of_has hv), if_neg]
      · exact hk.entries q hq v hv
      · rintro ⟨hle, hlt⟩
        -- both slabs would have the beginning of the page
        exact (hapart q hq).not_has ((hk.placed q hq).has_begin hv.1 (Nat.lt_of_le_of_lt (Nat.sub_le _ _) hv.2))
          (hplaced.has_begin hle hlt)
  exact ⟨hk.walker, hk.closed, forall_mem_cons.mpr ⟨hplaced, hk.placed⟩,
    forall_mem_cons.mpr ⟨hchain, hk.chain⟩, hentries⟩

end

end Keyed

/-! ## Calls -/

/-- What is known of a slab that the kernel maps. -/
structure NewSlab (h : Heap) (p : ℕ) (info : DevMemInfo) : Prop where
  notMem : p ∉ h.slabs
  placed : info.range.Placed h.hugepagesEnabled
  apart : ∀ q ∈ h.slabs, (h.memInfo q).extent.Apart info.extent

/-- The slabs that are listed or held are found. -/
structure KeyedHeld (x : Heap × List ℕ) : Prop where
  keyed : Keyed x.1 (x.2 ++ x.1.slabs)
  nodup : (x.2 ++ x.1.slabs).Nodup

namespace Keyed

variable {h h' : Heap} {a : Answers} {p size align allocatePages : ℕ} {node : ℤ} {type : SlabType} {info : DevMemInfo}

lemma qaeOpenFd (hk : Keyed h h.slabs) (a : Answers) : Keyed (qaeOpenFd h a).1 (qaeOpenFd h a).1.slabs := by
  unfold Usdm.qaeOpenFd
  split
  · exact hk
  · rename_i hfd
    have henabled := hk.closed (Bool.eq_false_iff.mpr hfd)
    have hwalker := hk.walker.trans henabled
    split
    · refine ⟨?_, Bool.noConfusion, ?_, ?_, ?_⟩
      · show (h.loadKeyHpg || _) = _
        rw [hwalker, Bool.false_or]
        rfl
      all_goals exact nofun
    · refine ⟨hk.walker, hk.closed, ?_, ?_, ?_⟩
      all_goals exact nofun

lemma addSlab_store (hk : Keyed h h.slabs) (hlevels : a.Levels) (strictNode : Bool) (numHugepages : ℕ)
    (hnew : NewSlab h p info) : Keyed ((h.addSlab strictNode numHugepages p info).storeSlab a p) (p :: h.slabs) := by
  have hk₀ : Keyed { h with strictNode := strictNode, numHugepages := numHugepages } h.slabs :=
    hk.frame ⟨rfl, rfl, rfl, rfl, rfl, rfl⟩ fun q hq => hq
  have hk₁ : Keyed (h.addSlab strictNode numHugepages p info) h.slabs := hk₀.addSlab hnew.notMem info
  have hinfo : (h.addSlab strictNode numHugepages p info).memInfo = update h.memInfo p info := rfl
  have hchain : p ∈ (h.addSlab strictNode numHugepages p info).slabList
      (getKey ((h.addSlab strictNode numHugepages p info).memInfo p).phyAddr) := by
    unfold Heap.addSlab addSlabToHash
    dsimp only
    rw [update_self]
    exact mem_cons_self
  refine (hk₁.store hlevels ?_ hchain ?_).frame ⟨rfl, rfl, rfl, rfl, rfl, rfl⟩ fun q hq => hq
  · rw [hinfo, update_self]
    exact hnew.placed
  · intro q hq
    have hne : q ≠ p := by
      rintro rfl
      exact hnew.notMem hq
    rw [hinfo, update_self, update_of_ne hne]
    exact hnew.apart q hq

/-- **What one move does.** -/
theorem move {x y : Heap × List ℕ} (hk : KeyedHeld x) (hlevels : a.Levels) (hmove : Move a NewSlab x y) :
    KeyedHeld y := by
  obtain ⟨hk, hnodup⟩ := hk
  cases hmove with
  | shift hshift =>
    exact ⟨hk.frame hshift.same.1 fun q hq => hshift.perm.mem_iff.mpr hq, hshift.perm.nodup_iff.mp hnodup⟩
  | add strictNode numHugepages hnew =>
    exact ⟨hk.addSlab_store hlevels strictNode numHugepages hnew, nodup_cons.mpr ⟨hnew.notMem, hnodup⟩⟩
  | @free h p =>
    obtain ⟨hp, hnodup⟩ := nodup_cons.mp hnodup
    have hslabs := slabs_freeSlab h p
    refine ⟨hk.freeSlab fun q hq => ?_, hslabs.symm ▸ hnodup⟩
    rw [nil_append, hslabs] at hq
    exact ⟨mem_cons_of_mem p hq, fun heq => hp (heq ▸ hq)⟩

lemma of_moves (hk : Keyed h h.slabs) (hnodup : h.slabs.Nodup) (hlevels : a.Levels)
    (hmoves : Moves a NewSlab (h, []) (h', [])) (live : List Block) : Keyed { h' with live := live } h'.slabs := by
  have hheld : KeyedHeld (h', []) := hmoves.invariant (fun _ _ hk hmove => move hk hlevels hmove) ⟨hk, hnodup⟩
  exact hheld.keyed.frame ⟨rfl, rfl, rfl, rfl, rfl, rfl⟩ fun q hq => hq

end Keyed

/-! ## New slabs -/

section New

variable {h h' : Heap} {a : Answers} {p size align allocatePages : ℕ} {node : ℤ} {type : SlabType} {info : DevMemInfo}

lemma allocLookup_type (hlookup : allocLookup h a size node align = (h', .ask type allocatePages)) :
    h'.hugepagesEnabled = decide (type = .hugePage) := by
  unfold allocLookup at hlookup
  dsimp only at hlookup
  split at hlookup
  · cases hlookup
  · split at hlookup
    · split at hlookup
      · cases hlookup
      · rename_i henabled
        cases hlookup
        exact Bool.eq_false_iff.mpr henabled
    · split at hlookup
      · cases hlookup
      · cases hlookup
        split
        · assumption
        · rename_i henabled
          exact Bool.eq_false_iff.mpr henabled

lemma SlabMapped.placed (hmapped : SlabMapped a size node type p info)
    (hpossible : a.Possible h) (huser : a.UserSpace) : info.range.Placed (decide (type = .hugePage)) := by
  have hdriver {phy : U64} {info : DevMemInfo} (hmmap : a.mmap phy info.size = some info.virtAddr) :
      info.range.Placed false :=
    ⟨Nat.dvd_of_mod_eq_zero (hpossible.mmap_fresh _ _ _ hmmap).page, huser.mmap_below _ _ _ hmmap⟩
  cases hmapped with
  | hugePage hmmap _ => exact ⟨huser.hugepage_virt _ _ hmmap, huser.hugepage_below _ _ hmmap⟩
  | small _ hmmap | large _ _ hmmap => exact hdriver hmmap

lemma HeapInv.notMem_slabs (hinv : HeapInv h [p]) : p ∉ h.slabs := (nodup_cons.mp hinv.layout.nodup).1

/-- **A new slab is found.** -/
theorem newSlab_of_ask (hinv : HeapInv h []) (hreq : Request size align) (huser : a.UserSpace)
    (hlookup : allocLookup h a size node align = (h', .ask type allocatePages)) (hpossible : a.Possible h')
    (hmapped : SlabMapped a (allocatePages * unitSize) node type p info) : NewSlab h' p info := by
  obtain ⟨hinv', -, hasks⟩ := hinv.ask hreq hlookup
  obtain ⟨hheld, -⟩ := hinv'.mapped hpossible hreq hasks hmapped
  have hp : p ∉ h'.slabs := hheld.notMem_slabs
  refine ⟨hp, ?_, fun q hq => ?_⟩
  · rw [allocLookup_type hlookup]
    exact hmapped.placed hpossible huser
  · have hne : q ≠ p := by
      rintro rfl
      exact hp hq
    have hapart := hheld.layout.extent_apart (mem_cons_of_mem p hq) mem_cons_self hne
    rwa [show (addSlabToHash (h'.newSlab p info) p).memInfo = update h'.memInfo p info from rfl,
      update_self, update_of_ne hne] at hapart

lemma Keyed.qaeMemAllocNUMA (hinv : HeapInv h []) (hk : Keyed h h.slabs) {size align : U64}
    (hwrap : size.toNat + 1023 < 2 ^ 64) (hpossible : ∀ h₁ memType allocatePages,
      allocLookup h a size.toNat node align.toNat = (h₁, .ask memType allocatePages) →
      a.Possible h₁) (huser : a.UserSpace) (hlevels : a.Levels) :
    Keyed (qaeMemAllocNUMA h a size node align) (qaeMemAllocNUMA h a size node align).slabs := by
  rcases qaeMemAllocNUMA_eq h a size node align with heq | ⟨haccepted, live, heq⟩
  · rw [heq]
    exact hk
  · have hmoves : Moves a NewSlab (_, []) (_, []) := moves_allocAddr fun h₁ type allocatePages hlookup p info hmapped =>
      newSlab_of_ask hinv (haccepted.request hwrap) huser hlookup (hpossible _ _ _ hlookup) hmapped
    obtain ⟨hinv₁, -⟩ := hinv.qaeOpenFd (show Usdm.qaeOpenFd h a = (_, _) from rfl)
    rw [heq]
    exact (hk.qaeOpenFd a).of_moves hinv₁.slabs_nodup hlevels hmoves live

lemma Keyed.qaeMemFreeNUMA (hinv : HeapInv h []) (hk : Keyed h h.slabs) (hlevels : a.Levels) {b : Block}
    (hb : b ∈ h.live) : Keyed (qaeMemFreeNUMA h a b.addr) (qaeMemFreeNUMA h a b.addr).slabs := by
  obtain ⟨h₁, live, hmoves, heq⟩ := hinv.moves_free hb
  rw [heq]
  exact hk.of_moves hinv.slabs_nodup hlevels hmoves live

end New

/-! ## Whole runs -/

/-- **The invariant gives the property.** -/
theorem Keyed.finds {h : Heap} (hk : Keyed h h.slabs) (hinv : HeapInv h []) : h.Finds := by
  have hunique : ∀ {p q v}, p ∈ h.slabs → q ∈ h.slabs → (h.memInfo p).extent.Has v →
      (h.memInfo q).extent.Has v → q = p := by
    intro p q v hp hq hhasp hhasq
    by_contra hne
    exact (hinv.layout.extent_apart hq hp hne).not_has hhasq hhasp
  constructor
  · intro v p hv hfind
    obtain ⟨hp, hhas⟩ := findSlabInHash_spec hinv hv hfind
    exact ⟨hp, hhas, fun q hq hhasq => hunique hp hq hhas hhasq⟩
  · intro v hv hfind p hp hhas
    -- the key of the address leads to the chain of its slab
    have hkey : loadKey h v = getKey (h.memInfo p).phyAddr := by
      unfold Usdm.loadKey
      rw [hk.walker]
      exact hk.entries p hp v hhas
    have hchain := hk.chain p hp
    rw [← hkey] at hchain
    refine absurd ?_ (List.find?_eq_none.mp hfind p hchain)
    obtain ⟨hle, hlt⟩ := hhas
    simp only [DevMemInfo.extent] at hle hlt
    rw [decide_eq_true_eq]
    omega

/-- What the steps of a run must satisfy: the size does not wrap around, the kernel maps memory for a
process, and the levels of the page table can be made. -/
structure Event.Mapping (e : Event) : Prop where
  /-- Rounding the size up to units does not wrap around. -/
  noWrap : e.NoWrap
  userSpace : e.answers.UserSpace
  levels : e.answers.Levels

lemma heapStep_keyed {h h' : Heap} {e : Event} (hinv : HeapInv h [] ∧ Keyed h h.slabs)
    (hstep : guarded (fun _ e => e.Mapping) heapStep h e h') : HeapInv h' [] ∧ Keyed h' h'.slabs := by
  obtain ⟨hmapping, hpossible, hh'⟩ := hstep
  refine ⟨heapStep_inv hinv.1 ⟨hmapping.noWrap, hpossible, hh'⟩, ?_⟩
  subst hh'
  obtain ⟨call, answers⟩ := e
  cases call with
  | alloc size node align =>
    exact hinv.2.qaeMemAllocNUMA hinv.1 hmapping.noWrap hpossible hmapping.userSpace hmapping.levels
  | free va =>
    obtain ⟨b, hb, rfl⟩ := hpossible
    exact hinv.2.qaeMemFreeNUMA hinv.1 hmapping.levels hb

/-- **Every address is found in the slab that has it**, and no other, after any number of slabs have
come and gone. -/
theorem findSlabInHash_finds {es : List Event} {h : Heap}
    (hrun : Run (guarded (fun _ e => Event.Mapping e) heapStep) heapInit es h) : h.Finds := by
  have hinit : HeapInv heapInit [] ∧ Keyed heapInit heapInit.slabs := by
    refine ⟨HeapInv.of_empty rfl rfl rfl rfl rfl, rfl, fun _ => rfl, ?_, ?_, ?_⟩
    all_goals exact nofun
  obtain ⟨hinv, hk⟩ := hrun.invariant (I := fun h => HeapInv h [] ∧ Keyed h h.slabs)
    (fun _ _ _ hinv hstep => heapStep_keyed hinv hstep) hinit
  exact hk.finds hinv

def grantingLarge : Answers :=
  { refusing with
    memAlloc := fun size node type =>
      if size = 0x400000 ∧ type = .large then some ⟨node, 0x400000, 0x80000000⟩ else none
    mmap := fun _ len => if len = 0x400000 then some 0x200000 else if len = ctrlPageSize then some 0x10000 else none }

lemma grantingLarge_mmap {phy : U64} {len v : ℕ} (hsome : grantingLarge.mmap phy len = some v) :
    (len = 0x400000 ∧ v = 0x200000) ∨ len = ctrlPageSize ∧ v = 0x10000 := by
  unfold grantingLarge at hsome
  dsimp only at hsome
  split at hsome
  · rename_i hlen
    exact Or.inl ⟨hlen, (Option.some.inj hsome).symm⟩
  · obtain ⟨hlen, heq⟩ := Option.ite_none_right_eq_some.mp hsome
    exact Or.inr ⟨hlen, (Option.some.inj heq).symm⟩

lemma grantingLarge_possible {h : Heap} (hslabs : h.slabs = []) : grantingLarge.Possible h := by
  refine possible_of_one hslabs 22 (by decide) rfl rfl ?_ ?_
  · intro phy len v hsome
    rcases grantingLarge_mmap hsome with ⟨rfl, rfl⟩ | ⟨rfl, rfl⟩ <;> decide
  · intro phy len len' v v' hsome hsome' hne
    rcases grantingLarge_mmap hsome with ⟨rfl, rfl⟩ | ⟨rfl, rfl⟩ <;>
      rcases grantingLarge_mmap hsome' with ⟨rfl, rfl⟩ | ⟨rfl, rfl⟩
    · exact absurd rfl hne
    · decide
    · decide
    · exact absurd rfl hne

lemma granting_userSpace : refusing.UserSpace ∧ granting.UserSpace ∧ grantingLarge.UserSpace := by
  refine ⟨⟨?_, ?_, ?_⟩, ⟨?_, ?_, ?_⟩, ⟨?_, ?_, ?_⟩⟩
  · exact fun _ _ _ hsome => nomatch hsome
  · exact fun _ _ hsome => nomatch hsome
  · exact fun _ _ hsome => nomatch hsome
  · intro phy len v hsome
    obtain ⟨rfl, rfl⟩ := granting_mmap hsome
    decide
  · exact fun _ _ hsome => nomatch hsome
  · exact fun _ _ hsome => nomatch hsome
  · intro phy len v hsome
    rcases grantingLarge_mmap hsome with ⟨rfl, rfl⟩ | ⟨rfl, rfl⟩ <;> decide
  all_goals exact fun _ _ hsome => nomatch hsome

/-- A slab of units is found where a large slab with another key was given back. -/
theorem reused_range_found : ∃ h, Run (guarded (fun _ e => Event.Mapping e) heapStep) heapInit
        [⟨.alloc 0x400000 0 64, grantingLarge⟩, ⟨.free 0x200000, refusing⟩,
          ⟨.alloc 1000 0 64, granting⟩] h ∧ findSlabInHash h 0x201400 = some 0x200000 ∧ h.Finds := by
  obtain ⟨hrefusing, hgranting, hlarge⟩ := granting_userSpace
  apply Run.exists_and
  · exact .cons ⟨⟨show 0x400000 + 1023 < 2 ^ 64 by decide, hlarge, rfl⟩,
        alloc_possible (fun _ => grantingLarge_possible) (by decide +kernel), rfl⟩ <|
      .cons ⟨⟨trivial, hrefusing, rfl⟩, ⟨⟨0x200000, 0x400000, 64⟩, by decide +kernel, rfl⟩, rfl⟩ <|
      .single ⟨⟨show 1000 + 1023 < 2 ^ 64 by decide, hgranting, rfl⟩,
        alloc_possible (fun _ => granting_possible) (by decide +kernel), rfl⟩
  · exact fun hrun => ⟨by decide +kernel, findSlabInHash_finds hrun⟩

/-- **A slab that is not found**, since the levels of the page table could not be made when it was mapped. -/
theorem slab_not_found : ∃ h, Run heapStep heapInit
        [⟨.alloc 1000 0 64, { granting with nextLevel := fun _ => false }⟩] h ∧
      h.live = [⟨0x201400, 1000, 64⟩] ∧ h.slabs = [0x200000] ∧ findSlabInHash h 0x201400 = none ∧ ¬ h.Finds := by
  have hnone : findSlabInHash (heapCall heapInit
      ⟨.alloc 1000 0 64, { granting with nextLevel := fun _ => false }⟩) 0x201400 = none := by
    decide +kernel
  refine ⟨_, Run.single ⟨alloc_possible ?_ (by decide +kernel), rfl⟩, by decide +kernel, by decide +kernel, hnone, ?_⟩
  · intro h' hslabs
    have hpossible := granting_possible hslabs
    exact { hpossible with }
  · intro hfinds
    refine hfinds.notFound 0x201400 (by decide) hnone 0x200000 (by decide +kernel) ?_
    decide +kernel

end QuickAssist.Usdm
