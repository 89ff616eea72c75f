import QuickAssist.Usdm.Invariant

/-!
# Taking blocks and giving them back

What happens to one slab, and what it does to the heap. A block is taken from a slab in use, from one that comes out of
the cache or from a new one; it is given back to its slab, which then stays in use, goes into the cache or goes back to
the kernel. A `Request` is a size and an alignment that `qaeMemAllocNUMA` accepts, where rounding the size up to units
does not wrap around.
-/

namespace QuickAssist.Usdm

open Lib Function List BitVec

/-! ## Requests -/

/-- A size and an alignment that can be asked for. -/
structure Request (size align : ℕ) : Prop where
  pos : 0 < size
  noWrap : size + 1023 < 2 ^ 64
  pow : ∃ k, align = 2 ^ k
  bounded : align ≤ 0x400000

lemma divRoundUp_unitSize {size : ℕ} (hpos : 0 < size) (hwrap : size + 1023 < 2 ^ 64) :
    0 < divRoundUp size unitSize ∧ size ≤ divRoundUp size unitSize * unitSize := by
  unfold divRoundUp unitSize
  omega

section

variable {size align : U64} (h : Accepted size align)

include h

lemma Accepted.pos : 0 < size.toNat := Nat.pos_of_ne_zero fun heq => h.1 (eq_of_toNat_eq heq)

/-- The alignments that are accepted are powers of two. -/
lemma Accepted.pow : ∃ k, align.toNat = 2 ^ k := by
  obtain ⟨-, halign, -, hand⟩ := h
  have hpos : align.toNat ≠ 0 := fun heq => halign (eq_of_toNat_eq heq)
  have hone : (align - 1).toNat = align.toNat - 1 := toNat_sub_of_le (show 1 ≤ align.toNat by omega)
  have hzero : align.toNat &&& align.toNat - 1 = 0 := by
    rw [← hone, ← toNat_and, hand]
    rfl
  exact (Nat.and_sub_one_eq_zero_iff_isPowerOfTwo hpos).mp hzero

lemma Accepted.request (hwrap : size.toNat + 1023 < 2 ^ 64) : Request size.toNat align.toNat :=
  ⟨h.pos, hwrap, h.pow, h.2.2.1⟩

end

/-- Units that begin at a multiple of the alignment are aligned. -/
lemma Request.dvd {size align : ℕ} (h : Request size align) (hsmall : align < slabSize) {phys f : ℕ}
    (hphys : slabSize ∣ phys) (hf : align / unitSize ≠ 0 → align / unitSize ∣ f) : align ∣ phys + f * unitSize := by
  obtain ⟨k, rfl⟩ := h.pow
  have hk : k < 21 := (Nat.pow_lt_pow_iff_right (show 1 < 2 by decide)).mp hsmall
  refine Nat.dvd_add (Nat.dvd_trans (Nat.pow_dvd_pow 2 (Nat.le_of_lt hk)) hphys) ?_
  rcases Nat.lt_or_ge k 10 with hlt | hge
  · exact Nat.dvd_mul_left_of_dvd (Nat.pow_dvd_pow 2 (Nat.le_of_lt hlt)) f
  · have hsplit : 2 ^ k = 2 ^ (k - 10) * unitSize := by
      rw [show unitSize = 2 ^ 10 from rfl, ← Nat.pow_add, Nat.sub_add_cancel hge]
    have hunit : 2 ^ k / unitSize = 2 ^ (k - 10) := by
      rw [hsplit, Nat.mul_div_cancel _ (by decide)]
    rw [hunit] at hf
    rw [hsplit]
    exact Nat.mul_dvd_mul_right (hf (Nat.ne_of_gt (Nat.two_pow_pos _))) unitSize

/-! ## Taking a block -/

variable {live : List Block} {info : DevMemInfo} {n : U32} {bs : List ℕ}

/-- A block is taken from a slab of units: the slab has one block more, the caller can have it, and
no block of the caller begins at its address. -/
lemma UnitSlab.memAlloc {ctrl ctrl' : BlockCtrl} {p size align f : ℕ} (h : UnitSlab live info n ctrl bs)
    (hmapped : info.Mapped p) (hreq : Request size align) (hsmall : align < slabSize)
    (halloc : memAlloc ctrl size (align / unitSize) = some (f, ctrl')) :
    UnitSlab (⟨p + f * unitSize, size, align⟩ :: live) info (n + 1) ctrl' (f :: bs) ∧
      info.extent.Has (p + f * unitSize) ∧ ∀ b ∈ live, b.addr ≠ p + f * unitSize := by
  obtain ⟨hvirt, hlen, hphys⟩ := hmapped.units h.type
  obtain ⟨hunits, hle⟩ := divRoundUp_unitSize hreq.pos hreq.noWrap
  obtain ⟨hinv, hself, hothers, hdvd⟩ := h.inv.memAlloc hunits halloc
  obtain ⟨-, hpos, hend⟩ := hinv.inside f mem_cons_self
  have hbound := hinv.length_le
  have hhas : info.extent.Has (p + f * unitSize) := by
    unfold bitmapLen at hend
    simp only [Extent.Has, DevMemInfo.extent, hvirt, hlen, unitSize, slabSize]
    omega
  refine ⟨⟨h.type, hinv, ?_, ?_⟩, hhas, ?_⟩
  · have hcount := h.count
    rw [length_cons] at hbound ⊢
    unfold bitmapLen at hbound
    rw [toNat_add, hcount, Nat.mod_eq_of_lt]
    · rfl
    · show bs.length + 1 < 2 ^ 32
      omega
  · intro b hb hhasb
    rcases mem_cons.mp hb with rfl | hb
    · refine ⟨f, mem_cons_self, by rw [hvirt], ?_, hreq.dvd hsmall hphys hdvd⟩
      rw [hself]
      exact hle
    · obtain ⟨g, hg, haddr, hsize, halign⟩ := h.placed b hb hhasb
      refine ⟨g, mem_cons_of_mem f hg, haddr, ?_, halign⟩
      rwa [hothers g hg]
  · intro b hb haddr
    obtain ⟨g, hg, hunit, -⟩ := h.placed b hb (haddr ▸ hhas)
    have hfg : f = g := by
      unfold unitSize at haddr hunit
      omega
    exact (nodup_cons.mp hinv.nodup).1 (hfg ▸ hg)

namespace HeapInv

variable {h h' : Heap} {p size align f : ℕ} {ctrl : BlockCtrl}

/-- A block of a slab in use is handed out. -/
lemma take (hinv : HeapInv h []) (hfd : h.fd = true) (hreq : Request size align)
    (hsmall : align < slabSize) (hp : p ∈ h.userMemList)
    (halloc : memAlloc (h.blockCtrl p) size (align / unitSize) = some (f, ctrl)) :
    HeapInv (((h.setCtrl p ctrl).setAllocations p (h.allocations p + 1)).hand
      ⟨p + f * unitSize, size, align⟩) [] := by
  have hmem : p ∈ h.slabs := Heap.mem_slabs.mpr (Or.inl hp)
  obtain ⟨bs, hslab⟩ := hinv.units p hp
  obtain ⟨hnew, hhas, hne⟩ := hslab.memAlloc (hinv.layout.mapped p hmem) hreq hsmall halloc
  refine hinv.hand (p := p) ?_ ?_ hmem (List.Perm.refl _) hfd rfl hhas hne
  · exact { Elsewhere.refl p h with
      blockCtrl := fun q hne => update_of_ne hne _ _
      allocations := fun q hne => update_of_ne hne _ _ }
  · refine SlabOk.of_units hinv.slabs_nodup hp (f :: bs) ?_ (forall_mem_cons.mpr ⟨hreq.pos, hinv.size_pos⟩)
    simp only [Heap.Units, Heap.hand, Heap.setAllocations, Heap.setCtrl, update_self]
    exact hnew

/-- A slab leaves its list with all its blocks. -/
lemma detach (hinv : HeapInv h []) (helse : Elsewhere p h h') (hperm : h.slabs.Perm (p :: h'.slabs))
    (hsub : h'.live.Sublist h.live) (hfd : h'.fd = h.fd)
    (hhas : ∀ b ∈ h'.live, ¬ (h.memInfo p).extent.Has b.addr) : HeapInv h' [p] := by
  have hp : p ∈ h.slabs := hperm.mem_iff.mpr mem_cons_self
  have hnodup : (p :: h'.slabs).Nodup := hperm.nodup_iff.mp hinv.slabs_nodup
  refine hinv.update helse ?_ hp (fun q hq => mem_singleton.mp hq) hperm ?_ (hinv.distinct.sublist hsub)
  · refine SlabOk.of_notMem (nodup_cons.mp hnodup).1 ?_
    rw [helse.memInfo]
    exact hhas
  · intro hclosed
    exact sublist_nil.mp (hinv.closed (hfd ▸ hclosed) ▸ hsub)

/-- A slab comes out of the cache. -/
lemma pop (hinv : HeapInv h []) (hp : p ∈ h.userCache) (cacheSize : U64) :
    HeapInv { h with cacheSize := cacheSize, userCache := h.userCache.erase p } [p] := by
  refine hinv.detach ?_ ?_ (List.Sublist.refl _) rfl ?_
  · exact { Elsewhere.refl p h with userCache := fun _ _ => mem_of_mem_erase }
  · have hcache : h.userCache.Perm (p :: h.userCache.erase p) := perm_cons_erase hp
    exact ((hcache.append_left _).append_right _).trans (perm_middle.append_right _)
  · intro b hb hhas
    obtain ⟨f, hf, -⟩ := (hinv.cached p hp).placed b hb hhas
    cases hf

/-- The control block of a slab in no list is written. -/
lemma writeHeld (hinv : HeapInv h [p]) {ctrl : ℕ → BlockCtrl} {n : ℕ → U32}
    (hctrl : ∀ q, q ≠ p → ctrl q = h.blockCtrl q) (hn : ∀ q, q ≠ p → n q = h.allocations q) :
    HeapInv { h with blockCtrl := ctrl, allocations := n } [p] := by
  refine hinv.update (p := p) ?_ ?_ mem_cons_self (fun q hq => mem_singleton.mp hq)
    (List.Perm.refl _) hinv.closed hinv.distinct
  · exact { Elsewhere.refl p h with blockCtrl := hctrl, allocations := hn }
  · exact SlabOk.of_notMem (nodup_cons.mp hinv.layout.nodup).1 fun b hb => hinv.not_has_of_held hb

/-- The first block of a slab is handed out. -/
lemma place (hinv : HeapInv h [p]) (hfd : h.fd = true) (hreq : Request size align)
    (hsmall : align < slabSize) (htype : (h.memInfo p).type ≠ .large) (hclean : (h.blockCtrl p).Clean)
    (halloc : memAlloc (initSlab (h.blockCtrl p) (h.memInfo p).size) size (align / unitSize) = some (f, ctrl)) :
    HeapInv ({ (h.setCtrl p ctrl).setAllocations p 1 with
      userMemList := p :: h.userMemList }.hand ⟨p + f * unitSize, size, align⟩) [] := by
  have hmapped := hinv.layout.mapped p mem_cons_self
  rw [(hmapped.units htype).2.1] at halloc
  have hempty : UnitSlab h.live (h.memInfo p) 0 (initSlab (h.blockCtrl p) slabSize) [] :=
    ⟨htype, SlabInv.initSlab hclean, rfl, fun b hb hhas => absurd hhas (hinv.not_has_of_held hb)⟩
  obtain ⟨hnew, hhas, hne⟩ := hempty.memAlloc hmapped hreq hsmall halloc
  refine hinv.hand (p := p) ?_ ?_ mem_cons_self (List.Perm.refl _) hfd rfl hhas hne
  · exact { Elsewhere.refl p h with
      blockCtrl := fun q hne => update_of_ne hne _ _
      allocations := fun q hne => update_of_ne hne _ _
      userMemList := fun q hne hq => (mem_cons.mp hq).resolve_left hne }
  · refine SlabOk.of_units hinv.layout.nodup mem_cons_self [f] ?_ (forall_mem_cons.mpr ⟨hreq.pos, hinv.size_pos⟩)
    simp only [Heap.Units, Heap.hand, Heap.setAllocations, Heap.setCtrl, update_self]
    exact hnew

/-- A large slab is handed out. -/
lemma placeLarge (hinv : HeapInv h [p]) (hfd : h.fd = true) (hpos : 0 < size)
    (htype : (h.memInfo p).type = .large) (hsize : size ≤ (h.memInfo p).size)
    (halign : align ∣ (h.memInfo p).phyAddr.toNat) :
    HeapInv ({ h with userLargeMemList := p :: h.userLargeMemList }.hand
      ⟨(h.memInfo p).virtAddr, size, align⟩) [] := by
  have hhas : (h.memInfo p).extent.Has (h.memInfo p).virtAddr :=
    ⟨Nat.le_refl _, Nat.lt_add_of_pos_right (Nat.lt_of_lt_of_le hpos hsize)⟩
  have hperm : (p :: h.slabs).Perm (h.userMemList ++ h.userCache ++ p :: h.userLargeMemList) := perm_middle.symm
  refine hinv.hand (p := p) ?_ ?_ mem_cons_self hperm hfd rfl hhas ?_
  · exact { Elsewhere.refl p h with
      userLargeMemList := fun q hne hq => (mem_cons.mp hq).resolve_left hne }
  · refine SlabOk.of_large (hperm.nodup_iff.mp hinv.layout.nodup) mem_cons_self ⟨htype, ?_⟩
      (forall_mem_cons.mpr ⟨hpos, hinv.size_pos⟩)
    intro b hb hhasb
    rcases mem_cons.mp hb with rfl | hb
    · exact ⟨rfl, hsize, halign⟩
    · exact absurd hhasb (hinv.not_has_of_held hb)
  · intro b hb heq
    exact hinv.not_has_of_held hb (heq ▸ hhas)

end HeapInv

/-! ## Giving a block back -/

lemma mem_eraseP_of_distinct {addr : ℕ} {c : Block} (hdistinct : live.Pairwise fun b c => b.addr ≠ c.addr)
    (hc : c ∈ live.eraseP fun b => b.addr = addr) : c ∈ live ∧ c.addr ≠ addr := by
  refine ⟨mem_of_mem_eraseP hc, ?_⟩
  induction live with
  | nil => cases hc
  | cons b rest ih =>
    obtain ⟨hhead, htail⟩ := pairwise_cons.mp hdistinct
    rw [eraseP_cons] at hc
    by_cases hb : b.addr = addr
    · rw [decide_eq_true hb] at hc
      exact fun heq => hhead c hc (hb.trans heq.symm)
    · rw [decide_eq_false hb] at hc
      rcases mem_cons.mp hc with rfl | hc
      · exact hb
      · exact ih htail hc

/-- A block is given back to its slab. -/
lemma UnitSlab.memFree {live' : List Block} {ctrl : BlockCtrl} {p f : ℕ} (h : UnitSlab live info n ctrl bs)
    (hmapped : info.Mapped p) (hf : f ∈ bs) (hlive : ∀ b ∈ live', b ∈ live ∧ b.addr ≠ p + f * unitSize) :
    UnitSlab live' info (n - 1) (memFree ctrl p (p + f * unitSize)) (bs.erase f) := by
  obtain ⟨hvirt, -, -⟩ := hmapped.units h.type
  have hpage : p % unitSize = 0 := by
    have := hmapped.page
    unfold ctrlPageSize at this
    unfold unitSize
    omega
  obtain ⟨hinv, hunits⟩ := h.inv.memFree hf hmapped.pos hpage
  have hlength := length_pos_of_mem hf
  refine ⟨h.type, hinv, ?_, ?_⟩
  · have hone : (1 : U32) ≤ n := by
      show 1 ≤ n.toNat
      rw [h.count]
      exact hlength
    rw [toNat_sub_of_le hone, h.count, length_erase_of_mem hf]
    rfl
  · intro b hb hhas
    obtain ⟨hmem, hne⟩ := hlive b hb
    obtain ⟨g, hg, haddr, hsize, halign⟩ := h.placed b hmem hhas
    have hgf : g ≠ f := by
      rintro rfl
      rw [haddr, hvirt] at hne
      exact hne rfl
    refine ⟨g, (mem_erase_of_ne hgf).mpr hg, haddr, ?_, halign⟩
    rwa [hunits g]

lemma forget_freeSlab (h : Heap) (p va : ℕ) : (freeSlab h p).forget va = freeSlab (h.forget va) p := by
  unfold freeSlab delSlabFromHash Heap.forget
  dsimp only
  split <;> rfl

lemma freeSlab_fd (h : Heap) (p : ℕ) : (freeSlab h p).fd = h.fd := by
  unfold freeSlab delSlabFromHash
  dsimp only
  split <;> rfl

/-- The slab that is found has the address in it. -/
lemma findSlabInHash_spec {h : Heap} {held : List ℕ} {p va : ℕ} (hinv : HeapInv h held)
    (hva : va < 2 ^ 64) (hfind : findSlabInHash h va = some p) :
    p ∈ held ++ h.slabs ∧ (h.memInfo p).extent.Has va := by
  have hoffs := List.find?_some hfind
  rw [decide_eq_true_eq] at hoffs
  obtain ⟨hmem, -⟩ := hinv.layout.chain_mem _ p (mem_of_find?_eq_some hfind)
  have hbound := (hinv.layout.mapped p hmem).bounded
  refine ⟨hmem, ?_⟩
  simp only [Extent.Has, DevMemInfo.extent]
  omega

namespace HeapInv

variable {h : Heap} {p va : ℕ} {b : Block}

/-- An empty slab goes into the cache. -/
lemma push (hinv : HeapInv h [p]) (hslab : h.Units p []) (cacheSize : U64) :
    HeapInv { h with cacheSize := cacheSize, userCache := p :: h.userCache } [] := by
  have hperm : (p :: h.slabs).Perm (h.userMemList ++ p :: h.userCache ++ h.userLargeMemList) :=
    perm_middle.symm.append_right h.userLargeMemList
  refine hinv.update (p := p) ?_ ?_ mem_cons_self (by simp) hperm hinv.closed hinv.distinct
  · exact { Elsewhere.refl p h with userCache := fun q hne hq => (mem_cons.mp hq).resolve_left hne }
  · exact SlabOk.of_cached (hperm.nodup_iff.mp hinv.layout.nodup) mem_cons_self hslab hinv.size_pos

/-- A large slab goes back to the kernel. -/
lemma freeLarge (hinv : HeapInv h []) (hp : p ∈ h.userLargeMemList) (hb : b ∈ h.live)
    (hhas : (h.memInfo p).extent.Has b.addr) :
    HeapInv ((Usdm.freeSlab { h with userLargeMemList := h.userLargeMemList.erase p } p).forget
      b.addr) [] := by
  rw [forget_freeSlab]
  apply HeapInv.freeSlab
  refine hinv.detach ?_ ?_ eraseP_sublist rfl ?_
  · exact { Elsewhere.refl p h with
      userLargeMemList := fun _ _ => mem_of_mem_erase
      live := fun _ hc => Or.inl (mem_of_mem_eraseP hc) }
  · exact ((perm_cons_erase hp).append_left _).trans perm_middle
  · intro c hc hhasc
    obtain ⟨hmem, hne⟩ := mem_eraseP_of_distinct hinv.distinct hc
    obtain ⟨haddrb, -⟩ := (hinv.large p hp).placed b hb hhas
    obtain ⟨haddrc, -⟩ := (hinv.large p hp).placed c hmem hhasc
    exact hne (haddrc.trans haddrb.symm)

/-- An empty slab goes into the cache or back to the kernel. -/
lemma recycle (hinv : HeapInv (h.forget va) [p]) (hslab : (h.forget va).Units p []) :
    HeapInv (((pushSlab h p).getD (Usdm.freeSlab h p)).forget va) [] := by
  unfold pushSlab
  dsimp only
  split
  · exact hinv.push hslab _
  · rw [Option.getD_none, forget_freeSlab]
    exact hinv.freeSlab

/-- A block is given back, and with the last one its slab is recycled. -/
lemma freeUnits (hinv : HeapInv h []) (hp : p ∈ h.userMemList) (hb : b ∈ h.live)
    (hhas : (h.memInfo p).extent.Has b.addr) {h' : Heap}
    (hh' : h' = (h.setCtrl p (Usdm.memFree (h.blockCtrl p) p b.addr)).setAllocations p (h.allocations p - 1)) :
    (h'.allocations p ≠ 0 → HeapInv (h'.forget b.addr) []) ∧
      (h'.allocations p = 0 → HeapInv (((pushSlab { h' with userMemList := h'.userMemList.erase p }
        p).getD (Usdm.freeSlab { h' with userMemList := h'.userMemList.erase p } p)).forget
        b.addr) []) := by
  have hmem : p ∈ h.slabs := Heap.mem_slabs.mpr (Or.inl hp)
  have hmapped := hinv.layout.mapped p hmem
  obtain ⟨bs, hslab⟩ := hinv.units p hp
  obtain ⟨f, hf, haddr, -⟩ := hslab.placed b hb hhas
  rw [(hmapped.units hslab.type).1] at haddr
  have hnew : (h'.forget b.addr).Units p (bs.erase f) := by
    have hfree := hslab.memFree hmapped hf fun c hc => haddr ▸ mem_eraseP_of_distinct hinv.distinct hc
    rw [← haddr] at hfree
    rw [hh']
    simp only [Heap.Units, Heap.forget, Heap.setAllocations, Heap.setCtrl, update_self]
    exact hfree
  have hsub : (h'.forget b.addr).live.Sublist h.live := by
    rw [hh']
    exact eraseP_sublist
  have helse : Elsewhere p h (h'.forget b.addr) := by
    rw [hh']
    exact { Elsewhere.refl p h with
      blockCtrl := fun q hne => update_of_ne hne _ _
      allocations := fun q hne => update_of_ne hne _ _
      live := fun _ hc => Or.inl (mem_of_mem_eraseP hc) }
  have hlists : h'.userMemList = h.userMemList ∧ h'.userCache = h.userCache ∧
      h'.userLargeMemList = h.userLargeMemList ∧ h'.fd = h.fd := by
    rw [hh']
    exact ⟨rfl, rfl, rfl, rfl⟩
  obtain ⟨hunits, hcache, hlarge, hfd⟩ := hlists
  have hslabs : (h'.forget b.addr).slabs = h.slabs := by
    show h'.userMemList ++ h'.userCache ++ h'.userLargeMemList = h.slabs
    rw [hunits, hcache, hlarge, Heap.slabs]
  refine ⟨fun _ => ?_, fun hzero => ?_⟩
  · refine hinv.update helse ?_ hmem (by simp) (List.Perm.of_eq hslabs.symm) ?_ (hinv.distinct.sublist hsub)
    · refine SlabOk.of_units (hslabs ▸ hinv.slabs_nodup) (hunits ▸ hp) (bs.erase f) hnew ?_
      exact fun c hc => hinv.size_pos c (hsub.subset hc)
    · intro hclosed
      exact sublist_nil.mp (hinv.closed (hfd ▸ hclosed) ▸ hsub)
  · -- the last block is gone
    have hempty : bs.erase f = [] := by
      have hcount : (h'.allocations p).toNat = _ := hnew.count
      rw [hzero] at hcount
      exact length_eq_zero_iff.mp hcount.symm
    rw [hempty] at hnew
    refine recycle ?_ hnew
    refine hinv.detach ?_ ?_ hsub hfd ?_
    · exact { helse with userMemList := fun q hne hq => helse.userMemList q hne (mem_of_mem_erase hq) }
    · show h.slabs.Perm (p :: (h'.userMemList.erase p ++ h'.userCache ++ h'.userLargeMemList))
      rw [hunits, hcache, hlarge]
      exact ((perm_cons_erase hp).append_right _).append_right _
    · intro c hc hhasc
      obtain ⟨g, hg, -⟩ := hnew.placed c hc (helse.memInfo ▸ hhasc)
      cases hg

end HeapInv

end QuickAssist.Usdm
