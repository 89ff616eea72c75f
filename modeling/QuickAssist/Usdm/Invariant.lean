import QuickAssist.Usdm.Heap

/-!
# What holds of the heap

`Layout` is about where the slabs are: it mentions their control information, the list of all of them and the hash, and
changes only when a slab is obtained or given back. `UnitSlab` and `LargeSlab` are about what is in one slab.
`HeapInv h held` puts them together for a heap `h` and slabs `held` that are in the hash and in none of the lists, as
in the middle of a call. `HeapInv.update` is for all that happens to *one* slab.
-/

namespace QuickAssist.Usdm

open Lib Function List

variable {memInfo : ℕ → DevMemInfo} {slabs slabs' bs held held' : List ℕ} {slabList : U64 → List ℕ} {p q : ℕ}
  {live live' : List Block} {info : DevMemInfo} {allocations : U32} {ctrl : BlockCtrl} {b c : Block}
  {h h' : Heap}

/-! ## The property -/

def DevMemInfo.extent (info : DevMemInfo) : Extent := ⟨info.virtAddr, info.size⟩

def DevMemInfo.control (info : DevMemInfo) (p : ℕ) : Extent :=
  ⟨p, if info.type = .large then sizeofDevMemInfo else sizeofBlockCtrl⟩

def Block.extent (b : Block) : Extent := ⟨b.addr, b.size⟩

structure Heap.Safe (h : Heap) : Prop where
  disjoint : h.live.Pairwise fun b c => b.extent.Apart c.extent
  /-- Each of them is within a slab, and its physical address is a multiple of the alignment. -/
  inside : ∀ b ∈ h.live, ∃ p ∈ h.slabs, b.extent.Within (h.memInfo p).extent ∧
    b.align ∣ (h.memInfo p).phyAddr.toNat + (b.addr - (h.memInfo p).virtAddr)
  control : ∀ b ∈ h.live, ∀ p ∈ h.slabs, b.extent.Apart ((h.memInfo p).control p)

/-! ## Where the slabs are -/

structure DevMemInfo.Mapped (info : DevMemInfo) (p : ℕ) : Prop where
  pos : 0 < p
  page : p % ctrlPageSize = 0
  bounded : info.virtAddr + info.size ≤ 2 ^ 64
  /-- A slab of units begins with its control block and has its size and its alignment. -/
  units : info.type ≠ .large → info.virtAddr = p ∧ info.size = slabSize ∧ slabSize ∣ info.phyAddr.toNat
  large : info.type = .large → Extent.Apart info.extent ⟨p, ctrlPageSize⟩

structure Layout (memInfo : ℕ → DevMemInfo) (slabs : List ℕ) (slabList : U64 → List ℕ) : Prop where
  nodup : slabs.Nodup
  mapped : ∀ p ∈ slabs, (memInfo p).Mapped p
  apart : ∀ p ∈ slabs, ∀ q ∈ slabs, p ≠ q → ∀ m ∈ (memInfo p).mappings p, ∀ n ∈ (memInfo q).mappings q, m.Apart n
  chain_nodup : ∀ key, (slabList key).Nodup
  chain_mem : ∀ key, ∀ p ∈ slabList key, p ∈ slabs ∧ getKey (memInfo p).phyAddr = key

lemma DevMemInfo.extent_mem_mappings (info : DevMemInfo) (p : ℕ) : info.extent ∈ info.mappings p := by
  unfold DevMemInfo.mappings
  split
  · exact mem_cons_of_mem _ (mem_singleton_self _)
  · exact mem_singleton_self _

lemma DevMemInfo.Mapped.control_within {p : ℕ} (h : info.Mapped p) :
    ∃ m ∈ info.mappings p, (info.control p).Within m := by
  unfold DevMemInfo.mappings DevMemInfo.control
  by_cases htype : info.type = .large
  · rw [if_pos htype, if_pos htype]
    refine ⟨_, mem_cons_self, Nat.le_refl _, Nat.add_le_add_left ?_ p⟩
    show sizeofDevMemInfo ≤ ctrlPageSize
    decide
  · obtain ⟨hvirt, hsize, -⟩ := h.units htype
    rw [if_neg htype, if_neg htype, hvirt, hsize]
    refine ⟨_, mem_singleton_self _, Nat.le_refl _, Nat.add_le_add_left ?_ p⟩
    show sizeofBlockCtrl ≤ slabSize
    decide

namespace Layout

lemma perm (h : Layout memInfo slabs slabList) (hperm : slabs.Perm slabs') : Layout memInfo slabs' slabList := by
  refine ⟨hperm.nodup_iff.mp h.nodup, fun p hp => h.mapped p (hperm.mem_iff.mpr hp), ?_, h.chain_nodup, ?_⟩
  · intro p hp q hq
    exact h.apart p (hperm.mem_iff.mpr hp) q (hperm.mem_iff.mpr hq)
  · intro key p hp
    obtain ⟨hmem, hkey⟩ := h.chain_mem key p hp
    exact ⟨hperm.mem_iff.mp hmem, hkey⟩

lemma extent_apart (h : Layout memInfo slabs slabList) (hp : p ∈ slabs) (hq : q ∈ slabs)
    (hne : p ≠ q) : (memInfo p).extent.Apart (memInfo q).extent :=
  h.apart p hp q hq hne _ (DevMemInfo.extent_mem_mappings _ _) _ (DevMemInfo.extent_mem_mappings _ _)

lemma remove (h : Layout memInfo (p :: slabs) slabList) :
    Layout memInfo slabs (update slabList (getKey (memInfo p).phyAddr)
      ((slabList (getKey (memInfo p).phyAddr)).erase p)) := by
  obtain ⟨hp, hnodup⟩ := nodup_cons.mp h.nodup
  refine ⟨hnodup, fun q hq => h.mapped q (mem_cons_of_mem p hq), ?_, ?_, ?_⟩
  · intro q hq r hr
    exact h.apart q (mem_cons_of_mem p hq) r (mem_cons_of_mem p hr)
  · exact (forall_update_iff _ fun _ => Nodup).mpr ⟨(h.chain_nodup _).erase p, fun key _ => h.chain_nodup key⟩
  · refine (forall_update_iff slabList fun key l => ∀ q ∈ l, q ∈ slabs ∧ getKey (memInfo q).phyAddr = key).mpr
      ⟨fun q hq => ?_, fun key hne q hq => ?_⟩
    · rw [(h.chain_nodup _).mem_erase_iff] at hq
      obtain ⟨hmem, hkey⟩ := h.chain_mem _ q hq.2
      exact ⟨(mem_cons.mp hmem).resolve_left hq.1, hkey⟩
    · obtain ⟨hmem, hkey⟩ := h.chain_mem key q hq
      refine ⟨(mem_cons.mp hmem).resolve_left ?_, hkey⟩
      rintro rfl
      exact hne hkey.symm

lemma add (h : Layout memInfo slabs slabList) (hp : p ∉ slabs) (hmapped : info.Mapped p)
    (hapart : ∀ m ∈ info.mappings p, ∀ q ∈ slabs, ∀ n ∈ (memInfo q).mappings q, m.Apart n) :
    Layout (update memInfo p info) (p :: slabs)
      (update slabList (getKey info.phyAddr) (p :: slabList (getKey info.phyAddr))) := by
  have hold : ∀ q ∈ slabs, update memInfo p info q = memInfo q := by
    intro q hq
    apply update_of_ne
    rintro rfl
    exact hp hq
  have hnew : update memInfo p info p = info := update_self _ _ _
  have hchain : ∀ key, p ∉ slabList key := fun key hmem => hp (h.chain_mem key p hmem).1
  refine ⟨nodup_cons.mpr ⟨hp, h.nodup⟩, ?_, ?_, ?_, ?_⟩
  · intro q hq
    rcases mem_cons.mp hq with rfl | hq
    · rwa [hnew]
    · rw [hold q hq]
      exact h.mapped q hq
  · intro q hq r hr hne m hm n hn
    rcases mem_cons.mp hq with rfl | hq₁ <;> rcases mem_cons.mp hr with rfl | hr₁
    · exact absurd rfl hne
    · rw [hnew] at hm
      rw [hold r hr₁] at hn
      exact hapart m hm r hr₁ n hn
    · rw [hold q hq₁] at hm
      rw [hnew] at hn
      exact (hapart n hn q hq₁ m hm).symm
    · rw [hold q hq₁] at hm
      rw [hold r hr₁] at hn
      exact h.apart q hq₁ r hr₁ hne m hm n hn
  · exact (forall_update_iff _ fun _ => Nodup).mpr
      ⟨nodup_cons.mpr ⟨hchain _, h.chain_nodup _⟩, fun key _ => h.chain_nodup key⟩
  · have hkept : ∀ key, ∀ q ∈ slabList key, q ∈ p :: slabs ∧ getKey (update memInfo p info q).phyAddr = key := by
      intro key q hq
      obtain ⟨hmem, hkey⟩ := h.chain_mem key q hq
      rw [hold q hmem]
      exact ⟨mem_cons_of_mem p hmem, hkey⟩
    refine (forall_update_iff slabList fun key l => ∀ q ∈ l, q ∈ p :: slabs ∧ getKey (update memInfo p info q).phyAddr = key).mpr
      ⟨?_, fun key _ => hkept key⟩
    refine forall_mem_cons.mpr ⟨⟨mem_cons_self, ?_⟩, hkept _⟩
    rw [hnew]

end Layout

/-! ## What is in a slab -/

/-- A slab of units has the blocks `bs`, and the blocks of the caller in it are among them. -/
structure UnitSlab (live : List Block) (info : DevMemInfo) (allocations : U32)
    (ctrl : BlockCtrl) (bs : List ℕ) : Prop where
  type : info.type ≠ .large
  inv : SlabInv ctrl bs
  count : allocations.toNat = bs.length
  /-- A block of the caller that lies here is one of them, and was not made too small. -/
  placed : ∀ b ∈ live, info.extent.Has b.addr →
    ∃ f ∈ bs, b.addr = info.virtAddr + f * unitSize ∧ b.size ≤ ctrl.units f * unitSize ∧
      b.align ∣ info.phyAddr.toNat + f * unitSize

structure LargeSlab (live : List Block) (info : DevMemInfo) : Prop where
  type : info.type = .large
  placed : ∀ b ∈ live, info.extent.Has b.addr →
    b.addr = info.virtAddr ∧ b.size ≤ info.size ∧ b.align ∣ info.phyAddr.toNat

lemma UnitSlab.frame (h : UnitSlab live info allocations ctrl bs)
    (hlive : ∀ b ∈ live', info.extent.Has b.addr → b ∈ live) : UnitSlab live' info allocations ctrl bs :=
  { h with placed := fun b hb hhas => h.placed b (hlive b hb hhas) hhas }

lemma LargeSlab.frame (h : LargeSlab live info)
    (hlive : ∀ b ∈ live', info.extent.Has b.addr → b ∈ live) : LargeSlab live' info :=
  ⟨h.type, fun b hb hhas => h.placed b (hlive b hb hhas) hhas⟩

lemma SlabInv.apart (h : SlabInv ctrl bs) {f g : ℕ} (hf : f ∈ bs)
    (hg : g ∈ bs) (hne : f ≠ g) : f + ctrl.units f ≤ g ∨ g + ctrl.units g ≤ f := by
  obtain ⟨-, hposf, -⟩ := h.inside f hf
  obtain ⟨-, hposg, -⟩ := h.inside g hg
  by_contra hcross
  rcases Nat.le_total f g with hle | hle
  · exact hne (h.disjoint f hf g hg g ⟨hle, by omega⟩ ⟨Nat.le_refl g, by omega⟩)
  · exact hne (h.disjoint f hf g hg f ⟨Nat.le_refl f, by omega⟩ ⟨hle, by omega⟩)

/-- A block fits into a slab: it is within it, has its alignment and is apart from the control
area. -/
structure Block.Fits (b : Block) (p : ℕ) (info : DevMemInfo) : Prop where
  within : b.extent.Within info.extent
  aligned : b.align ∣ info.phyAddr.toNat + (b.addr - info.virtAddr)
  control : b.extent.Apart (info.control p)

lemma UnitSlab.fits (h : UnitSlab live info allocations ctrl bs) (hmapped : info.Mapped p)
    (hb : b ∈ live) (hhas : info.extent.Has b.addr) : b.Fits p info := by
  obtain ⟨f, hf, haddr, hsize, halign⟩ := h.placed b hb hhas
  obtain ⟨hres, -, hend⟩ := h.inv.inside f hf
  obtain ⟨hvirt, hlen, -⟩ := hmapped.units h.type
  have hctrl : sizeofBlockCtrl ≤ 5 * 1024 := by decide
  rw [reserved_eq] at hres
  unfold bitmapLen at hend
  unfold slabSize at hlen
  refine ⟨?_, ?_, ?_⟩
  · unfold unitSize at haddr hsize
    simp only [Extent.Within, Block.extent, DevMemInfo.extent]
    omega
  · rwa [haddr, Nat.add_sub_cancel_left]
  · unfold unitSize at haddr
    refine Or.inr ?_
    rw [DevMemInfo.control, if_neg h.type]
    show p + sizeofBlockCtrl ≤ b.addr
    omega

lemma UnitSlab.apart (h : UnitSlab live info allocations ctrl bs) (hb : b ∈ live) (hc : c ∈ live)
    (hhasb : info.extent.Has b.addr) (hhasc : info.extent.Has c.addr) (hne : b.addr ≠ c.addr) :
    b.extent.Apart c.extent := by
  obtain ⟨f, hf, haddrb, hsizeb, -⟩ := h.placed b hb hhasb
  obtain ⟨g, hg, haddrc, hsizec, -⟩ := h.placed c hc hhasc
  have hfg : f ≠ g := by
    rintro rfl
    exact hne (haddrb.trans haddrc.symm)
  simp only [unitSize, Extent.Apart, Block.extent] at *
  rcases h.inv.apart hf hg hfg with hle | hle <;> omega

lemma LargeSlab.fits (h : LargeSlab live info) (hmapped : info.Mapped p) (hb : b ∈ live)
    (hhas : info.extent.Has b.addr) : b.Fits p info := by
  obtain ⟨haddr, hsize, halign⟩ := h.placed b hb hhas
  have hwithin : b.extent.Within info.extent := by
    simp only [Extent.Within, Block.extent, DevMemInfo.extent]
    omega
  refine ⟨hwithin, ?_, ?_⟩
  · rwa [haddr, Nat.sub_self, Nat.add_zero]
  · refine (hmapped.large h.type).of_within hwithin ⟨Nat.le_refl p, Nat.add_le_add_left ?_ p⟩
    show (if info.type = .large then sizeofDevMemInfo else sizeofBlockCtrl) ≤ ctrlPageSize
    rw [if_pos h.type]
    decide

/-! ## The invariant -/

/-- The slab `p` has the blocks `bs`. -/
abbrev Heap.Units (h : Heap) (p : ℕ) (bs : List ℕ) : Prop :=
  UnitSlab h.live (h.memInfo p) (h.allocations p) (h.blockCtrl p) bs

/-- The invariant, where the slabs `held` are in the hash and in no list. -/
structure HeapInv (h : Heap) (held : List ℕ) : Prop where
  closed : h.fd = false → h.live = []
  layout : Layout h.memInfo (held ++ h.slabs) h.slabList
  units : ∀ p ∈ h.userMemList, ∃ bs, h.Units p bs
  cached : ∀ p ∈ h.userCache, h.Units p []
  large : ∀ p ∈ h.userLargeMemList, LargeSlab h.live (h.memInfo p)
  placed : ∀ b ∈ h.live, 0 < b.size ∧ ∃ p ∈ h.slabs, (h.memInfo p).extent.Has b.addr
  distinct : h.live.Pairwise fun b c => b.addr ≠ c.addr

lemma Heap.mem_slabs {h : Heap} {p : ℕ} :
    p ∈ h.slabs ↔ p ∈ h.userMemList ∨ p ∈ h.userCache ∨ p ∈ h.userLargeMemList := by
  rw [Heap.slabs, mem_append, mem_append, or_assoc]

/-- Nothing is different in `h'` but the slab `p` and what the caller holds there. -/
structure Elsewhere (p : ℕ) (h h' : Heap) : Prop where
  memInfo : h'.memInfo = h.memInfo
  slabList : h'.slabList = h.slabList
  blockCtrl : ∀ q, q ≠ p → h'.blockCtrl q = h.blockCtrl q
  allocations : ∀ q, q ≠ p → h'.allocations q = h.allocations q
  userMemList : ∀ q, q ≠ p → q ∈ h'.userMemList → q ∈ h.userMemList
  userCache : ∀ q, q ≠ p → q ∈ h'.userCache → q ∈ h.userCache
  userLargeMemList : ∀ q, q ≠ p → q ∈ h'.userLargeMemList → q ∈ h.userLargeMemList
  live : ∀ b ∈ h'.live, b ∈ h.live ∨ (h.memInfo p).extent.Has b.addr

lemma Elsewhere.refl (p : ℕ) (h : Heap) : Elsewhere p h h :=
  ⟨rfl, rfl, fun _ _ => rfl, fun _ _ => rfl, fun _ _ => id, fun _ _ => id, fun _ _ => id, fun _ => Or.inl⟩

/-- The slab `p` is as it should be, and so is what the caller holds there. -/
structure SlabOk (p : ℕ) (h : Heap) : Prop where
  units : p ∈ h.userMemList → ∃ bs, h.Units p bs
  cached : p ∈ h.userCache → h.Units p []
  large : p ∈ h.userLargeMemList → LargeSlab h.live (h.memInfo p)
  placed : ∀ b ∈ h.live, (h.memInfo p).extent.Has b.addr → 0 < b.size ∧ p ∈ h.slabs

section

variable (hnodup : h.slabs.Nodup)

include hnodup

lemma Heap.lists_disjoint :
    (p ∈ h.userMemList → p ∉ h.userCache ∧ p ∉ h.userLargeMemList) ∧ (p ∈ h.userCache → p ∉ h.userLargeMemList) := by
  obtain ⟨hleft, -, hright⟩ := nodup_append.mp hnodup
  obtain ⟨-, -, hunits⟩ := nodup_append.mp hleft
  refine ⟨fun hp => ⟨fun hq => hunits p hp p hq rfl, fun hq => ?_⟩, fun hp hq => ?_⟩
  · exact hright p (mem_append_left _ hp) p hq rfl
  · exact hright p (mem_append_right _ hp) p hq rfl

lemma SlabOk.of_units (hp : p ∈ h.userMemList) (bs : List ℕ) (hslab : h.Units p bs)
    (hsize : ∀ b ∈ h.live, 0 < b.size) : SlabOk p h := by
  obtain ⟨hcache, hlarge⟩ := (Heap.lists_disjoint hnodup).1 hp
  exact ⟨fun _ => ⟨bs, hslab⟩, fun hq => absurd hq hcache, fun hq => absurd hq hlarge,
    fun b hb _ => ⟨hsize b hb, Heap.mem_slabs.mpr (Or.inl hp)⟩⟩

lemma SlabOk.of_cached (hp : p ∈ h.userCache) (hslab : h.Units p [])
    (hsize : ∀ b ∈ h.live, 0 < b.size) : SlabOk p h := by
  have hunits : p ∉ h.userMemList := fun hq => ((Heap.lists_disjoint hnodup).1 hq).1 hp
  have hlarge := (Heap.lists_disjoint hnodup).2 hp
  exact ⟨fun hq => absurd hq hunits, fun _ => hslab, fun hq => absurd hq hlarge,
    fun b hb _ => ⟨hsize b hb, Heap.mem_slabs.mpr (Or.inr (Or.inl hp))⟩⟩

lemma SlabOk.of_large (hp : p ∈ h.userLargeMemList)
    (hslab : LargeSlab h.live (h.memInfo p)) (hsize : ∀ b ∈ h.live, 0 < b.size) : SlabOk p h := by
  have hunits : p ∉ h.userMemList := fun hq => ((Heap.lists_disjoint hnodup).1 hq).2 hp
  have hcache : p ∉ h.userCache := fun hq => (Heap.lists_disjoint hnodup).2 hq hp
  exact ⟨fun hq => absurd hq hunits, fun hq => absurd hq hcache, fun _ => hslab,
    fun b hb _ => ⟨hsize b hb, Heap.mem_slabs.mpr (Or.inr (Or.inr hp))⟩⟩

end

lemma SlabOk.of_notMem (hp : p ∉ h.slabs) (hhas : ∀ b ∈ h.live, ¬ (h.memInfo p).extent.Has b.addr) : SlabOk p h := by
  rw [Heap.mem_slabs, not_or, not_or] at hp
  exact ⟨fun hq => absurd hq hp.1, fun hq => absurd hq hp.2.1, fun hq => absurd hq hp.2.2,
    fun b hb hb' => absurd hb' (hhas b hb)⟩

namespace HeapInv

section

variable (hinv : HeapInv h held)

include hinv

lemma slabs_nodup : h.slabs.Nodup := (nodup_append.mp hinv.layout.nodup).2.1

lemma size_pos : ∀ b ∈ h.live, 0 < b.size := fun b hb => (hinv.placed b hb).1

lemma slab_cases (hp : p ∈ h.slabs) : (∃ bs, h.Units p bs) ∨ LargeSlab h.live (h.memInfo p) := by
  rcases Heap.mem_slabs.mp hp with hp | hp | hp
  · exact Or.inl (hinv.units p hp)
  · exact Or.inl ⟨[], hinv.cached p hp⟩
  · exact Or.inr (hinv.large p hp)

lemma fits (hb : b ∈ h.live) (hp : p ∈ h.slabs) (hhas : (h.memInfo p).extent.Has b.addr) : b.Fits p (h.memInfo p) := by
  have hmapped := hinv.layout.mapped p (mem_append_right held hp)
  rcases hinv.slab_cases hp with ⟨bs, hslab⟩ | hslab
  all_goals exact hslab.fits hmapped hb hhas

lemma apart_in_slab (hb : b ∈ h.live) (hc : c ∈ h.live) (hp : p ∈ h.slabs)
    (hhasb : (h.memInfo p).extent.Has b.addr) (hhasc : (h.memInfo p).extent.Has c.addr)
    (hne : b.addr ≠ c.addr) : b.extent.Apart c.extent := by
  rcases hinv.slab_cases hp with ⟨bs, hslab⟩ | hslab
  · exact hslab.apart hb hc hhasb hhasc hne
  · obtain ⟨haddrb, -⟩ := hslab.placed b hb hhasb
    obtain ⟨haddrc, -⟩ := hslab.placed c hc hhasc
    exact absurd (haddrb.trans haddrc.symm) hne

/-- **The invariant gives the property.** -/
theorem safe : h.Safe := by
  refine ⟨?_, ?_, ?_⟩
  · refine hinv.distinct.imp_of_mem ?_
    intro b c hb hc hne
    obtain ⟨-, p, hp, hhasb⟩ := hinv.placed b hb
    obtain ⟨-, q, hq, hhasc⟩ := hinv.placed c hc
    by_cases hpq : p = q
    · subst hpq
      exact hinv.apart_in_slab hb hc hp hhasb hhasc hne
    · have hapart := hinv.layout.extent_apart (mem_append_right held hp) (mem_append_right held hq) hpq
      exact hapart.of_within (hinv.fits hb hp hhasb).within (hinv.fits hc hq hhasc).within
  · intro b hb
    obtain ⟨-, p, hp, hhas⟩ := hinv.placed b hb
    have hfits := hinv.fits hb hp hhas
    exact ⟨p, hp, hfits.within, hfits.aligned⟩
  · intro b hb q hq
    obtain ⟨-, p, hp, hhas⟩ := hinv.placed b hb
    have hfits := hinv.fits hb hp hhas
    by_cases hpq : p = q
    · subst hpq
      exact hfits.control
    · obtain ⟨m, hm, hctrl⟩ := (hinv.layout.mapped q (mem_append_right held hq)).control_within
      have hapart := hinv.layout.apart p (mem_append_right held hp) q
        (mem_append_right held hq) hpq _ (DevMemInfo.extent_mem_mappings _ _) m hm
      exact hapart.of_within hfits.within hctrl

/-- **One slab changes.** If everything else stays as it is, only that slab has to be looked at. -/
theorem update (helse : Elsewhere p h h') (hok : SlabOk p h') (hp : p ∈ held ++ h.slabs) (hheld : ∀ q ∈ held', q = p)
    (hperm : (held ++ h.slabs).Perm (held' ++ h'.slabs)) (hclosed : h'.fd = false → h'.live = [])
    (hdistinct : h'.live.Pairwise fun b c => b.addr ≠ c.addr) : HeapInv h' held' := by
  -- another slab does not see what the caller has got
  have hframe : ∀ q ∈ h'.slabs, q ≠ p → ∀ b ∈ h'.live, (h.memInfo q).extent.Has b.addr → b ∈ h.live := by
    intro q hq hne b hb hhas
    refine (helse.live b hb).resolve_right ?_
    exact (hinv.layout.extent_apart (hperm.mem_iff.mpr (mem_append_right held' hq)) hp hne).not_has hhas
  have hunits : ∀ q ∈ h'.slabs, q ≠ p → ∀ bs, h.Units q bs → h'.Units q bs := by
    intro q hq hne bs hslab
    rw [Heap.Units, helse.memInfo, helse.blockCtrl q hne, helse.allocations q hne]
    exact hslab.frame (hframe q hq hne)
  refine ⟨hclosed, ?_, ?_, ?_, ?_, ?_, hdistinct⟩
  · rw [helse.memInfo, helse.slabList]
    exact hinv.layout.perm hperm
  · intro q hq
    by_cases hne : q = p
    · exact hne ▸ hok.units (hne ▸ hq)
    · exact (hinv.units q (helse.userMemList q hne hq)).imp (hunits q (Heap.mem_slabs.mpr (Or.inl hq)) hne)
  · intro q hq
    by_cases hne : q = p
    · exact hne ▸ hok.cached (hne ▸ hq)
    · exact hunits q (Heap.mem_slabs.mpr (Or.inr (Or.inl hq))) hne [] (hinv.cached q (helse.userCache q hne hq))
  · intro q hq
    by_cases hne : q = p
    · exact hne ▸ hok.large (hne ▸ hq)
    · rw [helse.memInfo]
      exact (hinv.large q (helse.userLargeMemList q hne hq)).frame
        (hframe q (Heap.mem_slabs.mpr (Or.inr (Or.inr hq))) hne)
  · intro b hb
    by_cases hhas : (h.memInfo p).extent.Has b.addr
    · rw [← helse.memInfo] at hhas
      obtain ⟨hsize, hmem⟩ := hok.placed b hb hhas
      exact ⟨hsize, p, hmem, hhas⟩
    · obtain ⟨hsize, q, hq, hhasq⟩ := hinv.placed b ((helse.live b hb).resolve_right hhas)
      refine ⟨hsize, q, ?_, helse.memInfo ▸ hhasq⟩
      refine (mem_append.mp (hperm.mem_iff.mp (mem_append_right held hq))).resolve_left ?_
      intro hmem
      exact hhas (hheld q hmem ▸ hhasq)

/-- **A slab gets a block for the caller,** who holds nothing yet at its address. -/
theorem hand (helse : Elsewhere p h h') (hok : SlabOk p (h'.hand b))
    (hp : p ∈ held ++ h.slabs) (hperm : (held ++ h.slabs).Perm h'.slabs) (hfd : h'.fd = true)
    (hlive : h'.live = h.live) (hhas : (h.memInfo p).extent.Has b.addr)
    (hne : ∀ c ∈ h.live, c.addr ≠ b.addr) : HeapInv (h'.hand b) [] := by
  refine hinv.update (p := p) ?_ hok hp (by simp) hperm ?_ ?_
  · exact { helse with live := forall_mem_cons.mpr ⟨Or.inr hhas, helse.live⟩ }
  · intro hclosed
    exact absurd (hfd.symm.trans hclosed) Bool.noConfusion
  · refine pairwise_cons.mpr ⟨?_, ?_⟩
    · rw [hlive]
      exact fun c hc => (hne c hc).symm
    · rw [hlive]
      exact hinv.distinct

end

lemma not_has_of_held (hinv : HeapInv h [p]) (hb : b ∈ h.live) : ¬ (h.memInfo p).extent.Has b.addr := by
  obtain ⟨-, q, hq, hhas⟩ := hinv.placed b hb
  have hne : q ≠ p := by
    rintro rfl
    exact (nodup_cons.mp hinv.layout.nodup).1 hq
  exact (hinv.layout.extent_apart (mem_cons_of_mem p hq) mem_cons_self hne).not_has hhas

lemma freeSlab (hinv : HeapInv h [p]) : HeapInv (freeSlab h p) [] := by
  unfold Usdm.freeSlab delSlabFromHash
  dsimp only
  split
  all_goals exact { hinv with layout := hinv.layout.remove }

lemma addSlab (hinv : HeapInv h []) (hp : p ∉ h.slabs) (hmapped : info.Mapped p)
    (hapart : ∀ m ∈ info.mappings p, ∀ q ∈ h.slabs, ∀ n ∈ (h.memInfo q).mappings q, m.Apart n) :
    HeapInv (addSlabToHash (h.newSlab p info) p) [p] := by
  have hne : ∀ q ∈ h.slabs, q ≠ p := by
    rintro q hq rfl
    exact hp hq
  have hnew : (h.newSlab p info).memInfo p = info := update_self _ _ _
  have hold : ∀ q ∈ h.slabs, (h.newSlab p info).memInfo q = h.memInfo q ∧
      (h.newSlab p info).allocations q = h.allocations q ∧ (h.newSlab p info).blockCtrl q = h.blockCtrl q := by
    intro q hq
    exact ⟨update_of_ne (hne q hq) _ _, update_of_ne (hne q hq) _ _, update_of_ne (hne q hq) _ _⟩
  unfold addSlabToHash
  rw [hnew]
  refine ⟨hinv.closed, hinv.layout.add hp hmapped hapart, ?_, ?_, ?_, ?_, hinv.distinct⟩
  · intro q hq
    obtain ⟨hinfo, halloc, hctrl⟩ := hold q (Heap.mem_slabs.mpr (Or.inl hq))
    simp only [Heap.Units, hinfo, halloc, hctrl]
    exact hinv.units q hq
  · intro q hq
    obtain ⟨hinfo, halloc, hctrl⟩ := hold q (Heap.mem_slabs.mpr (Or.inr (Or.inl hq)))
    simp only [Heap.Units, hinfo, halloc, hctrl]
    exact hinv.cached q hq
  · intro q hq
    rw [(hold q (Heap.mem_slabs.mpr (Or.inr (Or.inr hq)))).1]
    exact hinv.large q hq
  · intro b hb
    obtain ⟨hsize, q, hq, hhas⟩ := hinv.placed b hb
    refine ⟨hsize, q, hq, ?_⟩
    rwa [(hold q hq).1]

lemma forget (hinv : HeapInv h held) {live : List Block} (hsub : live.Sublist h.live) :
    HeapInv { h with live := live } held := by
  refine ⟨?_, hinv.layout, ?_, ?_, ?_, fun b hb => hinv.placed b (hsub.subset hb), hinv.distinct.sublist hsub⟩
  · intro hfd
    exact sublist_nil.mp (hinv.closed hfd ▸ hsub)
  · intro q hq
    obtain ⟨bs, hslab⟩ := hinv.units q hq
    exact ⟨bs, hslab.frame fun b hb _ => hsub.subset hb⟩
  · intro q hq
    exact (hinv.cached q hq).frame fun b hb _ => hsub.subset hb
  · intro q hq
    exact (hinv.large q hq).frame fun b hb _ => hsub.subset hb

end HeapInv

end QuickAssist.Usdm
