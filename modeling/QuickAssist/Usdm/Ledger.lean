import QuickAssist.Usdm.FirstFit
import QuickAssist.Usdm.Lookup
import QuickAssist.Usdm.Process
import Mathlib.Algebra.BigOperators.Group.List.Basic
import Mathlib.Data.List.Nodup

/-!
# Every slab is in one list, and the cache knows its size

`Ledger` says that what was obtained and not given back is what is in the lists and what a function has in its hands,
as a permutation, and that `g_cache_size` is the sum over the cache. Every function of the heap is a move between these
columns.

**The defect** is that of the blocks: a size of `2 ^ 64 - 1` bytes needs no units, so a slab can have `2 ^ 32` of such
blocks and more, and the count of its blocks is 0 while there are some. The slab goes into the cache, and when the
others are freed the count passes 0 once more (`slab_cached_twice`).
-/

namespace QuickAssist.Usdm

open Lib List
open BitVec (ofNat ofNat_add)

variable {h h' : Heap} {a : Answers} {node : ℤ} {s s' : Process} {getpid blocks : ℕ} {b : Block}

/-! ## The columns -/

def Heap.sizes (h : Heap) (slabs : List ℕ) : ℕ := (slabs.map fun p => (h.memInfo p).size).sum

/-- What was obtained and not given back is in the lists, or held by a function, and the size of the cache
is known. -/
structure Ledger (h : Heap) (held : List ℕ) : Prop where
  granted : h.granted.Perm (held ++ h.slabs)
  cacheSize : h.cacheSize.toNat = h.sizes h.userCache
  bounded : h.cacheSize.toNat ≤ maxCache.toNat

namespace Ledger

lemma of_empty (hgranted : h.granted = []) (hslabs : h.slabs = []) (hcache : h.cacheSize = 0) : Ledger h [] := by
  have huser : h.userCache = [] := by
    rw [Heap.slabs, append_eq_nil_iff, append_eq_nil_iff] at hslabs
    exact hslabs.1.2
  refine ⟨?_, ?_, ?_⟩
  · rw [hgranted, hslabs]
    exact List.Perm.refl _
  · rw [hcache, huser]
    rfl
  · rw [hcache]
    exact Nat.zero_le _

lemma cache_shift {x y : Heap × List ℕ} (hl : Ledger x.1 x.2) (hshift : Shift x y) :
    y.1.cacheSize.toNat = y.1.sizes y.1.userCache ∧ y.1.cacheSize.toNat ≤ maxCache.toNat := by
  have hcache := hl.cacheSize
  have hbounded := hl.bounded
  cases hshift with
  | @pop h p hp =>
    have hsum : (h.memInfo p).size + h.sizes (h.userCache.erase p) = h.sizes h.userCache :=
      sum_map_erase (fun p => (h.memInfo p).size) hp
    dsimp only at hcache hbounded
    have hsize : (ofNat 64 (h.memInfo p).size).toNat = (h.memInfo p).size := Nat.mod_eq_of_lt (by omega)
    have hsub : (h.cacheSize - ofNat 64 (h.memInfo p).size).toNat = h.sizes (h.userCache.erase p) := by
      rw [BitVec.toNat_sub_of_le (BitVec.le_def.mpr (by omega)), hsize]
      omega
    refine ⟨hsub, ?_⟩
    show (h.cacheSize - ofNat 64 (h.memInfo p).size).toNat ≤ maxCache.toNat
    omega
  | @push h p hsize hroom =>
    refine ⟨?_, hroom⟩
    show (h.cacheSize + ofNat 64 (h.memInfo p).size).toNat = (h.memInfo p).size + h.sizes h.userCache
    rw [hsize, BitVec.toNat_add, ← hcache, Nat.add_comm slabSize]
    exact Nat.mod_eq_of_lt (Nat.lt_of_le_of_lt (Nat.add_le_add_right hbounded slabSize) (by decide))
  | _ => exact ⟨hcache, hbounded⟩

/-- **What one move does.** -/
theorem move {x y : Heap × List ℕ} (hl : Ledger x.1 x.2) (hmove : Move a (fun h p _ => p ∉ h.slabs) x y) :
    Ledger y.1 y.2 := by
  cases hmove with
  | shift hshift =>
    obtain ⟨hcache, hbounded⟩ := hl.cache_shift hshift
    refine ⟨?_, hcache, hbounded⟩
    rw [hshift.same.2]
    exact hl.granted.trans hshift.perm
  | @add h p info strictNode numHugepages hp =>
    refine ⟨hl.granted.cons p, hl.cacheSize.trans ?_, hl.bounded⟩
    show h.sizes h.userCache = (h.userCache.map fun q => (Function.update h.memInfo p info q).size).sum
    unfold Heap.sizes
    congr 1
    apply map_congr_left
    intro q hq
    have hne : q ≠ p := by
      rintro rfl
      exact hp (Heap.mem_slabs.mpr (Or.inr (Or.inl hq)))
    rw [Function.update_of_ne hne]
  | @free h p =>
    obtain ⟨hunits, hcache, hlarge, hgranted, hsize, hinfo⟩ := freeSlab_lists h p
    refine ⟨?_, ?_, ?_⟩
    · have herase := hl.granted.erase p
      rw [singleton_append, erase_cons_head] at herase
      rw [hgranted, nil_append, slabs_freeSlab]
      exact herase
    · rw [hsize, Heap.sizes, hcache, hinfo]
      exact hl.cacheSize
    · rw [hsize]
      exact hl.bounded

lemma of_moves (hl : Ledger h []) (hmoves : Moves a (fun h p _ => p ∉ h.slabs) (h, []) (h', []))
    (live : List Block) : Ledger { h' with live := live } [] := by
  have hl' : Ledger h' [] := hmoves.invariant (I := fun x => Ledger x.1 x.2) (fun _ _ hl hmove => hl.move hmove) hl
  exact { hl' with }

/-- **Allocating a block.** -/
theorem qaeMemAllocNUMA (hl : Ledger h []) (hinv : HeapInv h []) (hfd : h.fd = true)
    {size align : U64} (hwrap : size.toNat + 1023 < 2 ^ 64)
    (hpossible : Event.Possible ⟨.alloc size node align, a⟩ h) : Ledger (qaeMemAllocNUMA h a size node align) [] := by
  rcases qaeMemAllocNUMA_eq h a size node align with heq | ⟨haccepted, live, heq⟩
  · rw [heq]
    exact hl
  · have hreq := haccepted.request hwrap
    have hmoves : Moves a (fun h p _ => p ∉ h.slabs) (_, []) (_, []) :=
      moves_allocAddr fun h₁ type allocatePages hlookup p info hmapped => by
        obtain ⟨hinv₁, -, hasks⟩ := hinv.ask hreq hlookup
        exact (hinv₁.mapped (hpossible _ _ _ hlookup) hreq hasks hmapped).1.notMem_slabs
    rw [qaeOpenFd_of_open hfd] at hmoves
    rw [heq]
    exact hl.of_moves hmoves live

/-- **Freeing a block.** -/
theorem qaeMemFreeNUMA (hl : Ledger h []) (hinv : HeapInv h []) (hb : b ∈ h.live) :
    Ledger (qaeMemFreeNUMA h a b.addr) [] := by
  obtain ⟨h₁, live, hmoves, heq⟩ := hinv.moves_free hb
  rw [heq]
  exact hl.of_moves hmoves live

end Ledger

/-! ## Destroying -/

lemma userCache_of_popSlab_none (hpop : popSlab h (-1) = none) : h.userCache = [] := by
  cases hcache : h.userCache with
  | nil => rfl
  | cons p rest =>
    unfold popSlab at hpop
    rw [hcache, List.find?_cons_of_pos (by simp)] at hpop
    cases hpop

/-- **The cache is emptied**, in as many rounds as it has slabs. -/
theorem resetCache_spec (rounds : ℕ) (hinv : HeapInv h []) (hl : Ledger h [])
    (hrounds : h.userCache.length ≤ rounds) :
    HeapInv (resetCache rounds h) [] ∧ Ledger (resetCache rounds h) [] ∧ (resetCache rounds h).userCache = [] := by
  induction rounds generalizing h with
  | zero => exact ⟨hinv, hl, length_eq_zero_iff.mp (Nat.le_zero.mp hrounds)⟩
  | succ rounds ih =>
    unfold resetCache
    cases hpop : popSlab h (-1) with
    | none => exact ⟨hinv, hl, userCache_of_popSlab_none hpop⟩
    | some popped =>
      obtain ⟨p, h₁⟩ := popped
      obtain ⟨hp, rfl⟩ := popSlab_eq_some hpop
      have hl₁ : Ledger (h.uncache p) [p] := hl.move (a := refusing) (.shift (.pop hp))
      refine ih (hinv.pop hp _).freeSlab (hl₁.move (a := refusing) .free) ?_
      rw [(freeSlab_lists _ p).2.1, Heap.uncache, length_erase_of_mem hp]
      omega

structure Owned (h : Heap) (slabs : List ℕ) : Prop where
  granted : h.granted.Perm slabs
  layout : Layout h.memInfo slabs h.slabList

lemma Owned.freeSlab {p : ℕ} {slabs : List ℕ} (howned : Owned h (p :: slabs)) : Owned (freeSlab h p) slabs := by
  have herased : (h.granted.erase p).Perm slabs := by
    have herase := howned.granted.erase p
    rwa [erase_cons_head] at herase
  unfold Usdm.freeSlab delSlabFromHash
  dsimp only
  split <;> exact ⟨herased, howned.layout.remove⟩

/-- **A list is given back.** -/
theorem Owned.destroyList {slabs rest : List ℕ} (howned : Owned h (slabs ++ rest)) :
    Owned (destroyList h slabs) rest ∧ (destroyList h slabs).cacheSize = h.cacheSize ∧
      (destroyList h slabs).userLargeMemList = h.userLargeMemList := by
  induction slabs generalizing h with
  | nil => exact ⟨howned, rfl, rfl⟩
  | cons p slabs ih =>
    obtain ⟨hrest, hcache, hlarge⟩ := ih howned.freeSlab
    obtain ⟨-, -, hlarge', -, hcache', -⟩ := freeSlab_lists h p
    exact ⟨hrest, hcache.trans hcache', hlarge.trans hlarge'⟩

lemma Owned.empty (howned : Owned h []) : h.granted = [] ∧ h.slabList = fun _ => [] := by
  refine ⟨perm_nil.mp howned.granted, ?_⟩
  funext key
  apply eq_nil_iff_forall_not_mem.mpr
  intro p hp
  exact not_mem_nil (howned.layout.chain_mem key p hp).1

/-- **Everything is given back**, and nothing is left. -/
theorem destroy_spec (hinv : HeapInv h []) (hl : Ledger h []) :
    HeapInv h.destroy [] ∧ Ledger h.destroy [] ∧ h.destroy.slabs = [] := by
  unfold Heap.destroy Heap.giveBackAll
  dsimp only
  have hinv₀ : HeapInv { h with pageTable := fun _ => 0, stored := [] } [] :=
    hinv.reconfigure h.strictNode h.numHugepages (fun _ => 0) []
  have hl₀ : Ledger { h with pageTable := fun _ => 0, stored := [] } [] := { hl with }
  obtain ⟨hinv₁, hl₁, hcache⟩ := resetCache_spec h.userCache.length hinv₀ hl₀ (Nat.le_refl _)
  generalize resetCache h.userCache.length { h with pageTable := fun _ => 0, stored := [] } = h₁ at *
  have howned : Owned h₁ (h₁.userMemList ++ (h₁.userLargeMemList ++ [])) := by
    have hslabs : h₁.slabs = h₁.userMemList ++ (h₁.userLargeMemList ++ []) := by
      rw [Heap.slabs, hcache, append_nil, append_nil]
    rw [← hslabs]
    exact ⟨hl₁.granted, hinv₁.layout⟩
  have hzero : h₁.cacheSize = 0 := by
    apply BitVec.eq_of_toNat_eq
    rw [hl₁.cacheSize, hcache]
    rfl
  obtain ⟨howned₂, hcache₂, hlarge₂⟩ := howned.destroyList
  rw [hlarge₂]
  obtain ⟨howned₃, hcache₃, -⟩ := howned₂.destroyList
  obtain ⟨hgranted, hhash⟩ := howned₃.empty
  refine ⟨HeapInv.of_empty rfl rfl rfl hhash rfl, Ledger.of_empty hgranted rfl ?_, rfl⟩
  exact hcache₃.trans (hcache₂.trans hzero)

/-! ## Whole runs -/

/-- What is known of a process: its heap is in order, and it has no slabs when the file is closed. -/
structure Process.Sound (s : Process) : Prop where
  inv : HeapInv s.heap []
  ledger : Ledger s.heap []
  closed : s.heap.fd = false → s.heap.slabs = []

lemma qaeOpenFd_of_closed (hfd : h.fd = false) (hgranted : h.granted = []) (hlive : h.live = []) (a : Answers) :
    HeapInv (qaeOpenFd h a).1 [] ∧ Ledger (qaeOpenFd h a).1 [] ∧ (qaeOpenFd h a).1.slabs = [] ∧
      (qaeOpenFd h a).1.slabList = fun _ => [] := by
  unfold qaeOpenFd
  rw [if_neg (Bool.eq_false_iff.mp hfd)]
  split <;> exact ⟨HeapInv.of_empty rfl rfl rfl rfl hlive, Ledger.of_empty hgranted rfl rfl, rfl, rfl⟩

lemma qaeMemFreeNUMA_of_hash_empty {a : Answers} (hfd : h.fd = true) (hlock : a.lock = true)
    (hhash : h.slabList = fun _ => []) (va : ℕ) : qaeMemFreeNUMA h a va = h := by
  have hfind : findSlabInHash h va = none := by
    unfold findSlabInHash
    rw [hhash]
    rfl
  unfold qaeMemFreeNUMA freeAddr
  rw [if_pos hlock, qaeOpenFd_of_open hfd]
  dsimp only
  rw [hfind]

lemma Process.seen_of_open (s : Process) {getpid : ℕ} (hfd : (s.seen getpid).fd = true) : s.seen getpid = s.heap := by
  unfold Process.seen at hfd ⊢
  split
  · rfl
  · rename_i hpid
    rw [if_neg hpid] at hfd
    cases hfd

namespace Process.Sound

section

variable (hs : s.Sound)

include hs

/-- A process that opens the file has no slabs and holds no blocks: its own are given back, and those
of its parent are not handed down. -/
lemma seen (hfd : (s.seen getpid).fd = false) : (s.seen getpid).granted = [] ∧ (s.seen getpid).live = [] := by
  unfold Process.seen at hfd ⊢
  split
  · rename_i hpid
    rw [if_pos hpid] at hfd
    have hgranted := hs.ledger.granted
    rw [hs.closed hfd] at hgranted
    exact ⟨perm_nil.mp hgranted, hs.inv.closed hfd⟩
  · exact ⟨rfl, rfl⟩

lemma qaeOpenFd : (s.qaeOpenFd getpid a).1.Sound := by
  cases hfd : (s.seen getpid).fd with
  | false =>
    obtain ⟨hgranted, hlive⟩ := hs.seen hfd
    obtain ⟨hinv, hl, hslabs, -⟩ := qaeOpenFd_of_closed hfd hgranted hlive a
    exact ⟨hinv, hl, fun _ => hslabs⟩
  | true =>
    have hheap : (s.qaeOpenFd getpid a).1.heap = s.heap := by
      show (Usdm.qaeOpenFd (s.seen getpid) a).1 = s.heap
      rw [qaeOpenFd_of_open hfd]
      exact s.seen_of_open hfd
    exact ⟨hheap ▸ hs.inv, hheap ▸ hs.ledger, hheap ▸ hs.closed⟩

lemma qaeMemAllocNUMA {size align : U64} {node : ℤ} (hwrap : size.toNat + 1023 < 2 ^ 64)
    (hpossible : s.Possible ⟨.alloc size node align, getpid, a⟩) :
    (s.qaeMemAllocNUMA getpid a size node align).Sound := by
  unfold Process.qaeMemAllocNUMA
  split
  · have hopened : (s.qaeOpenFd getpid a).1.Sound := hs.qaeOpenFd
    cases hopen : s.qaeOpenFd getpid a with
    | mk s₁ ok =>
      rw [hopen] at hopened
      cases ok with
      | false => exact hopened
      | true =>
        have hfd := Process.fd_of_qaeOpenFd hopen
        have hpossible₁ := hpossible s₁ hopen
        refine ⟨hopened.inv.qaeMemAllocNUMA hwrap hpossible₁,
          hopened.ledger.qaeMemAllocNUMA hopened.inv hfd hwrap hpossible₁, ?_⟩
        intro hclosed
        have hkept := (kept_qaeMemAllocNUMA hfd a size node align).fd
        exact absurd (hclosed.symm.trans (hkept.trans hfd)) Bool.false_ne_true
  · exact hs

lemma qaeMemFreeNUMA (hb : b ∈ s.heap.live) : (s.qaeMemFreeNUMA getpid a b.addr).Sound := by
  unfold Process.qaeMemFreeNUMA
  split
  · rename_i hlock
    have hopened : (s.qaeOpenFd getpid a).1.Sound := hs.qaeOpenFd
    cases hopen : s.qaeOpenFd getpid a with
    | mk s₁ ok =>
      rw [hopen] at hopened
      cases ok with
      | false => exact hopened
      | true =>
        have hfd := Process.fd_of_qaeOpenFd hopen
        have hclosed : (Usdm.qaeMemFreeNUMA s₁.heap a b.addr).fd = false →
            (Usdm.qaeMemFreeNUMA s₁.heap a b.addr).slabs = [] := by
          intro hclosed
          have hkept := (kept_qaeMemFreeNUMA hfd a b.addr).fd
          exact absurd (hclosed.symm.trans (hkept.trans hfd)) Bool.false_ne_true
        obtain ⟨hs₁, -⟩ := Prod.mk.inj hopen
        have hheap : s₁.heap = (Usdm.qaeOpenFd (s.seen getpid) a).1 := by rw [← hs₁]
        cases hseen : (s.seen getpid).fd with
        | true =>
          have hb₁ : b ∈ s₁.heap.live := by
            rw [hheap, live_qaeOpenFd]
            exact (s.seen_of_open hseen).symm ▸ hb
          exact ⟨hopened.inv.qaeMemFreeNUMA hb₁, hopened.ledger.qaeMemFreeNUMA hopened.inv hb₁, hclosed⟩
        | false =>
          obtain ⟨hgranted, hlive⟩ := hs.seen hseen
          obtain ⟨-, -, -, hhash⟩ := qaeOpenFd_of_closed hseen hgranted hlive a
          dsimp only
          rw [qaeMemFreeNUMA_of_hash_empty hfd hlock (hheap ▸ hhash)]
          exact hopened
  · exact ⟨hs.inv.forget eraseP_sublist, { hs.ledger with }, hs.closed⟩

lemma qaeMemDestroy : (s.qaeMemDestroy a).Sound := by
  unfold Process.qaeMemDestroy
  split
  · obtain ⟨hinv, hl, hslabs⟩ := destroy_spec hs.inv hs.ledger
    exact ⟨hinv, hl, fun _ => hslabs⟩
  · exact hs

end

end Process.Sound

/-- Rounding the size up to units does not wrap around. -/
def ProcessEvent.NoWrap (e : ProcessEvent) : Prop :=
  match e.operation with
  | .alloc size _ _ => size.toNat + 1023 < 2 ^ 64
  | _ => True

/-- **What one call does.** -/
theorem processStep_sound {s' : Process} {e : ProcessEvent} (hs : s.Sound)
    (hstep : guarded (fun _ e => e.NoWrap) processStep s e s') : s'.Sound := by
  obtain ⟨hwrap, hpossible, rfl⟩ := hstep
  obtain ⟨operation, getpid, a⟩ := e
  cases operation with
  | init =>
    show (s.qaeMemInit getpid a).Sound
    unfold Process.qaeMemInit
    split
    · exact hs.qaeOpenFd
    · exact hs
  | alloc size node align => exact hs.qaeMemAllocNUMA hwrap hpossible
  | free va =>
    obtain ⟨b, hb, rfl⟩ := hpossible
    exact hs.qaeMemFreeNUMA hb
  | destroy => exact hs.qaeMemDestroy

/-- Every slab that was obtained from the kernel and not given back is in exactly one of the three lists,
and `g_cache_size` is the size of the cache, which is not too large. -/
structure Heap.Accounted (h : Heap) : Prop where
  once : ∀ p ∈ h.granted,
    h.userCache.count p + h.userMemList.count p + h.userLargeMemList.count p = 1
  granted : ∀ p, p ∈ h.userCache ∨ p ∈ h.userMemList ∨ p ∈ h.userLargeMemList → p ∈ h.granted
  cacheSize : h.cacheSize.toNat = (h.userCache.map fun p => (h.memInfo p).size).sum
  bounded : h.cacheSize.toNat ≤ maxCache.toNat

lemma Process.Sound.accounted (hs : s.Sound) : s.heap.Accounted := by
  have hmem : ∀ p, p ∈ s.heap.granted ↔ p ∈ s.heap.slabs := fun p => hs.ledger.granted.mem_iff
  refine ⟨?_, ?_, hs.ledger.cacheSize, hs.ledger.bounded⟩
  · intro p hp
    have hcount := count_eq_one_of_mem hs.inv.slabs_nodup ((hmem p).mp hp)
    rw [Heap.slabs, count_append, count_append] at hcount
    omega
  · intro p hp
    apply (hmem p).mpr
    apply Heap.mem_slabs.mpr
    tauto

/-- **Every slab is in exactly one list, and the cache knows its size,** in every state of a process that
is reached by calls whose sizes do not wrap around. -/
theorem slabs_accounted {es : List ProcessEvent} {s : Process}
    (hrun : Run (guarded (fun _ e => ProcessEvent.NoWrap e) processStep) processInit es s) : s.heap.Accounted := by
  have hinit : processInit.Sound := ⟨HeapInv.of_empty rfl rfl rfl rfl rfl, Ledger.of_empty rfl rfl rfl, fun _ => rfl⟩
  have hsound : s.Sound := hrun.invariant (I := Process.Sound)
    (fun _ _ _ hs hstep => processStep_sound hs hstep) hinit
  exact hsound.accounted

/-- A slab is obtained, goes into the cache when its block is freed, and is given back. -/
theorem cached_slab_accounted : ∃ s s', Run (guarded (fun _ e => ProcessEvent.NoWrap e) processStep) processInit
        [⟨.alloc 1000 0 64, 7, granting⟩, ⟨.free 0x201400, 7, refusing⟩] s ∧
      s.heap.userCache = [0x200000] ∧ s.heap.cacheSize = 0x200000 ∧ s.heap.Accounted ∧
      Run (guarded (fun _ e => ProcessEvent.NoWrap e) processStep) s [⟨.destroy, 7, refusing⟩] s' ∧
      s'.heap.granted = [] := by
  have hpossible : processInit.Possible ⟨.alloc 1000 0 64, 7, granting⟩ := by
    intro s' hopen
    cases hopen
    exact alloc_possible (fun _ => granting_possible) (by decide +kernel)
  have hrun : Run (guarded (fun _ e => ProcessEvent.NoWrap e) processStep) processInit
      [⟨.alloc 1000 0 64, 7, granting⟩, ⟨.free 0x201400, 7, refusing⟩] _ :=
    .cons ⟨show 1000 + 1023 < 2 ^ 64 by decide, hpossible, rfl⟩ <|
    .cons ⟨trivial, ⟨⟨0x201400, 1000, 64⟩, by decide +kernel, rfl⟩, rfl⟩ <| .nil _
  exact ⟨_, _, hrun, by decide +kernel, by decide +kernel, slabs_accounted hrun,
    Run.single ⟨trivial, Or.inl rfl, rfl⟩, by decide +kernel⟩

/-! ## A slab that is in the cache twice -/

/-- A heap with one slab, at `0x200000`, that has only blocks of no units. -/
structure Stuffed (h : Heap) (blocks : ℕ) : Prop where
  fd : h.fd = true
  walker : h.loadKeyHpg = false
  info : h.memInfo 0x200000 = ⟨0, slabSize, .small, 0x40000000, 0x200000⟩
  chain : h.slabList (getKey 0x40000000) = [0x200000]
  entry : h.pageTable (pageIndex false 0x200000) &&& 0xFFF = getKey 0x40000000
  live : h.live = replicate blocks ⟨0x200000, 0xFFFFFFFFFFFFFFFF, 64⟩
  granted : h.granted = [0x200000]

lemma Heap.allocations_setAllocations (h : Heap) (p : ℕ) (n : U32) : (h.setAllocations p n).allocations p = n := by
  exact Function.update_self p n h.allocations

namespace Stuffed

lemma alloc (hst : Stuffed h blocks) (huse : h.userMemList = [0x200000]) :
    ∃ h', qaeMemAllocNUMA h refusing 0xFFFFFFFFFFFFFFFF 0 64 = h' ∧ Stuffed h' (blocks + 1) ∧
      h'.allocations 0x200000 = h.allocations 0x200000 + 1 ∧ h'.userMemList = [0x200000] ∧
      h'.userCache = h.userCache ∧ h'.cacheSize = h.cacheSize := by
  obtain ⟨ctrl, hmem⟩ : ∃ ctrl, memAlloc (h.blockCtrl 0x200000) 0xFFFFFFFFFFFFFFFF 0 = some (0, ctrl) :=
    ⟨_, memAlloc_of_wrap (by decide) (by decide) (by decide)⟩
  have hlookup : userMemLookupBySize h 0xFFFFFFFFFFFFFFFF 0 0 0 h.userMemList = some (0x200000, 0, ctrl) := by
    rw [huse]
    unfold userMemLookupBySize
    rw [hst.info, if_neg fun hnode => hnode.2 rfl, hmem]
  have hfind : findSlab h 0xFFFFFFFFFFFFFFFF 0 0 = (h.setCtrl 0x200000 ctrl, some (0x200000, 0x200000)) := by
    unfold findSlab
    rw [hlookup]
    rfl
  have haddr : allocAddr h refusing 0xFFFFFFFFFFFFFFFF 0 64 =
      ((h.setCtrl 0x200000 ctrl).setAllocations 0x200000 (h.allocations 0x200000 + 1), some 0x200000) := by
    unfold allocAddr allocLookup
    rw [qaeOpenFd_of_open hst.fd]
    dsimp only
    rw [if_neg (by decide), show 64 / unitSize = 0 from rfl, hfind]
    rfl
  have hcall : qaeMemAllocNUMA h refusing 0xFFFFFFFFFFFFFFFF 0 64 =
      ((h.setCtrl 0x200000 ctrl).setAllocations 0x200000 (h.allocations 0x200000 + 1)).hand
        ⟨0x200000, 0xFFFFFFFFFFFFFFFF, 64⟩ := by
    have hsize : (0xFFFFFFFFFFFFFFFF : U64).toNat = 0xFFFFFFFFFFFFFFFF := rfl
    have halign : (64 : U64).toNat = 64 := rfl
    unfold qaeMemAllocNUMA
    rw [if_pos ⟨by decide, rfl⟩, hsize, halign, haddr]
    rfl
  refine ⟨_, hcall, { hst with live := ?_ },
    Heap.allocations_setAllocations (h.setCtrl 0x200000 ctrl) 0x200000 (h.allocations 0x200000 + 1), huse, rfl, rfl⟩
  show _ :: h.live = _
  rw [hst.live, replicate_succ]

lemma free (hst : Stuffed h (blocks + 1)) (huse : h.userMemList.erase 0x200000 = [])
    (hroom : h.cacheSize + ofNat 64 slabSize ≤ maxCache) :
    ∃ h', qaeMemFreeNUMA h refusing 0x200000 = h' ∧ Stuffed h' blocks ∧
      h'.allocations 0x200000 = h.allocations 0x200000 - 1 ∧ (h.allocations 0x200000 - 1 = 0 → h'.userMemList = [] ∧
        h'.userCache = 0x200000 :: h.userCache ∧ h'.cacheSize = h.cacheSize + ofNat 64 slabSize) ∧
      (h.allocations 0x200000 - 1 ≠ 0 → h'.userMemList = h.userMemList ∧
        h'.userCache = h.userCache ∧ h'.cacheSize = h.cacheSize) := by
  have hfind : findSlabInHash h 0x200000 = some 0x200000 := by
    unfold findSlabInHash loadKey
    rw [hst.walker, hst.entry, hst.chain]
    simp only [List.find?_cons, hst.info]
    rfl
  unfold qaeMemFreeNUMA freeAddr
  rw [if_pos (show refusing.lock = true from rfl), qaeOpenFd_of_open hst.fd]
  dsimp only
  rw [hfind]
  dsimp only
  rw [hst.info, if_neg SlabType.noConfusion]
  generalize hh₁ : (h.setCtrl 0x200000 _).setAllocations 0x200000 _ = h₁
  have hcount : h₁.allocations 0x200000 = h.allocations 0x200000 - 1 := by
    rw [← hh₁]
    exact Heap.allocations_setAllocations _ _ _
  have hst₁ : Stuffed h₁ (blocks + 1) := by
    rw [← hh₁]
    exact { hst with }
  have hforget₁ : h₁.live.eraseP (fun b => b.addr = 0x200000) =
      replicate blocks ⟨0x200000, 0xFFFFFFFFFFFFFFFF, 64⟩ := by
    rw [hst₁.live, replicate_succ]
    rfl
  obtain ⟨hmem, hcache, hsize⟩ : h₁.userMemList = h.userMemList ∧ h₁.userCache = h.userCache ∧
      h₁.cacheSize = h.cacheSize := by
    rw [← hh₁]
    exact ⟨rfl, rfl, rfl⟩
  by_cases hzero : h.allocations 0x200000 - 1 = 0
  · rw [if_neg (not_not.mpr (hcount.trans hzero))]
    have hpush : pushSlab { h₁ with userMemList := h₁.userMemList.erase 0x200000 } 0x200000 = some { h₁ with
          userMemList := [], cacheSize := h.cacheSize + ofNat 64 slabSize
          userCache := 0x200000 :: h.userCache } := by
      unfold pushSlab
      rw [hst₁.info, hsize, hmem, huse, hcache]
      exact if_pos hroom
    rw [hpush, Option.getD_some]
    generalize h.cacheSize + ofNat 64 slabSize = cacheSize
    exact ⟨_, rfl, { hst₁ with live := hforget₁ }, hcount, fun _ => ⟨rfl, rfl, rfl⟩, fun hne => absurd hzero hne⟩
  · rw [if_pos fun heq => hzero (hcount.symm.trans heq)]
    exact ⟨_, rfl, { hst₁ with live := hforget₁ },
      hcount, fun heq => absurd heq hzero, fun _ => ⟨hmem, hcache, hsize⟩⟩

end Stuffed

def stuff : ProcessEvent := ⟨.alloc 0xFFFFFFFFFFFFFFFF 0 64, 7, refusing⟩

def unstuff : ProcessEvent := ⟨.free 0x200000, 7, refusing⟩

lemma Process.qaeOpenFd_of_open (h : Heap) (hfd : h.fd = true) (a : Answers) :
    Process.qaeOpenFd ⟨h, 7, false, false⟩ 7 a = (⟨h, 7, false, false⟩, true) := by
  have hseen : Process.seen ⟨h, 7, false, false⟩ 7 = h := if_pos rfl
  unfold Process.qaeOpenFd
  rw [hseen]
  dsimp only
  rw [Usdm.qaeOpenFd_of_open hfd, hfd]
  rfl

lemma run_stuff (n : ℕ) (hst : Stuffed h blocks) (huse : h.userMemList = [0x200000]) :
    ∃ h', Run processStep ⟨h, 7, false, false⟩ (replicate n stuff) ⟨h', 7, false, false⟩ ∧
      Stuffed h' (blocks + n) ∧ h'.allocations 0x200000 = h.allocations 0x200000 + ofNat 32 n ∧
      h'.userMemList = [0x200000] ∧ h'.userCache = h.userCache ∧ h'.cacheSize = h.cacheSize := by
  induction n generalizing h blocks with
  | zero => exact ⟨h, Run.nil _, hst, (BitVec.add_zero _).symm, huse, rfl, rfl⟩
  | succ n ih =>
    obtain ⟨h₁, hcall, hst₁, hcount₁, huse₁, hcache₁, hsize₁⟩ := hst.alloc huse
    obtain ⟨h₂, hrun, hst₂, hcount₂, huse₂, hcache₂, hsize₂⟩ := ih hst₁ huse₁
    refine ⟨h₂, ?_, ?_, ?_, huse₂, hcache₂.trans hcache₁, hsize₂.trans hsize₁⟩
    · refine Run.cons ⟨?_, ?_⟩ hrun
      · exact fun s' _ => fun _ _ _ _ => refusing_possible _
      · show _ = Process.qaeMemAllocNUMA ⟨h, 7, false, false⟩ 7 refusing 0xFFFFFFFFFFFFFFFF 0 64
        unfold Process.qaeMemAllocNUMA
        rw [if_pos ⟨by decide, rfl⟩, Process.qaeOpenFd_of_open h hst.fd]
        dsimp only
        rw [hcall]
    · rw [Nat.add_comm n 1, ← Nat.add_assoc]
      exact hst₂
    · rw [hcount₂, hcount₁, BitVec.add_assoc, Nat.add_comm n 1, ofNat_add]
      rfl

lemma step_unstuff {h' : Heap} (hst : Stuffed h (blocks + 1)) (hcall : qaeMemFreeNUMA h refusing 0x200000 = h') :
    processStep ⟨h, 7, false, false⟩ unstuff ⟨h', 7, false, false⟩ := by
  refine ⟨⟨⟨0x200000, 0xFFFFFFFFFFFFFFFF, 64⟩, ?_, rfl⟩, ?_⟩
  · show _ ∈ h.live
    rw [hst.live]
    exact mem_replicate.mpr ⟨Nat.succ_ne_zero blocks, rfl⟩
  · show _ = Process.qaeMemFreeNUMA ⟨h, 7, false, false⟩ 7 refusing 0x200000
    unfold Process.qaeMemFreeNUMA
    rw [if_pos (show refusing.lock = true from rfl), Process.qaeOpenFd_of_open h hst.fd]
    dsimp only
    rw [hcall]

lemma run_unstuff (n : ℕ) (hst : Stuffed h (blocks + n))
    (huse : h.userMemList = []) (hroom : h.cacheSize + ofNat 64 slabSize ≤ maxCache)
    (hcount : ∀ i < n, h.allocations 0x200000 - ofNat 32 (i + 1) ≠ 0) :
    ∃ h', Run processStep ⟨h, 7, false, false⟩ (replicate n unstuff) ⟨h', 7, false, false⟩ ∧
      Stuffed h' blocks ∧ h'.allocations 0x200000 = h.allocations 0x200000 - ofNat 32 n ∧
      h'.userMemList = [] ∧ h'.userCache = h.userCache ∧ h'.cacheSize = h.cacheSize := by
  induction n generalizing h with
  | zero => exact ⟨h, Run.nil _, hst, (BitVec.sub_zero _).symm, huse, rfl, rfl⟩
  | succ n ih =>
    obtain ⟨h₁, hcall, hst₁, hcount₁, -, hkeep⟩ := hst.free (by rw [huse]; rfl) hroom
    obtain ⟨huse₁, hcache₁, hsize₁⟩ := hkeep (hcount 0 (Nat.zero_lt_succ n))
    have hnext (i : ℕ) : h₁.allocations 0x200000 - ofNat 32 i = h.allocations 0x200000 - ofNat 32 (i + 1) := by
      rw [hcount₁, BitVec.sub_sub, Nat.add_comm i 1, ofNat_add]
      rfl
    obtain ⟨h₂, hrun, hst₂, hcount₂, huse₂, hcache₂, hsize₂⟩ := ih hst₁ (huse₁.trans huse)
      (hsize₁.symm ▸ hroom) fun i hi => hnext (i + 1) ▸ hcount (i + 1) (Nat.succ_lt_succ hi)
    exact ⟨h₂, Run.cons (step_unstuff hst hcall) hrun, hst₂, hcount₂.trans (hnext n), huse₂,
      hcache₂.trans hcache₁, hsize₂.trans hsize₁⟩

lemma zero_sub_ne_zero {i : ℕ} (hi : i < 2 ^ 32 - 1) : (0 : U32) - ofNat 32 (i + 1) ≠ 0 := by
  intro heq
  have hmod := congrArg BitVec.toNat heq
  rw [BitVec.toNat_sub, BitVec.toNat_ofNat] at hmod
  omega

lemma step_first_stuff : ∃ h,
    processStep processInit ⟨.alloc 0xFFFFFFFFFFFFFFFF 0 64, 7, granting⟩ ⟨h, 7, false, false⟩ ∧
      Stuffed h 1 ∧ h.allocations 0x200000 = 1 ∧ h.userMemList = [0x200000] ∧ h.userCache = [] ∧ h.cacheSize = 0 := by
  refine ⟨_, ⟨?_, rfl⟩, ⟨by decide +kernel, by decide +kernel, rfl, by decide +kernel,
    by decide +kernel, by decide +kernel, by decide +kernel⟩, by decide +kernel, by decide +kernel,
    by decide +kernel, by decide +kernel⟩
  intro s' hopen
  cases hopen
  exact alloc_possible (fun _ => granting_possible) (by decide +kernel)

/-- **A slab is put into the cache a second time**, when 2 ^ 32 + 1 blocks of no units in it are freed. -/
theorem slab_cached_twice : ∃ s, Run processStep processInit
        (⟨.alloc 0xFFFFFFFFFFFFFFFF 0 64, 7, granting⟩ :: (replicate (2 ^ 32) stuff ++
          unstuff :: (replicate (2 ^ 32 - 1) unstuff ++ [unstuff]))) s ∧
      s.heap.granted = [0x200000] ∧ s.heap.userCache = [0x200000, 0x200000] ∧ ¬ s.heap.Accounted := by
  obtain ⟨h₁, hfirst, hst₁, hcount₁, huse₁, hcache₁, hsize₁⟩ := step_first_stuff
  obtain ⟨h₂, hrun₂, hst₂, hcount₂, huse₂, hcache₂, hsize₂⟩ := run_stuff (2 ^ 32) hst₁ huse₁
  have hone : h₂.allocations 0x200000 = 1 := by
    rw [hcount₂, hcount₁]
    decide
  have hzero₂ : h₂.cacheSize = 0 := hsize₂.trans hsize₁
  -- the count is 0 for the first time
  obtain ⟨h₃, hcall₃, hst₃, hcount₃, hlast₃, -⟩ := hst₂.free (by rw [huse₂]; rfl) (by rw [hzero₂]; decide)
  obtain ⟨huse₃, hcache₃, hsize₃⟩ := hlast₃ (by rw [hone]; decide)
  have hsize₃' : h₃.cacheSize = ofNat 64 slabSize := by
    rw [hsize₃, hzero₂]
    exact BitVec.zero_add _
  have hnone : h₃.allocations 0x200000 = 0 := by
    rw [hcount₃, hone]
    decide
  -- it goes through all numbers before it is 0 again
  have hst₃' : Stuffed h₃ (1 + (2 ^ 32 - 1)) := hst₃
  obtain ⟨h₄, hrun₄, hst₄, hcount₄, huse₄, hcache₄, hsize₄⟩ := run_unstuff (2 ^ 32 - 1) hst₃' huse₃
    (by rw [hsize₃']; decide) fun i hi => by rw [hnone]; exact zero_sub_ne_zero hi
  obtain ⟨h₅, hcall₅, hst₅, -, hlast₅, -⟩ := hst₄.free (by rw [huse₄]; rfl) (by rw [hsize₄, hsize₃']; decide)
  obtain ⟨-, hcache₅, -⟩ := hlast₅ (by rw [hcount₄, hnone]; decide)
  have hcached : h₅.userCache = [0x200000, 0x200000] := by
    rw [hcache₅, hcache₄, hcache₃, hcache₂, hcache₁]
  refine ⟨_, Run.cons hfirst (hrun₂.append (Run.cons (step_unstuff hst₂ hcall₃)
    (hrun₄.append (Run.single (step_unstuff hst₄ hcall₅))))), hst₅.granted, hcached, ?_⟩
  intro haccounted
  have honce := haccounted.once 0x200000 (by rw [hst₅.granted]; exact mem_singleton_self _)
  rw [hcached, show [0x200000, 0x200000].count 0x200000 = 2 from rfl] at honce
  omega

end QuickAssist.Usdm
