import QuickAssist.Lib.Run
import QuickAssist.Usdm.FirstFit

/-!
# A slab over its whole life

A slab is initialised, blocks are taken from it and given back, and when the last of them is gone it may be kept in the
cache and be initialised again. Only the first word of the bitmap and the barrier are written then, so all the other
bits have to be clear by themselves.

**The defect.** A size that wraps around is given a block of no units, which costs nothing, and it is counted. The
count has 32 bits. After 2 ^ 32 - 1 of them next to a real block the count is 0, and the bits of the real block are
set (`count_wraps_with_block`).
-/

namespace QuickAssist.Usdm

open Lib BitVec

/-! ## The calls on a slab -/

structure SlabState where
  ctrl : BlockCtrl
  allocations : U32
  /-- The first units of the blocks that were handed out and not given back. -/
  live : List ℕ

inductive SlabEvent
  /-- `mem_alloc`, and the block is counted if there is one. -/
  | alloc (size align : U64)
  | free (firstBlock : ℕ)
  | recycle

def SlabState.init : SlabState := ⟨initSlab ⟨fun _ => 0, fun _ => 0⟩ slabSize, 0, []⟩

/-- A block is taken from a slab.
Source: `mem_alloc` and the count in `alloc_addr`. -/
def SlabState.alloc (s : SlabState) (size align : U64) : SlabState :=
  match memAlloc s.ctrl size.toNat align.toNat with
  | none => s
  | some (firstBlock, ctrl) => ⟨ctrl, s.allocations + 1, firstBlock :: s.live⟩

/-- A block is given back to the slab at an address.
Source: `mem_free` and the count in `free_addr`. -/
def SlabState.free (s : SlabState) (slab firstBlock : ℕ) : SlabState where
  ctrl := memFree s.ctrl slab (slab + firstBlock * unitSize)
  allocations := s.allocations - 1
  live := s.live.erase firstBlock

/-- A slab that comes from the cache is initialised. Source: `init_slab_and_alloc`. -/
def SlabState.recycle (s : SlabState) : SlabState := { s with ctrl := initSlab s.ctrl slabSize }

/-- The steps of the slab at an address. Only blocks that were handed out are given back, and a slab is
in the cache only while its count is 0. -/
def slabStep (slab : ℕ) (s : SlabState) (e : SlabEvent) (s' : SlabState) : Prop :=
  match e with
  | .alloc size align => s' = s.alloc size align
  | .free firstBlock => firstBlock ∈ s.live ∧ s' = s.free slab firstBlock
  | .recycle => s.allocations = 0 ∧ s' = s.recycle

/-! ## The property -/

structure SlabState.Ok (s : SlabState) : Prop where
  /-- The bits that are set are those of the control block, of the barrier and of the blocks. -/
  bits : ∀ i < bitmapLen * 64 + 64, bit s.ctrl.bitmap i = true ↔
    i < reserved ∨ bitmapLen * 64 ≤ i ∨ ∃ f ∈ s.live, s.ctrl.Covers f i
  clean : s.allocations = 0 → s.ctrl.Clean
  window : ∀ size align f,
    memSearch s.ctrl.bitmap (divRoundUp size unitSize) align 2048 ⟨0, 0, 0⟩ = some f →
      f + divRoundUp size unitSize ≤ bitmapLen * 64

/-- Rounding the size up to units does not wrap around. -/
def SlabEvent.NoWrap : SlabEvent → Prop
  | .alloc size _ => size.toNat + 1023 < 2 ^ 64
  | .free _ => True
  | .recycle => True

/-! ## Runs -/

structure SlabState.Counted (s : SlabState) : Prop where
  inv : SlabInv s.ctrl s.live
  count : s.allocations.toNat = s.live.length

namespace SlabState.Counted

variable {s : SlabState}

lemma init : SlabState.init.Counted := ⟨SlabInv.initSlab fun _ _ _ => getLsbD_zero, rfl⟩

section

variable (h : s.Counted)

include h

lemma live_eq_nil (hzero : s.allocations = 0) : s.live = [] := by
  have hcount := h.count
  rw [hzero] at hcount
  exact List.eq_nil_of_length_eq_zero hcount.symm

lemma alloc {size align : U64} (hwrap : size.toNat + 1023 < 2 ^ 64) : (s.alloc size align).Counted := by
  unfold SlabState.alloc
  cases halloc : memAlloc s.ctrl size.toNat align.toNat with
  | none => exact h
  | some found =>
    have hpos : 0 < size.toNat := Nat.pos_of_ne_zero (memAlloc_eq_some halloc).1
    have hunits : 0 < divRoundUp size.toNat unitSize := by
      unfold divRoundUp unitSize
      omega
    obtain ⟨hinv, -⟩ := h.inv.memAlloc hunits halloc
    refine ⟨hinv, ?_⟩
    have hcount := h.count
    have hle := h.inv.length_le
    rw [bitmapLen] at hle
    rw [toNat_add, hcount]
    exact Nat.mod_eq_of_lt (by simp only [reduceToNat]; omega)

lemma free {slab f : ℕ} (hslab : 0 < slab) (haligned : slab % unitSize = 0)
    (hf : f ∈ s.live) : (s.free slab f).Counted := by
  obtain ⟨hinv, -⟩ := h.inv.memFree hf hslab haligned
  refine ⟨hinv, ?_⟩
  have hcount := h.count
  have hpos := List.length_pos_of_mem hf
  show (s.allocations - 1).toNat = (s.live.erase f).length
  rw [List.length_erase_of_mem hf, ← hcount, toNat_sub_of_le]
  · rfl
  · show 1 ≤ s.allocations.toNat
    omega

lemma recycle (hzero : s.allocations = 0) : s.recycle.Counted := by
  have hlive := h.live_eq_nil hzero
  have hinv := h.inv
  rw [hlive] at hinv
  refine ⟨?_, h.count⟩
  show SlabInv (initSlab s.ctrl slabSize) s.live
  rw [hlive]
  exact SlabInv.initSlab hinv.clean

lemma step {slab : ℕ} (hslab : 0 < slab) (haligned : slab % unitSize = 0)
    {e : SlabEvent} {s' : SlabState} (hstep : guarded (fun _ e => e.NoWrap) (slabStep slab) s e s') : s'.Counted := by
  obtain ⟨hwrap, hstep⟩ := hstep
  cases e with
  | alloc size align =>
    obtain rfl := hstep
    exact h.alloc hwrap
  | free f =>
    obtain ⟨hf, rfl⟩ := hstep
    exact h.free hslab haligned hf
  | recycle =>
    obtain ⟨hzero, rfl⟩ := hstep
    exact h.recycle hzero

lemma ok : s.Ok := by
  refine ⟨h.inv.bits, ?_, ?_⟩
  · intro hzero
    have hinv := h.inv
    rw [h.live_eq_nil hzero] at hinv
    exact hinv.clean
  · intro size align f hsearch
    obtain ⟨hlt, -, hclear⟩ := memSearch_spec (Scan.ok_zero _ _) (by decide) hsearch
    by_contra hend
    -- the first bit of the barrier would be in the run
    have hbarrier := (h.inv.bits (bitmapLen * 64) (by omega)).mpr (Or.inr (Or.inl (Nat.le_refl _)))
    rw [hclear (bitmapLen * 64) (Nat.le_of_lt hlt) (by omega)] at hbarrier
    cases hbarrier

end

end SlabState.Counted

/-- **The bitmap of a slab marks its blocks**, after any calls with sizes that do not wrap around. -/
theorem slab_ok {slab : ℕ} (hslab : 0 < slab) (haligned : slab % unitSize = 0) {es : List SlabEvent} {s : SlabState}
    (hrun : Run (guarded (fun _ e => SlabEvent.NoWrap e) (slabStep slab)) SlabState.init es s) : s.Ok := by
  have hcounted : s.Counted := hrun.invariant (I := SlabState.Counted)
    (fun _ _ _ h hstep => h.step hslab haligned hstep) SlabState.Counted.init
  exact hcounted.ok

/-- A block is taken and given back, the slab is initialised again and used for another one. -/
theorem recycled_slab_ok : ∃ s, Run (guarded (fun _ e => SlabEvent.NoWrap e) (slabStep 0x200000)) SlabState.init
        [.alloc 3000 4, .free 8, .recycle, .alloc 1000 1] s ∧ s.live = [5] ∧ s.Ok := by
  apply Run.exists_and
  · exact .cons ⟨show 3000 + 1023 < 2 ^ 64 by decide, rfl⟩ <| .cons ⟨trivial, by decide +kernel, rfl⟩ <|
      .cons ⟨trivial, by decide +kernel, rfl⟩ <|
      .single ⟨show 1000 + 1023 < 2 ^ 64 by decide, rfl⟩
  · exact fun hrun => ⟨by decide +kernel, slab_ok (by decide) (by decide) hrun⟩

/-! ## A count that wraps around -/

lemma alloc_wrapped (s : SlabState) : s.alloc 0xFFFFFFFFFFFFFFFF 1 =
    ⟨s.ctrl.setBlock 0 0, s.allocations + 1, 0 :: s.live⟩ := by
  have halloc : memAlloc s.ctrl (2 ^ 64 - 1) 1 = some (0, s.ctrl.setBlock 0 0) :=
    memAlloc_of_wrap (by decide) (by decide) (by decide)
  unfold SlabState.alloc
  rw [show (0xFFFFFFFFFFFFFFFF : U64).toNat = 2 ^ 64 - 1 from rfl, show (1 : U64).toNat = 1 from rfl, halloc]

lemma run_wrapped (slab n : ℕ) (s : SlabState) : ∃ s',
    Run (slabStep slab) s (List.replicate n (.alloc 0xFFFFFFFFFFFFFFFF 1)) s' ∧
      s'.allocations = s.allocations + BitVec.ofNat 32 n ∧ ∀ i, bit s'.ctrl.bitmap i = bit s.ctrl.bitmap i := by
  induction n generalizing s with
  | zero => exact ⟨s, .nil s, by simp, fun _ => rfl⟩
  | succ n ih =>
    obtain ⟨s', hrun, hcount, hbits⟩ := ih (s.alloc 0xFFFFFFFFFFFFFFFF 1)
    refine ⟨s', .cons rfl hrun, ?_, fun i => ?_⟩
    · rw [hcount, alloc_wrapped, BitVec.add_assoc, Nat.add_comm n 1, ofNat_add]
      rfl
    · rw [hbits, alloc_wrapped, bit_setBlock, if_neg (by omega)]

/-- **The count is 0 and a block is there**, after 2 ^ 32 - 1 requests of the largest size of all. -/
theorem count_wraps_with_block : ∃ s, Run (slabStep 0x200000) SlabState.init
        (.alloc 1024 1 :: List.replicate (2 ^ 32 - 1) (.alloc 0xFFFFFFFFFFFFFFFF 1)) s ∧
      s.allocations = 0 ∧ bit s.ctrl.bitmap 5 = true ∧ ¬ s.Ok := by
  obtain ⟨s, hrun, hcount, hbits⟩ := run_wrapped 0x200000 (2 ^ 32 - 1) (SlabState.init.alloc 1024 1)
  have hset : bit s.ctrl.bitmap 5 = true := by
    rw [hbits]
    decide +kernel
  have hzero : s.allocations = 0 := by
    rw [hcount]
    decide +kernel
  refine ⟨s, .cons rfl hrun, hzero, hset, fun hok => ?_⟩
  have hclear := hok.clean hzero 5 (by decide) (by decide)
  rw [hset] at hclear
  cases hclear

end QuickAssist.Usdm
