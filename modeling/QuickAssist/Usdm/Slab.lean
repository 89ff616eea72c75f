import QuickAssist.Lib.Bitmap
import Mathlib.Data.List.Perm.Subperm
import QuickAssist.Lib.Words

/-!
# One slab of the user-space allocator

A slab of 2 MB is cut into 2048 units of 1 KB. It begins with its own control block, `block_ctrl_t`, which takes the
first five units: a bitmap with a bit for each unit, one word more that is the barrier, and the number of units of the
block that begins at each unit. `memAlloc` searches the bitmap through a window of 64 bits that it moves from left to
right; `memFree` clears the bits of a block again. Blocks are named by their first unit, as in the source. `SlabInv` is
kept by `memAlloc`, provided that at least one unit is asked for, and by `memFree`.
-/

namespace QuickAssist.Usdm

open Lib Function List Option

/-! ## The code -/

/-- The bookkeeping of a slab. Source: `block_ctrl_t`. -/
structure BlockCtrl where
  bitmap : ℕ → U64
  sizes : ℕ → U16

def unitSize : ℕ := 1024

def bitmapLen : ℕ := 32

/-- The size of a slab of units, 512 pages.
Source: `QAE_NUM_PAGES_PER_ALLOC * QAE_PAGE_SIZE`. -/
def slabSize : ℕ := 0x200000

/-- The size of the control information of a slab. Source: `sizeof(dev_mem_info_t)`. -/
def sizeofDevMemInfo : ℕ := 80

/-- The size of the control block of a slab of units. Source: `sizeof(block_ctrl_t)`. -/
def sizeofBlockCtrl : ℕ := sizeofDevMemInfo + 33 * 8 + 2048 * 2

/-- Division of a `size_t`, rounded up; the sum wraps around. -/
def divRoundUp (n d : ℕ) : ℕ := (n + d - 1) % 2 ^ 64 / d

/-- The units of the control block. Source: `reserved` of `init_slab_and_alloc`. -/
def reserved : ℕ := divRoundUp sizeofBlockCtrl unitSize

def memCtzll (bitmapWindow : U64) : ℕ := ctz bitmapWindow

def bitmapRead (map : ℕ → U64) (windowPos : ℕ) : U64 :=
  if bitmapLen ≤ windowPos / 64 then BitVec.allOnes 64 else window map windowPos

def clearBitmap (bitmap : ℕ → U64) (index len : ℕ) : ℕ → U64 := writeRange false bitmap index len

def setBitmap (bitmap : ℕ → U64) (index len : ℕ) : ℕ → U64 := writeRange true bitmap index len

/-- The variables of the search of `mem_alloc`. -/
structure Scan where
  windowPos : ℕ
  firstBlock : ℕ
  blocksFound : ℕ

inductive Round
  | fit (firstBlock : ℕ)
  | next (scan : Scan)

def alignUp (windowPos align : ℕ) : ℕ :=
  if align ≠ 0 ∧ windowPos % align ≠ 0 then windowPos + (align - windowPos % align) else windowPos

/-- A round of `mem_alloc`. The shift by `width + 1` is one by 64 if only the last bit of the window is set;
whatever it leaves, there are no ones to be skipped. -/
def memAllocRound (bitmap : ℕ → U64) (blocksRequired align : ℕ) (s : Scan) : Round :=
  let bitmapWindow := bitmapRead bitmap s.windowPos
  let width := memCtzll bitmapWindow
  let blocksFound := s.blocksFound + width
  if blocksRequired ≤ blocksFound then .fit s.firstBlock
  else if bitmapWindow ≠ 0 then
    let widthOnes := memCtzll (~~~ (bitmapWindow >>> (width + 1)))
    let windowPos := alignUp (s.windowPos + width + 1 + widthOnes) align
    .next ⟨windowPos, windowPos, 0⟩
  else .next ⟨s.windowPos + width, s.firstBlock, blocksFound⟩

/-- The search, for at most `fuel` rounds. Source: the loop of `mem_alloc`. -/
def memSearch (bitmap : ℕ → U64) (blocksRequired align : ℕ) : ℕ → Scan → Option ℕ
  | 0, _ => none
  | fuel + 1, s =>
    match memAllocRound bitmap blocksRequired align s with
    | .fit firstBlock => some firstBlock
    | .next s => if s.windowPos < bitmapLen * 64 then memSearch bitmap blocksRequired align fuel s
        else none

/-- Save the length of a block and set its bits. Source: the end of `mem_alloc`. -/
def BlockCtrl.setBlock (ctrl : BlockCtrl) (firstBlock blocksRequired : ℕ) : BlockCtrl where
  sizes := update ctrl.sizes firstBlock (BitVec.ofNat 16 blocksRequired)
  bitmap := setBitmap ctrl.bitmap firstBlock blocksRequired

def memAlloc (ctrl : BlockCtrl) (size align : ℕ) : Option (ℕ × BlockCtrl) :=
  if size = 0 then none
  else
    let blocksRequired := divRoundUp size unitSize
    match memSearch ctrl.bitmap blocksRequired align 2048 ⟨0, 0, 0⟩ with
    | none => none
    | some firstBlock =>
      if bitmapLen * 64 < firstBlock + blocksRequired then none
      else some (firstBlock, ctrl.setBlock firstBlock blocksRequired)

/-- Clear the bits of a block. Source: the end of `mem_free`. -/
def BlockCtrl.clearBlock (ctrl : BlockCtrl) (firstBlock length : ℕ) : BlockCtrl :=
  { ctrl with bitmap := clearBitmap ctrl.bitmap firstBlock length }

def memFree (ctrl : BlockCtrl) (slab block : ℕ) : BlockCtrl :=
  if block = 0 ∨ block % unitSize ≠ 0 then ctrl
  else
    let firstBlock := (block - slab) / unitSize
    let length := (ctrl.sizes firstBlock).toNat
    if bitmapLen * 64 < length + firstBlock then ctrl
    else ctrl.clearBlock firstBlock length

/-- Mark the units of the control block and the barrier.
Source: the beginning of `init_slab_and_alloc`. -/
def initSlab (ctrl : BlockCtrl) (size : ℕ) : BlockCtrl :=
  let last := size / (unitSize * 64)
  { ctrl with bitmap := update (update ctrl.bitmap 0 (lowMask reserved)) last (BitVec.allOnes 64) }

/-! ## The search -/

lemma getLsbD_bitmapRead (map : ℕ → U64) {windowPos k : ℕ} (hpos : windowPos < bitmapLen * 64) (hk : k < 64) :
    (bitmapRead map windowPos).getLsbD k = bit map (windowPos + k) := by
  unfold bitmapLen at hpos
  rw [bitmapRead, bitmapLen, if_neg (by omega)]
  exact getLsbD_window map windowPos hk

structure Scan.Ok (bitmap : ℕ → U64) (align : ℕ) (s : Scan) : Prop where
  measured : s.firstBlock + s.blocksFound = s.windowPos
  clear : ∀ i, s.firstBlock ≤ i → i < s.windowPos → bit bitmap i = false
  aligned : align ≠ 0 → align ∣ s.firstBlock

variable {align : ℕ}

lemma dvd_alignUp (windowPos : ℕ) (halign : align ≠ 0) : align ∣ alignUp windowPos align := by
  unfold alignUp
  by_cases hmod : windowPos % align = 0
  · rw [if_neg fun h => h.2 hmod]
    exact Nat.dvd_of_mod_eq_zero hmod
  · rw [if_pos ⟨halign, hmod⟩]
    have hlt := Nat.mod_lt windowPos (Nat.pos_of_ne_zero halign)
    have hdiv := Nat.div_add_mod windowPos align
    refine ⟨windowPos / align + 1, ?_⟩
    rw [Nat.mul_add, Nat.mul_one]
    omega

lemma le_alignUp (windowPos align : ℕ) : windowPos ≤ alignUp windowPos align := by
  unfold alignUp
  split <;> omega

/-- A round either comes to a run that is long enough, or moves the window: behind the ones that end
the run, or behind a window of zeros. -/
lemma memAllocRound_cases (bitmap : ℕ → U64) (blocksRequired align : ℕ) (s : Scan) :
    let w := bitmapRead bitmap s.windowPos
    let width := memCtzll w
    (memAllocRound bitmap blocksRequired align s = .fit s.firstBlock ∧ blocksRequired ≤ s.blocksFound + width) ∨
      (∃ pos, memAllocRound bitmap blocksRequired align s = .next ⟨pos, pos, 0⟩ ∧
        pos = alignUp (s.windowPos + width + 1 + memCtzll (~~~ (w >>> (width + 1)))) align ∧
        w ≠ 0 ∧ s.blocksFound + width < blocksRequired) ∨ (memAllocRound bitmap blocksRequired align s =
          .next ⟨s.windowPos + width, s.firstBlock, s.blocksFound + width⟩ ∧
        width = 64 ∧ s.blocksFound + width < blocksRequired) := by
  intro w width
  unfold memAllocRound
  by_cases hfit : blocksRequired ≤ s.blocksFound + width
  · exact Or.inl ⟨if_pos hfit, hfit⟩
  · have hlt : s.blocksFound + width < blocksRequired := Nat.lt_of_not_le hfit
    rw [if_neg hfit]
    by_cases hzero : w = 0
    · refine Or.inr (Or.inr ⟨if_neg fun h => h hzero, ?_, hlt⟩)
      show ctz w = 64
      rw [hzero]
      exact ctz_zero
    · exact Or.inr (Or.inl ⟨_, if_pos hzero, rfl, hzero, hlt⟩)

variable {s : Scan} {bitmap : ℕ → U64}

lemma Scan.Ok.extend (hs : s.Ok bitmap align) (hpos : s.windowPos < bitmapLen * 64) :
    Scan.Ok bitmap align ⟨s.windowPos + memCtzll (bitmapRead bitmap s.windowPos), s.firstBlock,
      s.blocksFound + memCtzll (bitmapRead bitmap s.windowPos)⟩ := by
  have hmeasured := hs.measured
  refine ⟨by dsimp only; omega, ?_, hs.aligned⟩
  intro i hle hlt
  by_cases hi : i < s.windowPos
  · exact hs.clear i hle hi
  · unfold memCtzll at hlt
    dsimp only at hlt
    have hle64 := ctz_le (bitmapRead bitmap s.windowPos)
    have hclear := getLsbD_of_lt_ctz (k := i - s.windowPos)
      (show i - s.windowPos < ctz (bitmapRead bitmap s.windowPos) by omega)
    rwa [getLsbD_bitmapRead bitmap hpos (by omega), Nat.add_sub_cancel' (Nat.le_of_not_lt hi)] at hclear

lemma Scan.ok_alignUp (bitmap : ℕ → U64) (pos align : ℕ) :
    Scan.Ok bitmap align ⟨alignUp pos align, alignUp pos align, 0⟩ :=
  ⟨rfl, fun _ hle hlt => absurd hle (Nat.not_le_of_lt hlt), dvd_alignUp pos⟩

/-- **What the search finds.** A run of clear bits of the length that was asked for, at a multiple of
the alignment. -/
theorem memSearch_spec {blocksRequired fuel firstBlock : ℕ}
    (hs : s.Ok bitmap align) (hpos : s.windowPos < bitmapLen * 64)
    (h : memSearch bitmap blocksRequired align fuel s = some firstBlock) :
    firstBlock < bitmapLen * 64 ∧ (align ≠ 0 → align ∣ firstBlock) ∧
      ∀ i, firstBlock ≤ i → i < firstBlock + blocksRequired → bit bitmap i = false := by
  induction fuel generalizing s with
  | zero => cases h
  | succ fuel ih =>
    unfold memSearch at h
    rcases memAllocRound_cases bitmap blocksRequired align s with
      ⟨hround, hfit⟩ | ⟨pos, hround, rfl, -⟩ | ⟨hround, -⟩
    · rw [hround] at h
      cases h
      have hmeasured := hs.measured
      refine ⟨by omega, hs.aligned, ?_⟩
      intro i hle hlt
      apply (hs.extend hpos).clear i hle
      dsimp only
      omega
    · rw [hround] at h
      obtain ⟨hpos', h⟩ := ite_none_right_eq_some.mp h
      exact ih (Scan.ok_alignUp bitmap _ align) hpos' h
    · rw [hround] at h
      obtain ⟨hpos', h⟩ := ite_none_right_eq_some.mp h
      exact ih (hs.extend hpos) hpos' h

lemma Scan.ok_zero (bitmap : ℕ → U64) (align : ℕ) : Scan.Ok bitmap align ⟨0, 0, 0⟩ :=
  ⟨rfl, fun i _ hlt => absurd hlt (Nat.not_lt_zero i), fun _ => Nat.dvd_zero align⟩

lemma memAlloc_eq_some {ctrl ctrl' : BlockCtrl} {size f : ℕ} (h : memAlloc ctrl size align = some (f, ctrl')) :
    size ≠ 0 ∧ f + divRoundUp size unitSize ≤ bitmapLen * 64 ∧
      memSearch ctrl.bitmap (divRoundUp size unitSize) align 2048 ⟨0, 0, 0⟩ = some f ∧
      ctrl' = ctrl.setBlock f (divRoundUp size unitSize) := by
  obtain ⟨hsize, h⟩ := ite_none_left_eq_some.mp h
  dsimp only at h
  cases hsearch : memSearch ctrl.bitmap (divRoundUp size unitSize) align 2048 ⟨0, 0, 0⟩ with
  | none =>
    rw [hsearch] at h
    cases h
  | some firstBlock =>
    rw [hsearch] at h
    obtain ⟨hend, h⟩ := ite_none_left_eq_some.mp h
    cases h
    exact ⟨hsize, by omega, rfl, rfl⟩

def BlockCtrl.units (ctrl : BlockCtrl) (firstBlock : ℕ) : ℕ := (ctrl.sizes firstBlock).toNat

/-- A unit belongs to the block that begins at `firstBlock`. -/
def BlockCtrl.Covers (ctrl : BlockCtrl) (firstBlock i : ℕ) : Prop :=
  firstBlock ≤ i ∧ i < firstBlock + ctrl.units firstBlock
  deriving Decidable

/-- The blocks of a slab are those that begin at `bs`. -/
structure SlabInv (ctrl : BlockCtrl) (bs : List ℕ) : Prop where
  nodup : bs.Nodup
  inside : ∀ f ∈ bs, reserved ≤ f ∧ 0 < ctrl.units f ∧ f + ctrl.units f ≤ bitmapLen * 64
  disjoint : ∀ f ∈ bs, ∀ g ∈ bs, ∀ i, ctrl.Covers f i → ctrl.Covers g i → f = g
  /-- The bits that are set are those of the control block, of the blocks and of the barrier. -/
  bits : ∀ i < bitmapLen * 64 + 64,
    bit ctrl.bitmap i = true ↔ i < reserved ∨ bitmapLen * 64 ≤ i ∨ ∃ f ∈ bs, ctrl.Covers f i

def BlockCtrl.Clean (ctrl : BlockCtrl) : Prop := ∀ i, reserved ≤ i → i < bitmapLen * 64 → bit ctrl.bitmap i = false

lemma reserved_eq : reserved = 5 := rfl

lemma units_setBlock_self (ctrl : BlockCtrl) {f n : ℕ} (hn : n < 2 ^ 16) : (ctrl.setBlock f n).units f = n := by
  rw [BlockCtrl.units, BlockCtrl.setBlock]
  dsimp only
  rw [update_self, BitVec.toNat_ofNat, Nat.mod_eq_of_lt hn]

lemma units_setBlock_of_ne (ctrl : BlockCtrl) {f g : ℕ} (n : ℕ) (hne : g ≠ f) :
    (ctrl.setBlock f n).units g = ctrl.units g := by
  rw [BlockCtrl.units, BlockCtrl.setBlock]
  dsimp only
  rw [update_of_ne hne, BlockCtrl.units]

lemma bit_setBlock (ctrl : BlockCtrl) (f n i : ℕ) :
    bit (ctrl.setBlock f n).bitmap i = if f ≤ i ∧ i < f + n then true else bit ctrl.bitmap i :=
  bit_writeRange true ctrl.bitmap f n i

lemma bit_clearBlock (ctrl : BlockCtrl) (f i : ℕ) : bit (ctrl.clearBlock f (ctrl.units f)).bitmap i =
      if ctrl.Covers f i then false else bit ctrl.bitmap i :=
  bit_writeRange false ctrl.bitmap f (ctrl.units f) i

lemma bit_initSlab {ctrl : BlockCtrl} (hclean : ctrl.Clean) {i : ℕ} (hi : i < bitmapLen * 64 + 64) :
    bit (initSlab ctrl slabSize).bitmap i = true ↔ i < reserved ∨ bitmapLen * 64 ≤ i := by
  have hmod : i % 64 < 64 := Nat.mod_lt i (by decide)
  unfold BlockCtrl.Clean at hclean
  simp only [bitmapLen, reserved_eq] at hi hclean ⊢
  rw [initSlab, bit_update, bit_update, show slabSize / (unitSize * 64) = 32 from rfl]
  by_cases hlast : i / 64 = 32
  · rw [if_pos hlast, BitVec.getLsbD_allOnes, decide_eq_true hmod]
    exact iff_of_true rfl (by omega)
  · rw [if_neg hlast]
    by_cases hfirst : i / 64 = 0
    · rw [if_pos hfirst, getLsbD_lowMask hmod, decide_eq_true_iff, reserved_eq]
      omega
    · rw [if_neg hfirst, hclean i (by omega) (by omega)]
      exact iff_of_false Bool.false_ne_true (by omega)

namespace SlabInv

variable {ctrl ctrl' : BlockCtrl} {bs : List ℕ} {f g : ℕ}

lemma initSlab (hclean : ctrl.Clean) : SlabInv (initSlab ctrl slabSize) [] := by
  refine ⟨nodup_nil, nofun, nofun, ?_⟩
  · intro i hi
    rw [bit_initSlab hclean hi]
    simp

lemma clean (h : SlabInv ctrl []) : ctrl.Clean := by
  intro i hle hlt
  have hbit := h.bits i (by omega)
  rw [← Bool.not_eq_true, hbit]
  rintro (hlow | hhigh | ⟨f, hf, -⟩)
  · omega
  · omega
  · cases hf

section

variable (h : SlabInv ctrl bs)

include h

lemma bit_of_covers (hf : f ∈ bs) {i : ℕ} (hi : ctrl.Covers f i) : bit ctrl.bitmap i = true := by
  obtain ⟨-, -, hend⟩ := h.inside f hf
  have hlt := hi.2
  exact (h.bits i (by omega)).mpr (Or.inr (Or.inr ⟨f, hf, hi⟩))

lemma length_le : bs.length ≤ bitmapLen * 64 := by
  have hsub : bs ⊆ List.range (bitmapLen * 64) := by
    intro f hf
    obtain ⟨-, hpos, hend⟩ := h.inside f hf
    exact mem_range.mpr (by omega)
  have hle := (h.nodup.subperm hsub).length_le
  rwa [length_range] at hle

lemma setBlock {n : ℕ} (hn : 0 < n) (hend : f + n ≤ bitmapLen * 64)
    (hclear : ∀ i, f ≤ i → i < f + n → bit ctrl.bitmap i = false) : SlabInv (ctrl.setBlock f n) (f :: bs) := by
  have hfree : ∀ g ∈ bs, ∀ i, ctrl.Covers g i → ¬ (f ≤ i ∧ i < f + n) := by
    rintro g hg i hcovers ⟨hle, hlt⟩
    have hset := h.bit_of_covers hg hcovers
    rw [hclear i hle hlt] at hset
    cases hset
  have hself : ∀ i, (ctrl.setBlock f n).Covers f i ↔ f ≤ i ∧ i < f + n := by
    intro i
    rw [BlockCtrl.Covers, units_setBlock_self ctrl (by unfold bitmapLen at hend; omega)]
  have hne : ∀ g ∈ bs, g ≠ f := by
    rintro g hg rfl
    obtain ⟨-, hpos, -⟩ := h.inside g hg
    exact hfree g hg g ⟨Nat.le_refl g, by omega⟩ ⟨Nat.le_refl g, by omega⟩
  have hother : ∀ g ∈ bs, ∀ i, (ctrl.setBlock f n).Covers g i ↔ ctrl.Covers g i := by
    intro g hg i
    rw [BlockCtrl.Covers, units_setBlock_of_ne ctrl n (hne g hg), BlockCtrl.Covers]
  refine ⟨nodup_cons.mpr ⟨fun hf => hne f hf rfl, h.nodup⟩, ?_, ?_, ?_⟩
  · intro g hg
    rcases mem_cons.mp hg with rfl | hg
    · rw [units_setBlock_self ctrl (by unfold bitmapLen at hend; omega)]
      by_contra hlow
      have hset := (h.bits g (by omega)).mpr (Or.inl (by omega))
      rw [hclear g (Nat.le_refl g) (by omega)] at hset
      cases hset
    · rw [units_setBlock_of_ne ctrl n (hne g hg)]
      exact h.inside g hg
  · intro g hg g' hg' i hcovers hcovers'
    rcases mem_cons.mp hg with rfl | hold <;> rcases mem_cons.mp hg' with rfl | hold'
    · rfl
    · exact absurd ((hself i).mp hcovers) (hfree g' hold' i ((hother g' hold' i).mp hcovers'))
    · exact absurd ((hself i).mp hcovers') (hfree g hold i ((hother g hold i).mp hcovers))
    · exact h.disjoint g hold g' hold' i ((hother g hold i).mp hcovers) ((hother g' hold' i).mp hcovers')
  · intro i hi
    have hcovered : (∃ g ∈ f :: bs, (ctrl.setBlock f n).Covers g i) ↔
        (f ≤ i ∧ i < f + n) ∨ ∃ g ∈ bs, ctrl.Covers g i := by
      rw [exists_mem_cons_iff, hself]
      exact or_congr_right (exists_congr fun g => and_congr_right fun hg => hother g hg i)
    rw [hcovered, bit_setBlock]
    by_cases hrun : f ≤ i ∧ i < f + n
    · rw [if_pos hrun]
      exact iff_of_true rfl (Or.inr (Or.inr (Or.inl hrun)))
    · rw [if_neg hrun, h.bits i hi]
      simp [hrun]

lemma clearBlock (hf : f ∈ bs) : SlabInv (ctrl.clearBlock f (ctrl.units f)) (bs.erase f) := by
  have hmem : ∀ g, g ∈ bs.erase f ↔ g ≠ f ∧ g ∈ bs := fun g => h.nodup.mem_erase_iff
  refine ⟨h.nodup.erase f, fun g hg => h.inside g ((hmem g).mp hg).2, ?_, ?_⟩
  · intro g hg g' hg' i hcovers hcovers'
    exact h.disjoint g ((hmem g).mp hg).2 g' ((hmem g').mp hg').2 i hcovers hcovers'
  · intro i hi
    rw [bit_clearBlock]
    by_cases hrun : ctrl.Covers f i
    · obtain ⟨hres, -, hend⟩ := h.inside f hf
      have hle := hrun.1
      have hlt := hrun.2
      rw [if_pos hrun]
      refine iff_of_false Bool.false_ne_true ?_
      rintro (hlow | hhigh | ⟨g, hg, hcovers⟩)
      · omega
      · omega
      · obtain ⟨hne, hg⟩ := (hmem g).mp hg
        exact hne (h.disjoint g hg f hf i hcovers hrun)
    · rw [if_neg hrun, h.bits i hi]
      refine or_congr_right (or_congr_right (exists_congr fun g => ?_))
      rw [hmem]
      constructor
      · rintro ⟨hg, hcovers⟩
        exact ⟨⟨fun heq => hrun (heq ▸ hcovers), hg⟩, hcovers⟩
      · rintro ⟨⟨-, hg⟩, hcovers⟩
        exact ⟨hg, hcovers⟩

/-- **Allocating a block keeps the invariant,** if at least one unit is asked for. -/
theorem memAlloc {size : ℕ} (hunits : 0 < divRoundUp size unitSize)
    (halloc : memAlloc ctrl size align = some (f, ctrl')) :
    SlabInv ctrl' (f :: bs) ∧ ctrl'.units f = divRoundUp size unitSize ∧
      (∀ g ∈ bs, ctrl'.units g = ctrl.units g) ∧ (align ≠ 0 → align ∣ f) := by
  obtain ⟨-, hend, hsearch, rfl⟩ := memAlloc_eq_some halloc
  obtain ⟨-, haligned, hclear⟩ := memSearch_spec (Scan.ok_zero _ _) (by decide) hsearch
  have hinv := h.setBlock hunits hend hclear
  refine ⟨hinv, units_setBlock_self ctrl (by unfold bitmapLen at hend; omega), ?_, haligned⟩
  intro g hg
  apply units_setBlock_of_ne
  rintro rfl
  exact (nodup_cons.mp hinv.nodup).1 hg

/-- **Freeing a block keeps the invariant.** -/
theorem memFree (hf : f ∈ bs) {slab : ℕ} (hslab : 0 < slab) (haligned : slab % unitSize = 0) :
    SlabInv (memFree ctrl slab (slab + f * unitSize)) (bs.erase f) ∧
      ∀ g, (Usdm.memFree ctrl slab (slab + f * unitSize)).units g = ctrl.units g := by
  obtain ⟨-, -, hend⟩ := h.inside f hf
  have hfirst : (slab + f * unitSize - slab) / unitSize = f := by
    unfold unitSize
    omega
  have heq : Usdm.memFree ctrl slab (slab + f * unitSize) = ctrl.clearBlock f (ctrl.units f) := by
    unfold Usdm.memFree
    rw [hfirst, if_neg (by unfold unitSize at *; omega),
      if_neg (by unfold BlockCtrl.units at hend; omega), BlockCtrl.units]
  rw [heq]
  exact ⟨h.clearBlock hf, fun g => rfl⟩

end

end SlabInv

end QuickAssist.Usdm
