import Mathlib.Data.BitVec
import QuickAssist.Lib.Scatter
import QuickAssist.Lib.Words

/-!
# Zeroing part of a buffer list

`LacBuffDesc_BufferListZeroFromOffset` walks the flat buffers of a list, skips those before the offset, and sets to
zero what is left to be zeroed of each buffer. `Zeroed` is what it is for; buffers may be empty, lie anywhere and
overlap. It has no result where it goes past the last buffer or the end of one.

**The defect.** Whether the bytes that are left end within a buffer is decided by the sum of their number and of the
offset in the buffer, modulo `2 ^ 32`. If it wraps they seem to end there, and all of them are zeroed past the end.
The number must then be smaller than the length of the buffer, since the code looks at that first: `Fits`.
-/

namespace QuickAssist.BufferDesc

open Lib Lib.Scatter

/-! ## The code -/

structure FlatBuffer where
  dataLenInBytes : U32
  pData : ℕ

abbrev Mem := ℕ → U8

def osalMemSet (m : Mem) (ptr : ℕ) (filler : U8) (count : ℕ) : Mem :=
  fun a => if ptr ≤ a ∧ a < ptr + count then filler else m a

/-- The number of bytes to zero in a buffer of a length, from an offset on.
Source: `LacBuffDesc_BufferListZeroFromOffset`, `zeroLen`. -/
def zeroLength (dataLen offset sizeLeftToZero : U32) : U32 :=
  if dataLen ≤ sizeLeftToZero then dataLen - offset
  else if dataLen ≤ sizeLeftToZero + offset then dataLen - offset
  else sizeLeftToZero

/-- The loop, from a buffer on. Source: `LacBuffDesc_BufferListZeroFromOffset`. -/
def zeroLoop : List FlatBuffer → U32 → U32 → Mem → Option Mem
  | [], _, sizeLeftToZero, m => if sizeLeftToZero = 0 then some m else none
  | buf :: bufs, offset, sizeLeftToZero, m =>
    if sizeLeftToZero = 0 then some m
    else if buf.dataLenInBytes ≤ offset then
      zeroLoop bufs (offset - buf.dataLenInBytes) sizeLeftToZero m
    else
      let zeroLen := zeroLength buf.dataLenInBytes offset sizeLeftToZero
      if offset.toNat + zeroLen.toNat ≤ buf.dataLenInBytes.toNat then
        zeroLoop bufs 0 (sizeLeftToZero - zeroLen)
          (osalMemSet m (buf.pData + offset.toNat) 0 zeroLen.toNat)
      else none

def bufferListZeroFromOffset (bufs : List FlatBuffer) (offset lenToZero : U32) (m : Mem) : Option Mem :=
  zeroLoop bufs offset lenToZero m

/-! ## What it is for -/

def FlatBuffer.extent (buf : FlatBuffer) : Extent := ⟨buf.pData, buf.dataLenInBytes.toNat⟩

def extents (bufs : List FlatBuffer) : List Extent := bufs.map FlatBuffer.extent

/-- **What zeroing is for**: the `n` bytes from the offset on are zero, and all others as they were. -/
structure Zeroed (bufs : List FlatBuffer) (offset n : ℕ) (m m' : Mem) : Prop where
  inside : ∀ a, Covers (extents bufs) offset n a → m' a = 0
  outside : ∀ a, ¬ Covers (extents bufs) offset n a → m' a = m a

/-- **The condition**: the buffer in which the bytes begin has no more bytes than are to be zeroed, or the last
of them, counted from its start, is within 32 bits. -/
def Fits (bufs : List FlatBuffer) (offset n : ℕ) : Prop :=
  ∀ e o, locate (extents bufs) offset = some (e, o) → e.len ≤ n ∨ o + n < 2 ^ 32

variable {buf : FlatBuffer} {bufs : List FlatBuffer} {offset size dataLen : U32} {m m' : Mem}

/-! ## One buffer -/

/-- **The bytes to zero in a buffer** are those that are left, as far as the buffer goes. -/
theorem zeroLength_eq (ho : offset < dataLen)
    (hfits : dataLen.toNat ≤ size.toNat ∨ offset.toNat + size.toNat < 2 ^ 32) :
    (zeroLength dataLen offset size).toNat = min size.toNat (dataLen.toNat - offset.toNat) := by
  have hsub : (dataLen - offset).toNat = dataLen.toNat - offset.toNat := BitVec.toNat_sub_of_le (BitVec.le_of_lt ho)
  unfold zeroLength
  split
  · next hle =>
      have hle' : dataLen.toNat ≤ size.toNat := hle
      omega
  · next hnle =>
      have hlt : size.toNat < dataLen.toNat := lt_of_not_ge hnle
      have hsum : (size + offset).toNat = size.toNat + offset.toNat := by
        apply BitVec.toNat_add_of_lt
        omega
      split
      · next hend =>
          have hend' : dataLen.toNat ≤ (size + offset).toNat := hend
          omega
      · next hend =>
          have hend' : (size + offset).toNat < dataLen.toNat := lt_of_not_ge hend
          omega

/-- If the sum wraps, the bytes to zero are all that are left, and go past the end of the buffer. -/
lemma zeroLength_of_wrap (hlt : size.toNat < dataLen.toNat) (hwrap : 2 ^ 32 ≤ offset.toNat + size.toNat) :
    dataLen.toNat < offset.toNat + (zeroLength dataLen offset size).toNat := by
  have hsum : (size + offset).toNat < dataLen.toNat := by
    rw [BitVec.toNat_add]
    omega
  have hle : ¬ dataLen ≤ size := by
    rw [BitVec.le_def]
    omega
  have hend : ¬ dataLen ≤ size + offset := by
    rw [BitVec.le_def]
    omega
  rw [zeroLength, if_neg hle, if_neg hend]
  omega

/-! ## The loop -/

lemma zeroLoop_zero (bufs : List FlatBuffer) (offset : U32) (m : Mem) : zeroLoop bufs offset 0 m = some m := by
  rcases bufs with _ | ⟨buf, bufs⟩ <;> simp [zeroLoop]

lemma zeroLoop_skip (hsize : size ≠ 0) (h : buf.dataLenInBytes ≤ offset) :
    zeroLoop (buf :: bufs) offset size m = zeroLoop bufs (offset - buf.dataLenInBytes) size m := by
  rw [zeroLoop, if_neg hsize, if_pos h]

lemma zeroLoop_zeroes (hsize : size ≠ 0) (ho : offset < buf.dataLenInBytes)
    (hfits : buf.dataLenInBytes.toNat ≤ size.toNat ∨ offset.toNat + size.toNat < 2 ^ 32) :
    zeroLoop (buf :: bufs) offset size m = zeroLoop bufs 0 (size - zeroLength buf.dataLenInBytes offset size)
        (osalMemSet m (buf.pData + offset.toNat) 0 (min size.toNat (buf.dataLenInBytes.toNat - offset.toNat))) := by
  have ho' : offset.toNat < buf.dataLenInBytes.toNat := ho
  have hlen := zeroLength_eq ho hfits
  have hin : offset.toNat + (zeroLength buf.dataLenInBytes offset size).toNat ≤ buf.dataLenInBytes.toNat := by
    omega
  rw [zeroLoop, if_neg hsize, if_neg (BitVec.not_le.mpr ho)]
  simp only [hin, ↓reduceIte]
  rw [hlen]

lemma zeroLoop_overrun (hlt : size.toNat < buf.dataLenInBytes.toNat) (hsize : size ≠ 0)
    (ho : offset < buf.dataLenInBytes) (hwrap : 2 ^ 32 ≤ offset.toNat + size.toNat) :
    zeroLoop (buf :: bufs) offset size m = none := by
  have hpast := zeroLength_of_wrap hlt hwrap
  have hout : ¬ offset.toNat + (zeroLength buf.dataLenInBytes offset size).toNat ≤ buf.dataLenInBytes.toNat := by
    omega
  rw [zeroLoop, if_neg hsize, if_neg (BitVec.not_le.mpr ho)]
  simp [hout]

/-! ## Over the buffers -/

lemma fits_of_lt {off n : ℕ} (h : off + n < 2 ^ 32) : Fits bufs off n := by
  intro e o hloc
  have hle := le_of_locate hloc
  right
  omega

lemma fits_cons_of_le {n : ℕ} (h : buf.dataLenInBytes ≤ offset) :
    Fits (buf :: bufs) offset.toNat n ↔ Fits bufs (offset - buf.dataLenInBytes).toNat n := by
  have hle : buf.extent.len ≤ offset.toNat := h
  have hloc : locate (extents (buf :: bufs)) offset.toNat =
      locate (extents bufs) (offset.toNat - buf.dataLenInBytes.toNat) := locate_cons_of_le hle
  unfold Fits
  rw [hloc, BitVec.toNat_sub_of_le h]

lemma fits_cons_of_lt {off n : ℕ} (h : off < buf.dataLenInBytes.toNat) :
    Fits (buf :: bufs) off n ↔ buf.dataLenInBytes.toNat ≤ n ∨ off + n < 2 ^ 32 := by
  have hloc : locate (extents (buf :: bufs)) off = some (buf.extent, off) := locate_cons_of_lt h
  unfold Fits
  rw [hloc]
  constructor
  · intro hfits
    exact hfits buf.extent off rfl
  · rintro hfits e o heq
    cases heq
    exact hfits

lemma zeroed_zero (bufs : List FlatBuffer) (off : ℕ) (m : Mem) : Zeroed bufs off 0 m m :=
  ⟨fun _ h => absurd h not_covers_zero, fun _ _ => rfl⟩

lemma Zeroed.skip {off n : ℕ} (h : buf.dataLenInBytes.toNat ≤ off)
    (hz : Zeroed bufs (off - buf.dataLenInBytes.toNat) n m m') : Zeroed (buf :: bufs) off n m m' := by
  have hcovers : ∀ a, Covers (extents (buf :: bufs)) off n a ↔
      Covers (extents bufs) (off - buf.dataLenInBytes.toNat) n a := fun a => covers_cons_of_le h
  constructor
  · intro a ha
    exact hz.inside a ((hcovers a).mp ha)
  · intro a ha
    exact hz.outside a fun h => ha ((hcovers a).mpr h)

lemma Zeroed.zeroes {off n : ℕ} (h : off < buf.dataLenInBytes.toNat)
    (hz : Zeroed bufs 0 (n - (buf.dataLenInBytes.toNat - off))
      (osalMemSet m (buf.pData + off) 0 (min n (buf.dataLenInBytes.toNat - off))) m') :
    Zeroed (buf :: bufs) off n m m' := by
  have hcovers : ∀ a, Covers (extents (buf :: bufs)) off n a ↔
      Extent.Has ⟨buf.pData + off, min n (buf.dataLenInBytes.toNat - off)⟩ a ∨
        Covers (extents bufs) 0 (n - (buf.dataLenInBytes.toNat - off)) a := fun a => covers_cons_of_lt h
  constructor
  · intro a ha
    by_cases hrest : Covers (extents bufs) 0 (n - (buf.dataLenInBytes.toNat - off)) a
    · exact hz.inside a hrest
    · rcases (hcovers a).mp ha with hhere | hrest'
      · rw [hz.outside a hrest]
        exact if_pos hhere
      · exact absurd hrest' hrest
  · intro a ha
    have hnot := fun h => ha ((hcovers a).mpr h)
    rw [hz.outside a fun h => hnot (Or.inr h)]
    exact if_neg fun h => hnot (Or.inl h)

/-- **The loop zeroes what it is to zero**, if the condition holds. -/
theorem zeroLoop_zeroed (hle : offset.toNat + size.toNat ≤ total (extents bufs))
    (hfits : Fits bufs offset.toNat size.toNat) :
    ∃ m', zeroLoop bufs offset size m = some m' ∧ Zeroed bufs offset.toNat size.toNat m m' := by
  induction bufs generalizing offset size m with
  | nil =>
    have hsize : size = 0 := by
      apply BitVec.eq_of_toNat_eq
      simp only [extents, List.map_nil, total, List.sum_nil] at hle
      change size.toNat = 0
      omega
    subst hsize
    exact ⟨m, rfl, zeroed_zero [] offset.toNat m⟩
  | cons buf bufs ih =>
    by_cases hsize : size = 0
    · subst hsize
      exact ⟨m, zeroLoop_zero _ offset m, zeroed_zero _ offset.toNat m⟩
    have htotal : total (extents (buf :: bufs)) = buf.dataLenInBytes.toNat + total (extents bufs) :=
      total_cons buf.extent (extents bufs)
    by_cases hskip : buf.dataLenInBytes ≤ offset
    · have hskip' : buf.dataLenInBytes.toNat ≤ offset.toNat := hskip
      have hsub : (offset - buf.dataLenInBytes).toNat = offset.toNat - buf.dataLenInBytes.toNat :=
        BitVec.toNat_sub_of_le hskip
      rw [fits_cons_of_le hskip] at hfits
      obtain ⟨m', hloop, hz⟩ := @ih (offset - buf.dataLenInBytes) size m (by omega) hfits
      rw [hsub] at hz
      exact ⟨m', (zeroLoop_skip hsize hskip).trans hloop, hz.skip hskip'⟩
    · have ho : offset < buf.dataLenInBytes := BitVec.not_le.mp hskip
      have ho' : offset.toNat < buf.dataLenInBytes.toNat := ho
      rw [fits_cons_of_lt ho'] at hfits
      have hlen := zeroLength_eq ho hfits
      have hrest : (size - zeroLength buf.dataLenInBytes offset size).toNat =
          size.toNat - (buf.dataLenInBytes.toNat - offset.toNat) := by
        rw [BitVec.toNat_sub_of_le (by rw [BitVec.le_def]; omega)]
        omega
      have hzero : (0 : U32).toNat = 0 := rfl
      have hin : (0 : U32).toNat + (size - zeroLength buf.dataLenInBytes offset size).toNat ≤
          total (extents bufs) := by
        omega
      -- from the start of the next buffer on nothing wraps
      have hlt : (0 : U32).toNat + (size - zeroLength buf.dataLenInBytes offset size).toNat < 2 ^ 32 := by
        rw [hzero, Nat.zero_add]
        exact BitVec.isLt _
      obtain ⟨m', hloop, hz⟩ := @ih 0 (size - zeroLength buf.dataLenInBytes offset size)
        (osalMemSet m (buf.pData + offset.toNat) 0
          (min size.toNat (buf.dataLenInBytes.toNat - offset.toNat))) hin (fits_of_lt hlt)
      rw [hrest] at hz
      exact ⟨m', (zeroLoop_zeroes hsize ho hfits).trans hloop, hz.zeroes ho'⟩

/-- **The loop passes the end of a buffer**, if the condition does not hold. -/
theorem zeroLoop_eq_none (hfits : ¬ Fits bufs offset.toNat size.toNat) : zeroLoop bufs offset size m = none := by
  induction bufs generalizing offset with
  | nil => exact absurd (fun e o h => absurd h (by simp [extents, locate])) hfits
  | cons buf bufs ih =>
    have hsize : size ≠ 0 := by
      rintro rfl
      exact hfits (fits_of_lt offset.isLt)
    by_cases hskip : buf.dataLenInBytes ≤ offset
    · rw [fits_cons_of_le hskip] at hfits
      rw [zeroLoop_skip hsize hskip]
      exact ih hfits
    · have ho : offset < buf.dataLenInBytes := BitVec.not_le.mp hskip
      have ho' : offset.toNat < buf.dataLenInBytes.toNat := ho
      rw [fits_cons_of_lt ho', not_or] at hfits
      exact zeroLoop_overrun (by omega) hsize ho (by omega)

/-- **Zeroing from an offset on is exact iff the sum does not wrap in the buffer the bytes begin in**; otherwise
it writes past the end of a buffer. -/
theorem zero_from_offset_iff (bufs : List FlatBuffer) (offset lenToZero : U32) (m : Mem)
    (hle : offset.toNat + lenToZero.toNat ≤ total (extents bufs)) :
    (∃ m', bufferListZeroFromOffset bufs offset lenToZero m = some m' ∧
      Zeroed bufs offset.toNat lenToZero.toNat m m') ↔ Fits bufs offset.toNat lenToZero.toNat := by
  unfold bufferListZeroFromOffset
  constructor
  · rintro ⟨m', hloop, -⟩
    by_contra hfits
    rw [zeroLoop_eq_none hfits] at hloop
    cases hloop
  · intro hfits
    exact zeroLoop_zeroed hle hfits

def threeBuffers : List FlatBuffer := [⟨4, 100⟩, ⟨0, 0⟩, ⟨3, 50⟩]

/-- Four bytes from the end of the first buffer on. -/
theorem three_buffers_zeroed : ∃ m', bufferListZeroFromOffset threeBuffers 3 4 (fun _ => 1) = some m' ∧
      Zeroed threeBuffers 3 4 (fun _ => 1) m' :=
  (zero_from_offset_iff threeBuffers 3 4 (fun _ => 1) (by decide)).mpr (fits_of_lt (by decide))

/-- Two buffers of `2 ^ 31 + 16` bytes each. -/
def largeBuffers : List FlatBuffer := [⟨0x80000010, 0⟩, ⟨0x80000010, 0x100000000⟩]

/-- **What is written past a buffer.** Of the `2 ^ 31` bytes to be zeroed 16 are in the first buffer, but all of
them are zeroed there. -/
theorem zero_past_buffer : (0x80000000 : U32).toNat + (0x80000000 : U32).toNat ≤ total (extents largeBuffers) ∧
    zeroLength 0x80000010 0x80000000 0x80000000 = 0x80000000 ∧
    bufferListZeroFromOffset largeBuffers 0x80000000 0x80000000 (fun _ => 1) = none := by
  refine ⟨by decide, by decide, ?_⟩
  rfl

end QuickAssist.BufferDesc
