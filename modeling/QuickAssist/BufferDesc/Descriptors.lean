import QuickAssist.BufferDesc.ZeroFromOffset

/-!
# Buffer lists as the device sees them

A client's buffer list is given to the device as a list of descriptors, in the metadata that comes with the list: the
number of buffers, and of each its length and its physical address. `LacBuffDesc_BufferListDescWrite` and
`LacBuffDesc_BufferListDescWriteAndGetSize` write them, each with its own loop; the second adds up the lengths.

**Empty lists.** The first function writes one descriptor of no bytes for a list without buffers, because the
firmware wants one; the second writes none. `LacBuffDesc_BufferListVerify` refuses such lists.

**Outside.** The physical address of a virtual one is what a function of the service says; 0 is none.
-/

namespace QuickAssist.BufferDesc

open Function List

/-! ## Lists and descriptors -/

structure BufferList where
  pBuffers : Bool
  buffers : List FlatBuffer
  numBuffers_lt : buffers.length < 2 ^ 32
  pPrivateMetaData : ℕ

/-- Source: `icp_flat_buffer_desc_t`. -/
structure FlatBufDesc where
  dataLenInBytes : U32
  phyBuffer : U64

/-- Source: `icp_buffer_list_desc_t`. -/
structure BufListDesc where
  numBuffers : U32
  phyBuffers : ℕ → FlatBufDesc

structure DescState where
  desc : ℕ → BufListDesc
  /-- `*pBufListAlignedPhyAddr` -/
  bufListAlignedPhyAddr : U64

/-- `CPA_STATUS_SUCCESS` and `CPA_STATUS_FAIL`. -/
inductive DescStatus
  | success
  | fail
  deriving DecidableEq

/-- The alignments that can be asked for. Source: `lac_aligment_shift_t`. -/
inductive AlignmentShift
  | no
  | byte8
  | byte16
  | byte64
  | kbyte4
  deriving DecidableEq

def AlignmentShift.shift : AlignmentShift → ℕ
  | no => 0
  | byte8 => 3
  | byte16 => 4
  | byte64 => 6
  | kbyte4 => 12

/-! ## Checking and adding up -/

/-- Check a buffer and add its length; `none` is `CPA_STATUS_INVALID_PARAM`. -/
def flatBufferVerify (alignment : AlignmentShift) (pktSize : U64) (buf : FlatBuffer) : Option U64 :=
  if buf.pData = 0 then none
  else if buf.dataLenInBytes = 0 then none
  else if alignment ≠ .no ∧ buf.pData % 2 ^ alignment.shift ≠ 0 then none
  else some (pktSize + buf.dataLenInBytes.setWidth 64)

def bufferListVerify (alignment : AlignmentShift) (l : BufferList) : Option U64 :=
  if l.pBuffers = false then none
  else if l.pPrivateMetaData = 0 then none
  else if l.buffers.length = 0 then none
  else l.buffers.foldlM (flatBufferVerify alignment) 0

def bufferListTotalSizeGet (l : BufferList) : U64 :=
  l.buffers.foldl (fun pktSize buf => pktSize + buf.dataLenInBytes.setWidth 64) 0

/-! ## Writing descriptors -/

/-- Source: `LAC_ALIGN_POW2_ROUNDUP`, with `ICP_DESCRIPTOR_ALIGNMENT_BYTES`. -/
def alignDescriptor (num : U64) : U64 := (num + 7) &&& ~~~7

/-- Where the descriptors are written, and the physical address of it; `none` if it has none.
Source: `LacBuffDesc_BufferListDescWrite`, `LacBuffDesc_BufferListDescWriteAndGetSize`. -/
def descPlace (virt2Phys : ℕ → U64) (pPrivateMetaData : ℕ) : Option (ℕ × U64) :=
  let phyAddr := virt2Phys pPrivateMetaData
  if phyAddr = 0 then none
  else some (pPrivateMetaData + (alignDescriptor phyAddr - phyAddr).toNat, alignDescriptor phyAddr)

/-- The physical address of a buffer. Source: the same. -/
def phyBuffer (virt2Phys : ℕ → U64) (isPhysicalAddress : Bool) (buf : FlatBuffer) : U64 :=
  if isPhysicalAddress then BitVec.ofNat 64 buf.pData else virt2Phys buf.pData

/-- The loop of `LacBuffDesc_BufferListDescWrite`. -/
def writeLoop (virt2Phys : ℕ → U64) (isPhysicalAddress : Bool) :
    List FlatBuffer → ℕ → (ℕ → FlatBufDesc) → DescStatus × (ℕ → FlatBufDesc)
  | [], _, d => (.success, d)
  | buf :: bufs, i, d =>
    let phy := phyBuffer virt2Phys isPhysicalAddress buf
    let d := update d i ⟨buf.dataLenInBytes, phy⟩
    if isPhysicalAddress = false ∧ phy = 0 then (.fail, d)
    else writeLoop virt2Phys isPhysicalAddress bufs (i + 1) d

def bufferListDescWrite (virt2Phys : ℕ → U64) (l : BufferList) (isPhysicalAddress : Bool)
    (s : DescState) : DescStatus × DescState :=
  match descPlace virt2Phys l.pPrivateMetaData with
  | none => (.fail, s)
  | some (pBufferListDesc, alignedPhyAddr) =>
    -- one descriptor of no bytes stands for no buffers
    let numBuffers : U32 := if l.buffers.length = 0 then 1 else BitVec.ofNat 32 l.buffers.length
    let d := (s.desc pBufferListDesc).phyBuffers
    let d := if l.buffers.length = 0 then update d 0 ⟨0, 0⟩ else d
    let (status, d) := writeLoop virt2Phys isPhysicalAddress l.buffers 0 d
    (status,
      ⟨update s.desc pBufferListDesc ⟨numBuffers, d⟩,
        if status = .success then alignedPhyAddr else s.bufListAlignedPhyAddr⟩)

/-- The loop of `LacBuffDesc_BufferListDescWriteAndGetSize`. -/
def writeAndGetSizeLoop (virt2Phys : ℕ → U64) (isPhysicalAddress : Bool) :
    List FlatBuffer → ℕ → U64 → (ℕ → FlatBufDesc) → U64 × DescStatus × (ℕ → FlatBufDesc)
  | [], _, total, d => (total, .success, d)
  | buf :: bufs, i, total, d =>
    let total := total + buf.dataLenInBytes.setWidth 64
    let phy := phyBuffer virt2Phys isPhysicalAddress buf
    let d := update d i ⟨buf.dataLenInBytes, phy⟩
    if isPhysicalAddress = false ∧ phy = 0 then (total, .fail, d)
    else writeAndGetSizeLoop virt2Phys isPhysicalAddress bufs (i + 1) total d

def bufferListDescWriteAndGetSize (virt2Phys : ℕ → U64) (l : BufferList) (isPhysicalAddress : Bool)
    (s : DescState) : U64 × DescStatus × DescState :=
  match descPlace virt2Phys l.pPrivateMetaData with
  | none => (0, .fail, s)
  | some (pBufferListDesc, alignedPhyAddr) =>
    let (total, status, d) :=
      writeAndGetSizeLoop virt2Phys isPhysicalAddress l.buffers 0 0 (s.desc pBufferListDesc).phyBuffers
    (total, status,
      ⟨update s.desc pBufferListDesc ⟨BitVec.ofNat 32 l.buffers.length, d⟩,
        if status = .success then alignedPhyAddr else s.bufListAlignedPhyAddr⟩)

/-! ## What descriptors are for -/

section Specification

variable (virt2Phys : ℕ → U64) (isPhysicalAddress : Bool)

def Addressable (buf : FlatBuffer) : Prop := isPhysicalAddress = false → virt2Phys buf.pData ≠ 0

/-- The device sees the buffers: as many, each with its length and its physical address, in order. -/
def Describes (bufs : List FlatBuffer) (d : BufListDesc) : Prop :=
  d.numBuffers = BitVec.ofNat 32 bufs.length ∧ ∀ k (hk : k < bufs.length),
      d.phyBuffers k = ⟨bufs[k].dataLenInBytes, phyBuffer virt2Phys isPhysicalAddress bufs[k]⟩

def totalLength (bufs : List FlatBuffer) : ℕ := (bufs.map fun buf => buf.dataLenInBytes.toNat).sum

end Specification

/-! ## Adding up -/

lemma totalLength_cons (buf : FlatBuffer) (bufs : List FlatBuffer) :
    totalLength (buf :: bufs) = buf.dataLenInBytes.toNat + totalLength bufs := by
  simp [totalLength]

lemma totalLength_le (bufs : List FlatBuffer) : totalLength bufs ≤ bufs.length * (2 ^ 32 - 1) := by
  induction bufs with
  | nil => simp [totalLength]
  | cons buf bufs ih =>
    rw [totalLength_cons, length_cons]
    omega

lemma toNat_foldl_length (bufs : List FlatBuffer) (total : U64) (h : total.toNat + totalLength bufs < 2 ^ 64) :
    (bufs.foldl (fun pktSize buf => pktSize + buf.dataLenInBytes.setWidth 64) total).toNat =
      total.toNat + totalLength bufs := by
  induction bufs generalizing total with
  | nil => simp [totalLength]
  | cons buf bufs ih =>
    rw [totalLength_cons] at h
    have hadd : (total + buf.dataLenInBytes.setWidth 64).toNat = total.toNat + buf.dataLenInBytes.toNat := by
      rw [BitVec.toNat_add, BitVec.toNat_setWidth, Nat.mod_eq_of_lt (a := buf.dataLenInBytes.toNat) (by omega)]
      exact Nat.mod_eq_of_lt (by omega)
    rw [foldl_cons, ih _ (by omega), hadd, totalLength_cons]
    omega

lemma toNat_bufferListTotalSizeGet (l : BufferList) : (bufferListTotalSizeGet l).toNat = totalLength l.buffers := by
  have hle := totalLength_le l.buffers
  have hnum := l.numBuffers_lt
  have hzero : (0 : U64).toNat = 0 := rfl
  have hfold := toNat_foldl_length l.buffers 0 (by omega)
  rw [hzero, Nat.zero_add] at hfold
  exact hfold

variable {alignment : AlignmentShift} {n : U64}

lemma foldl_of_foldlM_flatBufferVerify (bufs : List FlatBuffer) (total : U64)
    (h : bufs.foldlM (flatBufferVerify alignment) total = some n) :
    bufs.foldl (fun pktSize buf => pktSize + buf.dataLenInBytes.setWidth 64) total = n := by
  induction bufs generalizing total with
  | nil => exact Option.some.inj h
  | cons buf bufs ih =>
    obtain ⟨total', hbuf, hrest⟩ := Option.bind_eq_some_iff.mp h
    rw [foldl_cons]
    unfold flatBufferVerify at hbuf
    split at hbuf
    · cases hbuf
    · split at hbuf
      · cases hbuf
      · split_ifs at hbuf
        rw [Option.some.inj hbuf]
        exact ih total' hrest

lemma bufferListVerify_eq_some {l : BufferList}
    (h : bufferListVerify alignment l = some n) : l.buffers ≠ [] ∧ bufferListTotalSizeGet l = n := by
  unfold bufferListVerify at h
  split at h
  · cases h
  · split at h
    · cases h
    · split_ifs at h with hlen
      refine ⟨fun hnil => hlen (by rw [hnil]; rfl), ?_⟩
      exact foldl_of_foldlM_flatBufferVerify l.buffers 0 h

/-! ## The two loops -/

section Loops

variable (virt2Phys : ℕ → U64) (isPhysicalAddress : Bool)

section

variable (bufs : List FlatBuffer) (i : ℕ) (d : ℕ → FlatBufDesc)

include bufs i

lemma writeAndGetSizeLoop_snd (total : U64) (d : ℕ → FlatBufDesc) :
    (writeAndGetSizeLoop virt2Phys isPhysicalAddress bufs i total d).2 =
      writeLoop virt2Phys isPhysicalAddress bufs i d := by
  induction bufs generalizing i total d with
  | nil => rfl
  | cons buf bufs ih =>
    simp only [writeAndGetSizeLoop, writeLoop]
    split
    · rfl
    · apply ih

lemma writeAndGetSizeLoop_fst (total : U64) (d : ℕ → FlatBufDesc)
    (h : (writeLoop virt2Phys isPhysicalAddress bufs i d).1 = .success) :
    (writeAndGetSizeLoop virt2Phys isPhysicalAddress bufs i total d).1 =
      bufs.foldl (fun pktSize buf => pktSize + buf.dataLenInBytes.setWidth 64) total := by
  induction bufs generalizing i total d with
  | nil => rfl
  | cons buf bufs ih =>
    simp only [writeLoop] at h
    simp only [writeAndGetSizeLoop, foldl_cons]
    split
    · next hfail =>
      rw [if_pos hfail] at h
      cases h
    · next hok =>
      rw [if_neg hok] at h
      exact ih _ _ _ h

lemma writeLoop_success_iff : (writeLoop virt2Phys isPhysicalAddress bufs i d).1 = .success ↔
      ∀ buf ∈ bufs, Addressable virt2Phys isPhysicalAddress buf := by
  induction bufs generalizing i d with
  | nil => simp [writeLoop]
  | cons buf bufs ih =>
    have hbuf : Addressable virt2Phys isPhysicalAddress buf ↔
        ¬ (isPhysicalAddress = false ∧ phyBuffer virt2Phys isPhysicalAddress buf = 0) := by
      unfold Addressable phyBuffer
      cases isPhysicalAddress <;> simp
    simp only [writeLoop, forall_mem_cons]
    rw [hbuf]
    split
    · next hfail =>
      constructor
      · intro h
        cases h
      · intro hall
        exact absurd hfail hall.1
    · next hok =>
      rw [ih]
      exact ⟨fun hrest => ⟨hok, hrest⟩, fun hall => hall.2⟩

lemma writeLoop_snd_of_lt {k : ℕ} (hk : k < i) : (writeLoop virt2Phys isPhysicalAddress bufs i d).2 k = d k := by
  induction bufs generalizing i d with
  | nil => rfl
  | cons buf bufs ih =>
    have hne : k ≠ i := Nat.ne_of_lt hk
    simp only [writeLoop]
    split
    · exact update_of_ne hne _ _
    · rw [ih (i + 1) _ (by omega)]
      exact update_of_ne hne _ _

lemma writeLoop_snd_of_success
    (h : (writeLoop virt2Phys isPhysicalAddress bufs i d).1 = .success) (k : ℕ) (hk : k < bufs.length) :
    (writeLoop virt2Phys isPhysicalAddress bufs i d).2 (i + k) =
      ⟨bufs[k].dataLenInBytes, phyBuffer virt2Phys isPhysicalAddress bufs[k]⟩ := by
  induction bufs generalizing i d k with
  | nil => exact absurd hk (Nat.not_lt_zero k)
  | cons buf bufs ih =>
    simp only [writeLoop] at h ⊢
    split_ifs at h with hok
    rw [if_neg hok]
    rcases k with _ | k
    · -- written in this round, and kept by the rest
      apply (writeLoop_snd_of_lt virt2Phys isPhysicalAddress bufs (i + 1) _ (Nat.lt_succ_self i)).trans
      exact update_self i _ d
    · have hrest := ih (i + 1) _ h k (Nat.lt_of_succ_lt_succ hk)
      rw [Nat.add_right_comm, Nat.add_assoc] at hrest
      exact hrest

end

end Loops

/-! ## The two functions -/

section Functions

variable (virt2Phys : ℕ → U64) (isPhysicalAddress : Bool) (l : BufferList) (s : DescState)

lemma descPlace_cases (p : ℕ) : descPlace virt2Phys p = none ∧ virt2Phys p = 0 ∨
    ∃ q phy, descPlace virt2Phys p = some (q, phy) ∧ virt2Phys p ≠ 0 := by
  by_cases hzero : virt2Phys p = 0 <;> simp [descPlace, hzero, em]

/-- **The two functions do the same for the lists that have buffers.** For a list without, only the first one
writes a descriptor. -/
theorem descWrite_eq_iff : (bufferListDescWriteAndGetSize virt2Phys l isPhysicalAddress s).2 =
        bufferListDescWrite virt2Phys l isPhysicalAddress s ↔ l.buffers ≠ [] ∨ virt2Phys l.pPrivateMetaData = 0 := by
  unfold bufferListDescWriteAndGetSize bufferListDescWrite
  obtain ⟨hplace, hzero⟩ | ⟨p, phy, hplace, hnonzero⟩ := descPlace_cases virt2Phys l.pPrivateMetaData
  · simp [hplace, hzero]
  · rw [hplace]
    rcases hbufs : l.buffers with _ | ⟨buf, bufs⟩
    · -- no buffers: the counts written are 0 and 1
      simp only [ne_eq, not_true_eq_false, hnonzero, or_self, iff_false]
      intro heq
      have hdesc := congrFun (congrArg (fun r => DescState.desc r.2) heq) p
      have hnum := congrArg BufListDesc.numBuffers hdesc
      simp [writeLoop, writeAndGetSizeLoop] at hnum
    · have hsnd := writeAndGetSizeLoop_snd virt2Phys isPhysicalAddress (buf :: bufs) 0 0 (s.desc p).phyBuffers
      have hlen : (buf :: bufs).length ≠ 0 := by simp
      simp only [hsnd, hlen, ↓reduceIte, ne_eq, reduceCtorEq, not_false_eq_true, true_or]

lemma bufferListDescWrite_success_iff : (bufferListDescWrite virt2Phys l isPhysicalAddress s).1 = .success ↔
      virt2Phys l.pPrivateMetaData ≠ 0 ∧ ∀ buf ∈ l.buffers, Addressable virt2Phys isPhysicalAddress buf := by
  unfold bufferListDescWrite
  obtain ⟨hplace, hzero⟩ | ⟨p, phy, hplace, hnonzero⟩ := descPlace_cases virt2Phys l.pPrivateMetaData
  · simp [hplace, hzero]
  · simp only [hplace, writeLoop_success_iff, ne_eq, hnonzero, not_false_eq_true, true_and]

lemma bufferListDescWriteAndGetSize_of_success
    (h : (bufferListDescWriteAndGetSize virt2Phys l isPhysicalAddress s).2.1 = .success) :
    (bufferListDescWriteAndGetSize virt2Phys l isPhysicalAddress s).1 = bufferListTotalSizeGet l ∧
      ∃ p phy, descPlace virt2Phys l.pPrivateMetaData = some (p, phy) ∧
        Describes virt2Phys isPhysicalAddress l.buffers
          ((bufferListDescWriteAndGetSize virt2Phys l isPhysicalAddress s).2.2.desc p) ∧
        (bufferListDescWriteAndGetSize virt2Phys l isPhysicalAddress s).2.2.bufListAlignedPhyAddr = phy := by
  unfold bufferListDescWriteAndGetSize at h ⊢
  rcases hplace : descPlace virt2Phys l.pPrivateMetaData with _ | ⟨p, phy⟩
  · rw [hplace] at h
    cases h
  · have hsnd := writeAndGetSizeLoop_snd virt2Phys isPhysicalAddress l.buffers 0 0 (s.desc p).phyBuffers
    rw [hplace] at h
    simp only [hsnd] at h ⊢
    have hentries := writeLoop_snd_of_success virt2Phys isPhysicalAddress l.buffers 0 _ h
    refine ⟨writeAndGetSizeLoop_fst virt2Phys isPhysicalAddress l.buffers 0 0 _ h, p, phy, rfl, ⟨?_, ?_⟩, ?_⟩
    · rw [update_self]
    · intro k hk
      rw [update_self, ← hentries k hk, Nat.zero_add]
    · exact if_pos h

end Functions

/-- **Checked lists are described alike, and measured right.** -/
theorem verified_lists_described (virt2Phys : ℕ → U64) (isPhysicalAddress : Bool)
    (alignment : AlignmentShift) (l : BufferList) (n : U64) (s : DescState)
    (h : bufferListVerify alignment l = some n) :
    let write := bufferListDescWrite virt2Phys l isPhysicalAddress s
    let writeAndGetSize := bufferListDescWriteAndGetSize virt2Phys l isPhysicalAddress s
    writeAndGetSize.2 = write ∧ (write.1 = .success ↔
        virt2Phys l.pPrivateMetaData ≠ 0 ∧ ∀ buf ∈ l.buffers, Addressable virt2Phys isPhysicalAddress buf) ∧
      (write.1 = .success → writeAndGetSize.1 = bufferListTotalSizeGet l ∧ writeAndGetSize.1 = n ∧
          writeAndGetSize.1.toNat = totalLength l.buffers ∧
          ∃ p phy, descPlace virt2Phys l.pPrivateMetaData = some (p, phy) ∧
            Describes virt2Phys isPhysicalAddress l.buffers (write.2.desc p) ∧
            write.2.bufListAlignedPhyAddr = phy) := by
  intro write writeAndGetSize
  obtain ⟨hbufs, hsize⟩ := bufferListVerify_eq_some h
  have hsame : writeAndGetSize.2 = write := (descWrite_eq_iff virt2Phys isPhysicalAddress l s).mpr (Or.inl hbufs)
  refine ⟨hsame, bufferListDescWrite_success_iff virt2Phys isPhysicalAddress l s, ?_⟩
  intro hsuccess
  rw [← hsame] at hsuccess ⊢
  obtain ⟨htotal, hdesc⟩ := bufferListDescWriteAndGetSize_of_success virt2Phys isPhysicalAddress l s hsuccess
  refine ⟨htotal, htotal.trans hsize, ?_, hdesc⟩
  rw [htotal]
  exact toNat_bufferListTotalSizeGet l

def twoBuffers : BufferList := ⟨true, [⟨16, 0x1000⟩, ⟨8, 0x2000⟩], by decide, 0x3004⟩

theorem two_buffers_described : let s : DescState := ⟨fun _ => ⟨0, fun _ => ⟨0, 0⟩⟩, 0⟩
    let virt2Phys : ℕ → U64 := fun a => BitVec.ofNat 64 (a + 0x10000)
    bufferListVerify .byte64 twoBuffers = some 24 ∧
      (bufferListDescWriteAndGetSize virt2Phys twoBuffers false s).1 = 24 ∧
      (bufferListDescWriteAndGetSize virt2Phys twoBuffers false s).2 =
        bufferListDescWrite virt2Phys twoBuffers false s := by
  intro s virt2Phys
  have hverify : bufferListVerify .byte64 twoBuffers = some 24 := by decide
  have hmain := verified_lists_described virt2Phys false .byte64 twoBuffers 24 s hverify
  exact ⟨hverify, (hmain.2.2 (by decide)).2.1, hmain.1⟩

end QuickAssist.BufferDesc
