import QuickAssist.PfVf.Message

/-!
# Block requests at the PF

A VF reads a *block* of the PF's (its capabilities, for one) byte by byte: it asks for the version, the length, each
data byte and finally a CRC. This file is the PF's end of that exchange, from `adf_pf2vf_msg.c`.

**What a provider hands out.** A provider returns a pointer, a size and a version. The pointer is the memory behind
it, because the code that reads through it does not know where the block ends: `adf_pfvf_crc` reads as many bytes as
it is told to. Every read is logged, and `blockAnswer_congr` says that the log is complete.

**The defect.** For a CRC request whose byte number is `0` the CRC is taken over `byte_num - 1` bytes, which for a
`u8` is 255, and no block is longer than 126 (`adfVf2pfReqHndl_reads_lt_size_iff`).
-/

namespace QuickAssist.PfVf

open List Option

/-! ## The CRC -/

def pfvfCrc8Table : List Byte :=
  [ 0x00, 0x97, 0xB9, 0x2E, 0xE5, 0x72, 0x5C, 0xCB, 0x5D, 0xCA, 0xE4, 0x73, 0xB8, 0x2F, 0x01, 0x96,
    0xBA, 0x2D, 0x03, 0x94, 0x5F, 0xC8, 0xE6, 0x71, 0xE7, 0x70, 0x5E, 0xC9, 0x02, 0x95, 0xBB, 0x2C,
    0xE3, 0x74, 0x5A, 0xCD, 0x06, 0x91, 0xBF, 0x28, 0xBE, 0x29, 0x07, 0x90, 0x5B, 0xCC, 0xE2, 0x75,
    0x59, 0xCE, 0xE0, 0x77, 0xBC, 0x2B, 0x05, 0x92, 0x04, 0x93, 0xBD, 0x2A, 0xE1, 0x76, 0x58, 0xCF,
    0x51, 0xC6, 0xE8, 0x7F, 0xB4, 0x23, 0x0D, 0x9A, 0x0C, 0x9B, 0xB5, 0x22, 0xE9, 0x7E, 0x50, 0xC7,
    0xEB, 0x7C, 0x52, 0xC5, 0x0E, 0x99, 0xB7, 0x20, 0xB6, 0x21, 0x0F, 0x98, 0x53, 0xC4, 0xEA, 0x7D,
    0xB2, 0x25, 0x0B, 0x9C, 0x57, 0xC0, 0xEE, 0x79, 0xEF, 0x78, 0x56, 0xC1, 0x0A, 0x9D, 0xB3, 0x24,
    0x08, 0x9F, 0xB1, 0x26, 0xED, 0x7A, 0x54, 0xC3, 0x55, 0xC2, 0xEC, 0x7B, 0xB0, 0x27, 0x09, 0x9E,
    0xA2, 0x35, 0x1B, 0x8C, 0x47, 0xD0, 0xFE, 0x69, 0xFF, 0x68, 0x46, 0xD1, 0x1A, 0x8D, 0xA3, 0x34,
    0x18, 0x8F, 0xA1, 0x36, 0xFD, 0x6A, 0x44, 0xD3, 0x45, 0xD2, 0xFC, 0x6B, 0xA0, 0x37, 0x19, 0x8E,
    0x41, 0xD6, 0xF8, 0x6F, 0xA4, 0x33, 0x1D, 0x8A, 0x1C, 0x8B, 0xA5, 0x32, 0xF9, 0x6E, 0x40, 0xD7,
    0xFB, 0x6C, 0x42, 0xD5, 0x1E, 0x89, 0xA7, 0x30, 0xA6, 0x31, 0x1F, 0x88, 0x43, 0xD4, 0xFA, 0x6D,
    0xF3, 0x64, 0x4A, 0xDD, 0x16, 0x81, 0xAF, 0x38, 0xAE, 0x39, 0x17, 0x80, 0x4B, 0xDC, 0xF2, 0x65,
    0x49, 0xDE, 0xF0, 0x67, 0xAC, 0x3B, 0x15, 0x82, 0x14, 0x83, 0xAD, 0x3A, 0xF1, 0x66, 0x48, 0xDF,
    0x10, 0x87, 0xA9, 0x3E, 0xF5, 0x62, 0x4C, 0xDB, 0x4D, 0xDA, 0xF4, 0x63, 0xA8, 0x3F, 0x11, 0x86,
    0xAA, 0x3D, 0x13, 0x84, 0x4F, 0xD8, 0xF6, 0x61, 0xF7, 0x60, 0x4E, 0xD9, 0x12, 0x85, 0xAB, 0x3C  ]

/-- One byte of the CRC, `pfvf_crc8_table[(crc ^ b) & 0xff]`. -/
def crcStep (crc b : Byte) : Byte := pfvfCrc8Table.getD (crc ^^^ b).toNat 0

def adfPfvfCrc (buf : ℕ → Byte) : (crc : Byte) → (pos len : ℕ) → Byte × List ℕ
  | crc, _, 0 => (crc, [])
  | crc, pos, len + 1 =>
    let (crc', reads) := adfPfvfCrc buf (crcStep crc (buf pos)) (pos + 1) len
    (crc', pos :: reads)

def crc8InitValue : Byte := 0xFF#8

def crcOf (crc : Byte) (bytes : List Byte) : Byte := bytes.foldl crcStep crc

lemma adfPfvfCrc_eq (buf : ℕ → Byte) (crc : Byte) (pos len : ℕ) :
    adfPfvfCrc buf crc pos len = (crcOf crc ((range' pos len).map buf), range' pos len) := by
  induction len generalizing crc pos with
  | zero => rfl
  | succ len ih => simp [adfPfvfCrc, ih, crcOf, range'_succ]

/-! ## Providers -/

/-- What a provider hands out: the memory behind `*buffer`, `*length` and `*block_version`. -/
structure BlockView where
  buffer : ℕ → Byte
  size : Byte
  msgVer : Byte

/-- A block provider, given the VF's compatibility version and the byte number; `none` for a non-zero return
code. Source: `adf_iov_block_provider`. -/
abbrev Provider := (compatibility byteNum : Byte) → Option BlockView

/-- `pf2vf_message_providers`: one slot a message type, `none` for `NULL`. -/
abbrev Providers := Fin 28 → Option Provider

/-- Byte `i` of a 32-bit value, least significant first. -/
def byteOf (val : Word) (i : ℕ) : Byte := (val >>> (8 * i)).setWidth 8

/-- The provider of the capability block; `beyond` is what the static array and the memory after it hold where
this call does not write. -/
def adfPfCapabilitiesMsgProvider (extDcCaps capabilities frequency : Word) (beyond : ℕ → Byte) :
    Provider := fun _ _ =>
  some
    { buffer := fun i =>
        if i < 4 then byteOf extDcCaps i
        else if i < 8 then byteOf capabilities (i - 4)
        else if frequency ≠ 0 ∧ i < 12 then byteOf frequency (i - 8)
        else beyond i
      size := if frequency ≠ 0 then 12 else 8
      msgVer := if frequency ≠ 0 then 3 else 2 }

/-- The codes a failed block request answers with.
Source: `ADF_PF2VF_INVALID_BLOCK_TYPE` and the three after it. -/
inductive BlockError
  | invalidBlockType
  | invalidByteNumReq
  | payloadTruncated
  | unspecifiedError

def BlockError.code : BlockError → Byte
  | invalidBlockType => 0x0#8
  | invalidByteNumReq => 0x1#8
  | payloadTruncated => 0x2#8
  | unspecifiedError => 0x3#8

/-- The size test of `adf_iov_block_get_data`: too large for the class of the message type. -/
def sizeTooLarge (msgType size : Byte) : Bool :=
  (msgType.toNat ≤ BlockClass.small.maxMessageType && decide (BlockClass.small.payloadSize < size.toNat))
    || (msgType.toNat ≤ BlockClass.medium.maxMessageType
      && decide (BlockClass.medium.payloadSize < size.toNat))
    || decide (BlockClass.large.payloadSize < size.toNat)

/-- The block a request is answered from: a provider is registered for the type, it succeeds, and
its size passes the test. -/
def providedBlock (providers : Providers) (msgType compatibility byteNum : Byte) : Except BlockError BlockView :=
  if h : msgType.toNat < 28 then
    match providers ⟨msgType.toNat, h⟩ with
    | none => .error .invalidBlockType
    | some provider =>
      match provider compatibility byteNum with
      | none => .error .unspecifiedError
      | some blk => if sizeTooLarge msgType blk.size then .error .payloadTruncated else .ok blk
  else .error .invalidBlockType

/-- The byte a request is answered with, once the block is known and the byte number has passed
its test, and the offsets of the block read for it. -/
def blockAnswer (blk : BlockView) (byteNum : Byte) (crc : Bool) : Byte × List ℕ :=
  if crc then
    let crc8 := crcStep crc8InitValue blk.msgVer
    let crc8 := crcStep crc8 blk.size
    adfPfvfCrc blk.buffer crc8 0 (byteNum - 1).toNat
  else if byteNum = 0 then (blk.msgVer, [])
  else if byteNum = 1 then (blk.size, [])
  else (blk.buffer (byteNum.toNat - blockData), [byteNum.toNat - blockData])

def adfIovBlockGetData (providers : Providers) (msgType byteNum compatibility : Byte)
    (crc : Bool) : Except BlockError Byte × List ℕ :=
  match providedBlock providers msgType compatibility byteNum with
  | .error e => (.error e, [])
  | .ok blk =>
    if blk.size.toNat + blockData ≤ byteNum.toNat then (.error .invalidByteNumReq, [])
    else
      let (data, reads) := blockAnswer blk byteNum crc
      (.ok data, reads)

/-! ### What a block answer reads -/

lemma size_le_of_not_sizeTooLarge {msgType size : Byte} (h : sizeTooLarge msgType size = false) :
    size.toNat ≤ 126 := by
  simp only [sizeTooLarge, Bool.or_eq_false_iff, decide_eq_false_iff_not] at h
  exact not_lt.mp h.2

variable {byteNum : Byte}

lemma size_le_of_providedBlock {providers : Providers} {msgType compatibility : Byte}
    {blk : BlockView} (h : providedBlock providers msgType compatibility byteNum = .ok blk) :
    blk.size.toNat ≤ 126 := by
  unfold providedBlock at h
  split_ifs at h
  split at h
  · cases h
  · split at h
    · cases h
    · split_ifs at h with hsize
      cases h
      exact size_le_of_not_sizeTooLarge (by simpa using hsize)

lemma blockAnswer_crc_reads (blk : BlockView) (byteNum : Byte) :
    (blockAnswer blk byteNum true).2 = range (byteNum - 1).toNat := by
  simp [blockAnswer, adfPfvfCrc_eq, range_eq_range']

lemma lt_size_of_mem_blockAnswer_data {blk : BlockView} {i : ℕ} (hnum : byteNum.toNat < blk.size.toNat + blockData)
    (hi : i ∈ (blockAnswer blk byteNum false).2) : i < blk.size.toNat := by
  unfold blockAnswer at hi
  simp only [Bool.false_eq_true, if_false] at hi
  split_ifs at hi with h0 h1
  · cases hi
  · cases hi
  · simp only [mem_singleton] at hi
    unfold blockData at hi hnum
    bv_omega

lemma toNat_sub_one (h : byteNum ≠ 0) : (byteNum - 1).toNat = byteNum.toNat - 1 := by
  bv_omega

lemma blockAnswer_congr {blk blk' : BlockView} {crc : Bool}
    (hver : blk.msgVer = blk'.msgVer) (hsize : blk.size = blk'.size)
    (hbytes : ∀ i ∈ (blockAnswer blk byteNum crc).2, blk.buffer i = blk'.buffer i) :
    blockAnswer blk byteNum crc = blockAnswer blk' byteNum crc := by
  cases crc with
  | true =>
    rw [blockAnswer_crc_reads] at hbytes
    simp only [blockAnswer, if_true, adfPfvfCrc_eq, hver, hsize]
    congr 2
    apply map_congr_left
    intro i hi
    exact hbytes i (by simpa [range_eq_range'] using hi)
  | false =>
    unfold blockAnswer at hbytes ⊢
    simp only [Bool.false_eq_true, if_false, hver, hsize] at hbytes ⊢
    split_ifs at hbytes ⊢ with h0 h1
    · rfl
    · rfl
    · rw [hbytes _ (mem_singleton.mpr rfl)]

/-! ## The message handler -/

/-- `struct adf_accel_vf_info`, as far as the handler reads and writes it. -/
structure VfInfo where
  init : Bool
  compatVer : Byte

/-- `struct adf_accel_compat_manager`: the registered checkers and how many of them are run. -/
structure CompatManager where
  iovCompatCheckers : List (Byte → Byte)
  numChker : ℕ

structure PfDevice where
  providers : Providers
  cm : Option CompatManager

/-- `ADF_PF2VF_VF_COMPATIBLE`, `_INCOMPATIBLE` and `_COMPAT_UNKNOWN`. -/
def vfCompatible : Byte := 1#8

@[inherit_doc vfCompatible] def vfIncompatible : Byte := 2#8

@[inherit_doc vfCompatible] def vfCompatUnknown : Byte := 3#8

/-- The loop of `adf_iov_compatibility_check`: it stops at the first checker that says no. -/
def runCompatCheckers (compatVer : Byte) : List (Byte → Byte) → Byte → Byte
  | [], compatible => compatible
  | checker :: rest, _ =>
    if checker compatVer = vfIncompatible then vfIncompatible
    else runCompatCheckers compatVer rest (checker compatVer)

def adfIovCompatibilityCheck (cm : Option CompatManager) (compatVer : Byte) : Byte :=
  match cm with
  | none => vfIncompatible
  | some cm => runCompatCheckers compatVer (cm.iovCompatCheckers.take cm.numChker) vfCompatible

/-- `ADF_PFVF_COMPATIBILITY_FAST_ACK`: from this version on the receiver clears the in-use
pattern. -/
def compatibilityFastAck : ℕ := 3

def compatibilityVersion : ℕ := 3

structure Handled where
  vfInfo : VfInfo
  isNotification : Bool
  resp : Word
  reads : List ℕ

/-- The three block request cases.
Source: `adf_vf2pf_req_hndl`, `case ADF_VF2PF_MSGTYPE_GET_*_BLOCK_REQ`. -/
def handleBlockReq (pf : PfDevice) (vfInfo : VfInfo) (cls : BlockClass) (msg : Word) : Handled :=
  let crc := blockReqCrc msg
  let (res, reads) := adfIovBlockGetData pf.providers (blockMsgType cls msg)
    (blockByteNum cls msg) vfInfo.compatVer crc
  let resp := match res with
    | .error e => blockRespWord blockRespTypeError e.code
    | .ok data => blockRespWord (if crc then blockRespTypeCrc else blockRespTypeData) data
  { vfInfo := vfInfo, isNotification := false, resp := resp, reads := reads }

/-- The switch over the message type.
Source: `adf_vf2pf_req_hndl`. -/
def handleMessage (pf : PfDevice) (vfInfo : VfInfo) (msg : Word) : Handled :=
  match vf2pfMsgtype msg with
  | .compatVerReq =>
    let vfCompatVer := msg >>> 22
    let compat :=
      if vfCompatVer.toNat < compatibilityVersion then
        adfIovCompatibilityCheck pf.cm (vfCompatVer.setWidth 8)
      else if vfCompatVer.toNat = compatibilityVersion then vfCompatible
      else vfCompatUnknown
    { vfInfo := { vfInfo with compatVer := vfCompatVer.setWidth 8 }
      isNotification := false
      resp := Side.pf.msgoriginSystem ||| 0x02#32 <<< 2
        ||| BitVec.ofNat 32 compatibilityVersion <<< 6 ||| compat.setWidth 32 <<< 14
      reads := [] }
  | .versionReq =>
    let compat := adfIovCompatibilityCheck pf.cm 0
    { vfInfo := { vfInfo with compatVer := 0 }
      isNotification := false
      resp := Side.pf.msgoriginSystem ||| 0x02#32 <<< 2 ||| compat.setWidth 32 <<< 14
        ||| (1#32 <<< 10 ||| 1#32 <<< 6)
      reads := [] }
  | .init => { vfInfo := { vfInfo with init := true }, isNotification := true, resp := 0, reads := [] }
  | .shutdown => { vfInfo := { vfInfo with init := false }, isNotification := true, resp := 0, reads := [] }
  | .getBlockReq cls => handleBlockReq pf vfInfo cls msg
  | .unknown => { vfInfo := vfInfo, isNotification := false, resp := 0, reads := [] }

structure HndlResult where
  vfInfo : VfInfo
  ack : Option Word
  /-- The response it then sends with `adf_iov_putmsg`; none is sent when it is `0`. -/
  resp : Word
  reads : List ℕ

/-- Handle the word `msg` read from the register. -/
def adfVf2pfReqHndl (pf : PfDevice) (vfInfo : VfInfo) (msg : Word) : HndlResult :=
  if msg &&& Side.vf.intBit = 0 then
    { vfInfo := vfInfo, ack := none, resp := 0, reads := [] }
  else if msg &&& Side.vf.msgoriginSystem = 0 then
    { vfInfo := vfInfo, ack := some (msg &&& ~~~Side.vf.intBit), resp := 0, reads := [] }
  else
    let h := handleMessage pf vfInfo msg
    let msg' := msg &&& ~~~Side.vf.intBit
    let ack :=
      if compatibilityFastAck ≤ h.vfInfo.compatVer.toNat && !h.isNotification then
        msg' &&& ~~~Side.vf.inUseMask
      else msg'
    { vfInfo := h.vfInfo, ack := some ack, resp := h.resp, reads := h.reads }

/-! ## The handler stays inside the block

`requestedBlock` is the block a word asks about, if the word asks about one and the PF has it.
`AnswersInsideBlock` is the property: every byte the handler reads lies inside that block, and the
bytes a CRC is taken over are a prefix of it. -/

/-- The block the handler answers the word `msg` from. -/
def requestedBlock (pf : PfDevice) (vfInfo : VfInfo) (msg : Word) : Option BlockView :=
  if msg &&& Side.vf.intBit = 0 ∨ msg &&& Side.vf.msgoriginSystem = 0 then none
  else
    match vf2pfMsgtype msg with
    | .getBlockReq cls =>
      (providedBlock pf.providers (blockMsgType cls msg) vfInfo.compatVer (blockByteNum cls msg)).toOption
    | _ => none

/-- The handler uses only bytes whose offset is smaller than the size the provider returned, and
the bytes a CRC covers are a prefix of the block. -/
def AnswersInsideBlock (pf : PfDevice) (vfInfo : VfInfo) (msg : Word) : Prop :=
  (∀ i ∈ (adfVf2pfReqHndl pf vfInfo msg).reads, ∃ blk, requestedBlock pf vfInfo msg = some blk ∧ i < blk.size.toNat) ∧
    ∀ blk, requestedBlock pf vfInfo msg = some blk → blockReqCrc msg = true →
      ∃ n ≤ blk.size.toNat, (adfVf2pfReqHndl pf vfInfo msg).reads = range n

/-- A CRC request for byte number `0` of a block the PF has. -/
def CrcOfByteZero (pf : PfDevice) (vfInfo : VfInfo) (msg : Word) : Prop :=
  blockReqCrc msg = true ∧ (requestedBlock pf vfInfo msg).isSome = true ∧
    ∃ cls, vf2pfMsgtype msg = .getBlockReq cls ∧ blockByteNum cls msg = 0

section InsideBlock

variable {pf : PfDevice} {vfInfo : VfInfo} {msg : Word} {cls : BlockClass} {blk : BlockView}

lemma reads_eq_nil_of_requestedBlock_none (h : requestedBlock pf vfInfo msg = none) :
    (adfVf2pfReqHndl pf vfInfo msg).reads = [] := by
  unfold requestedBlock at h
  unfold adfVf2pfReqHndl
  split_ifs at h ⊢ with hany hint horigin
  · rfl
  · rfl
  · simp_all
  · simp_all
  · simp_all
  · cases htype : vf2pfMsgtype msg with
    | getBlockReq cls =>
      simp only [htype] at h
      cases hblk : providedBlock pf.providers (blockMsgType cls msg) vfInfo.compatVer
          (blockByteNum cls msg) with
      | error e => simp [handleMessage, htype, handleBlockReq, adfIovBlockGetData, hblk]
      | ok blk => simp [hblk, Except.toOption] at h
    | _ => simp [handleMessage, htype]

section

variable (h : requestedBlock pf vfInfo msg = some blk)

include h

lemma requestedBlock_eq_some : msg &&& Side.vf.intBit ≠ 0 ∧ msg &&& Side.vf.msgoriginSystem ≠ 0 ∧
      ∃ cls, vf2pfMsgtype msg = .getBlockReq cls ∧
        providedBlock pf.providers (blockMsgType cls msg) vfInfo.compatVer (blockByteNum cls msg) = .ok blk := by
  unfold requestedBlock at h
  split_ifs at h with hany
  obtain ⟨hint, horigin⟩ := not_or.mp hany
  refine ⟨hint, horigin, ?_⟩
  split at h
  · rename_i cls htype
    refine ⟨cls, htype, ?_⟩
    cases hblk : providedBlock pf.providers (blockMsgType cls msg) vfInfo.compatVer
        (blockByteNum cls msg) with
    | error e => simp [hblk, Except.toOption] at h
    | ok blk' =>
      simp only [hblk, Except.toOption, Option.some.injEq] at h
      rw [h]
  · cases h

section

variable (hcls : vf2pfMsgtype msg = .getBlockReq cls)

include hcls

lemma reads_eq_of_requestedBlock : (adfVf2pfReqHndl pf vfInfo msg).reads =
      if blk.size.toNat + blockData ≤ (blockByteNum cls msg).toNat then []
      else (blockAnswer blk (blockByteNum cls msg) (blockReqCrc msg)).2 := by
  obtain ⟨hint, horigin, cls', hcls', hblk⟩ := requestedBlock_eq_some h
  cases hcls.symm.trans hcls'
  simp only [adfVf2pfReqHndl, hint, horigin, if_false, handleMessage, hcls, handleBlockReq, adfIovBlockGetData, hblk]
  split_ifs <;> rfl

lemma crc_reads_prefix (hcrc : blockReqCrc msg = true) (hzero : blockByteNum cls msg ≠ 0) :
    ∃ n ≤ blk.size.toNat, (adfVf2pfReqHndl pf vfInfo msg).reads = range n := by
  rw [reads_eq_of_requestedBlock h hcls, hcrc]
  by_cases hnum : blk.size.toNat + blockData ≤ (blockByteNum cls msg).toNat
  · exact ⟨0, Nat.zero_le _, by simp [hnum]⟩
  · refine ⟨(blockByteNum cls msg).toNat - 1, ?_, ?_⟩
    · unfold blockData at hnum
      omega
    · rw [if_neg hnum, blockAnswer_crc_reads, toNat_sub_one hzero]

lemma crc_reads_of_byte_zero (hcrc : blockReqCrc msg = true) (hzero : blockByteNum cls msg = 0) :
    (adfVf2pfReqHndl pf vfInfo msg).reads = range 255 := by
  rw [reads_eq_of_requestedBlock h hcls, hcrc, hzero, blockAnswer_crc_reads]
  rfl

end

end

/-- **The PF answers from inside the block, except for one kind of word**, a CRC request for byte number `0` of
a block that it has. -/
theorem adfVf2pfReqHndl_reads_lt_size_iff (pf : PfDevice) (vfInfo : VfInfo) (msg : Word) :
    AnswersInsideBlock pf vfInfo msg ↔ ¬ CrcOfByteZero pf vfInfo msg := by
  constructor
  · rintro ⟨hreads, -⟩ ⟨hcrc, hsome, cls, hcls, hzero⟩
    obtain ⟨blk, hblk⟩ := isSome_iff_exists.mp hsome
    rw [crc_reads_of_byte_zero hblk hcls hcrc hzero] at hreads
    obtain ⟨blk', hblk', hlt⟩ := hreads 254 (by simp)
    obtain ⟨-, -, cls', -, hprov⟩ := requestedBlock_eq_some hblk'
    have hsize := size_le_of_providedBlock hprov
    omega
  · intro hnot
    cases hreq : requestedBlock pf vfInfo msg with
    | none =>
      refine ⟨?_, fun blk hblk => by simp [hreq] at hblk⟩
      simp [reads_eq_nil_of_requestedBlock_none hreq]
    | some blk =>
      obtain ⟨-, -, cls, hcls, -⟩ := requestedBlock_eq_some hreq
      have hzero : blockReqCrc msg = true → blockByteNum cls msg ≠ 0 := by
        intro hcrc hz
        exact hnot ⟨hcrc, by rw [hreq]; rfl, cls, hcls, hz⟩
      refine ⟨?_, ?_⟩
      · intro i hi
        refine ⟨blk, hreq, ?_⟩
        cases hcrc : blockReqCrc msg with
        | true =>
          obtain ⟨n, hn, hreads⟩ := crc_reads_prefix hreq hcls hcrc (hzero hcrc)
          rw [hreads, mem_range] at hi
          omega
        | false =>
          rw [reads_eq_of_requestedBlock hreq hcls, hcrc] at hi
          split_ifs at hi with hnum
          · simp at hi
          · exact lt_size_of_mem_blockAnswer_data (not_le.mp hnum) hi
      · intro blk' hblk' hcrc
        cases hreq.symm.trans hblk'
        exact crc_reads_prefix hreq hcls hcrc (hzero hcrc)

end InsideBlock

def capabilitiesPf : PfDevice where
  providers t :=
    if t = 2 then some (adfPfCapabilitiesMsgProvider 0x1#32 0x3F#32 0x28A76D80#32 fun _ => 0)
    else none
  cm := none

/-- The word `0x80A76AC2` asks for the CRC of byte number `0` of the capability block; the handler
then reads offset 254 of a block of 12 bytes. -/
theorem capabilities_crc_byte_zero_reads_past_block :
    ¬ AnswersInsideBlock capabilitiesPf { init := true, compatVer := 3 } 0x80A76AC2#32 := by
  rintro ⟨hreads, -⟩
  have hsize : (requestedBlock capabilitiesPf { init := true, compatVer := 3 }
      0x80A76AC2#32).map BlockView.size = some 12 := by
    decide
  obtain ⟨blk, hblk, -⟩ := map_eq_some_iff.mp hsize
  have hcls : vf2pfMsgtype 0x80A76AC2#32 = .getBlockReq .small := by decide
  rw [crc_reads_of_byte_zero hblk hcls (by decide) (by decide)] at hreads
  obtain ⟨blk', hblk', hlt⟩ := hreads 254 (by simp)
  rw [hblk', map_some, Option.some.injEq] at hsize
  rw [hsize] at hlt
  exact absurd hlt (by decide)

end QuickAssist.PfVf
