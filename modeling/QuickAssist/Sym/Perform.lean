import Mathlib.Data.BitVec
import QuickAssist.Sym.Session

/-!
# Performing a symmetric operation

The path of `cpaCySymPerformOp` from the client's buffer lists and `CpaCySymOpData` to the two regions in the request:
what the checks accept, and where the device is told to cipher and to hash.

**Widths.** Offsets and lengths of a request are `Cpa32U`, and the code adds them as such; the length of a buffer list
is a `Cpa64U`. The lengths of at most `2 ^ 32 - 1` buffers do not overflow one, so it is a natural number here.

**Outside.** Address translation and the pool of cookies succeed. The destination is `none` when the client passes the
source list twice.
-/

namespace QuickAssist.Sym

open Lib (bind_eq_ok)
open SymSession (PacketType)

/-! ## Buffer lists -/

structure FlatBuffer where
  pData : Bool
  dataLenInBytes : U32

structure BufferList where
  pBuffers : Bool
  buffers : List FlatBuffer
  pPrivateMetaData : Bool
  numBuffers_lt : buffers.length < 2 ^ 32

def BufferList.totalSizeGet (l : BufferList) : ℕ :=
  l.buffers.foldl (fun size buf => size + buf.dataLenInBytes.toNat) 0

def flatBufferVerify (pktSize : ℕ) (buf : FlatBuffer) : Except Failure ℕ := do
  reject (¬ buf.pData)
  reject (buf.dataLenInBytes = 0)
  .ok (pktSize + buf.dataLenInBytes.toNat)

def bufferListVerify (l : BufferList) : Except Failure ℕ := do
  reject (¬ l.pBuffers)
  reject (¬ l.pPrivateMetaData)
  reject (l.buffers.length = 0)
  l.buffers.foldlM flatBufferVerify 0

lemma totalSizeGet_of_bufferListVerify {l : BufferList} {n : ℕ}
    (h : bufferListVerify l = .ok n) : l.totalSizeGet = n := by
  have hfold : ∀ (bufs : List FlatBuffer) (k : ℕ), bufs.foldlM flatBufferVerify k = .ok n →
      bufs.foldl (fun size buf => size + buf.dataLenInBytes.toNat) k = n := by
    intro bufs
    induction bufs with
    | nil =>
      intro k hk
      exact Except.ok.inj hk
    | cons buf bufs ih =>
      intro k hk
      rw [List.foldlM_cons] at hk
      rcases hv : flatBufferVerify k buf with e | k'
      · rw [hv] at hk
        cases hk
      · rw [hv] at hk
        simp only [flatBufferVerify, bind_eq_ok, Except.ok.injEq] at hv
        obtain ⟨-, -, rfl⟩ := hv
        exact ih _ hk
  simp only [bufferListVerify, bind_eq_ok] at h
  exact hfold l.buffers 0 h.2.2.2

/-! ## Operations -/

structure OpData where
  packetType : PacketType
  pIv : Bool
  ivLenInBytes : U32
  cryptoStartSrcOffsetInBytes : U32
  messageLenToCipherInBytes : U32
  hashStartSrcOffsetInBytes : U32
  messageLenToHashInBytes : U32
  pDigestResult : Bool
  pAdditionalAuthData : Bool

structure Region where
  offset : U32
  length : U32
  deriving DecidableEq

def Region.finish (r : Region) : ℕ := r.offset.toNat + r.length.toNat

/-- The request parameters of a message to the device.
Source: `icp_qat_fw_la_cipher_req_params_t`, `icp_qat_fw_la_auth_req_params_t`. -/
structure RequestParams where
  /-- `cipher_offset` and `cipher_length`, if the command ciphers -/
  cipher : Option Region
  auth : Option Region
  deriving DecidableEq

/-! ## Checking the buffers -/

/-- A hash of nothing, whose buffers may have no data: the exception the buffer checks make.
Source: `LacSymPerform_BufferParamCheck`. -/
def ZeroLengthHash (desc : SessionDesc) (op : OpData) : Prop :=
  (desc.symOperation ≠ .cipher ∧ desc.hashMode = .plain) ∧ op.messageLenToHashInBytes = 0
  deriving Decidable

/-- The length of a list as the buffer checks see it: for a hash of nothing they do not look.
Source: `LacSymPerform_BufferParamCheck`. -/
def checkedLength (desc : SessionDesc) (op : OpData) (l : BufferList) : Except Failure ℕ :=
  if ¬ ZeroLengthHash desc op then bufferListVerify l
  else do
    reject (¬ l.pPrivateMetaData)
    .ok 0

def isPartialOnSymOpSupported (desc : SessionDesc) : Bool :=
  let cipherOk : Bool := match desc.cipherAlgorithm with
    | .kasumiF8 | .aesF8 | .snow3gUea2 | .zucEea3 => false
    | _ => true
  let hashOk : Bool := match desc.hashAlgorithm with
    | .kasumiF9 | .snow3gUia2 | .zucEia3 => false
    | _ => true
  match desc.symOperation with
  | .cipher => cipherOk
  | .hash => hashOk
  | .algorithmChaining => cipherOk && hashOk && desc.hashAlgorithm ≠ .sha3_256

def partialPacketStateCheck (packetType partialState : PacketType) : Except Failure Unit :=
  reject (¬ (partialState = .full ∧ packetType = .midPartial ∨
    partialState = .midPartial ∧ (packetType = .midPartial ∨ packetType = .lastPartial)))

def bufferParamCheck (src : BufferList) (dst : Option BufferList) (desc : SessionDesc)
    (op : OpData) : Except Failure Unit := do
  let srcBufferLen ← checkedLength desc op src
  match dst with
  | none => pure ()
  | some dst =>
    let dstBufferLen ← checkedLength desc op dst
    reject (srcBufferLen ≠ dstBufferLen)
  if op.packetType ≠ .full then
    reject (¬ isPartialOnSymOpSupported desc)
    partialPacketStateCheck op.packetType desc.partialState

/-! ## Checking the operation -/

def cipherPerformParamCheck (algorithm : CipherAlgorithm) (op : OpData) (packetLen : ℕ) : Except Failure Unit := do
  reject (packetLen < (op.messageLenToCipherInBytes + op.cryptoStartSrcOffsetInBytes).toNat)
  if algorithm = .aesXts ∧ (op.packetType = .full ∨ op.packetType = .lastPartial) then
    reject (op.messageLenToCipherInBytes < 16)
  else if ¬ (algorithm = .arc4 ∨ algorithm.isCtrMode ∨ algorithm.isF8Mode ∨
      algorithm = .snow3gUea2 ∨ algorithm = .aesXts ∨ algorithm = .zucEea3) then
    reject (op.messageLenToCipherInBytes &&& (algorithm.blockSizeBytesGet.setWidth 32 - 1) ≠ 0)

def cipherPerformIvCheck (algorithm : CipherAlgorithm) (op : OpData) : Except Failure Unit :=
  if algorithm.isCtrMode ∨ algorithm.isCbcMode ∨ algorithm = .aesF8 ∨ algorithm = .aesXts then do
    reject (¬ op.pIv)
    reject (op.ivLenInBytes ≠ algorithm.ivSizeBytesGet ∧
      ¬ (algorithm = .aesGcm ∧ op.ivLenInBytes = 12 ∨ algorithm = .aesCcm))
  else if algorithm = .kasumiF8 then do
    reject (¬ op.pIv)
    reject (op.ivLenInBytes ≠ 8)
  else if algorithm = .snow3gUea2 ∨ algorithm = .zucEea3 then do
    reject (¬ op.pIv)
    reject (op.ivLenInBytes ≠ 16)
  else .ok ()

/-- `verifyResult` says whether the client passed a place for the result of the verification. -/
def hashPerformParamCheck (desc : SessionDesc) (op : OpData) (srcPktSize : ℕ)
    (verifyResult : Bool) : Except Failure Unit := do
  reject (desc.digestIsAppended ∧ desc.digestVerify ∧ desc.symOperation = .hash)
  reject (op.packetType ≠ .midPartial ∧ ¬ desc.digestIsAppended ∧ ¬ op.pDigestResult)
  reject ((desc.digestVerify ∧ op.packetType ≠ .midPartial ∧ desc.isSync) ∧ ¬ verifyResult)
  if desc.hashAlgorithm = .aesCcm ∨ desc.hashAlgorithm = .aesGcm then
    reject (0 < desc.aadLenInBytes ∧ ¬ op.pAdditionalAuthData)
  else
    reject (srcPktSize < (op.hashStartSrcOffsetInBytes + op.messageLenToHashInBytes).toNat)
  reject ((desc.hashAlgorithm = .snow3gUia2 ∨ desc.hashAlgorithm = .zucEia3) ∧ ¬ op.pAdditionalAuthData)
  reject ((op.packetType = .midPartial ∧ desc.symOperation = .hash) ∧
    op.messageLenToHashInBytes &&& (desc.hashAlgorithm.blockLength - 1) ≠ 0)

def checkCCMData (op : OpData) : Except Failure Unit := do
  reject (¬ op.pIv)
  reject (¬ op.pAdditionalAuthData)
  reject (op.ivLenInBytes < 7 ∨ 13 < op.ivLenInBytes)
  let q := 15 - op.ivLenInBytes.toNat
  reject (2 ^ (q * 8) ≤ op.messageLenToCipherInBytes.toNat ∧ q < 4)

def ptrFromOffsetGet (packetOffset : U32) : List FlatBuffer → ℕ → U32 → Except Failure (ℕ × U32)
  | [], _, _ => .error .fail
  | buf :: bufs, i, currentOffset =>
    if currentOffset ≤ packetOffset ∧ packetOffset < currentOffset + buf.dataLenInBytes then
      .ok (i, packetOffset - currentOffset)
    else ptrFromOffsetGet packetOffset bufs (i + 1) (currentOffset + buf.dataLenInBytes)

/-- The region to hash: for the authenticated ciphers it starts where the cipher's does. Source:
`LacAlgChain_Perform`. -/
def authRegion (desc : SessionDesc) (op : OpData) : Region :=
  if desc.isAuthEncryptOp then
    { offset := op.cryptoStartSrcOffsetInBytes
      length := if desc.hashAlgorithm ≠ .aesGmac then op.messageLenToCipherInBytes
        else op.messageLenToHashInBytes }
  else
    { offset := op.hashStartSrcOffsetInBytes
      length := op.messageLenToHashInBytes }

/-- What the request says about the region to cipher.
Source: `LacAlgChain_Perform`. -/
def cipherRegion (op : OpData) : Region :=
  { offset := op.cryptoStartSrcOffsetInBytes
    length := op.messageLenToCipherInBytes }

/-- The additional data of the authenticated ciphers.
Source: `LacAlgChain_Perform`, its first part. -/
def authEncryptCheck (desc : SessionDesc) (op : OpData) : Except Failure Unit :=
  if desc.isAuthEncryptOp then
    if desc.hashAlgorithm = .aesCcm then checkCCMData op
    else if desc.hashAlgorithm = .aesGcm then
      reject (desc.aadLenInBytes ≠ 0 ∧ ¬ op.pAdditionalAuthData)
    else .ok ()
  else .ok ()

/-- The cipher part of the request.
Source: `LacAlgChain_Perform`. -/
def cipherPart (desc : SessionDesc) (op : OpData) (srcPktSize : ℕ) : Except Failure (Option Region) := do
  if desc.laCmdId ≠ .auth then
    cipherPerformParamCheck desc.cipherAlgorithm op srcPktSize
    cipherPerformIvCheck desc.cipherAlgorithm op
    .ok (some (cipherRegion op))
  else .ok none

/-- The hash part of the request. An appended digest has to fit behind the region.
Source: `LacAlgChain_Perform`. -/
def authPart (desc : SessionDesc) (op : OpData) (src : BufferList) (dst : Option BufferList)
    (srcPktSize : ℕ) (verifyResult : Bool) : Except Failure (Option Region) := do
  if desc.laCmdId ≠ .cipher then
    hashPerformParamCheck desc op srcPktSize verifyResult
    let region := authRegion desc op
    -- the source looks up the digest first, but a digest that does not fit overrides the status
    reject (desc.digestIsAppended ∧ srcPktSize < (region.offset + region.length + desc.hashResultSize).toNat)
    if desc.hashAlgorithm = .aesCcm then
      let list := if desc.cipherDirection = .decrypt then src else dst.getD src
      discard <| ptrFromOffsetGet
        (op.cryptoStartSrcOffsetInBytes + op.messageLenToCipherInBytes) list.buffers 0 0
    .ok (some region)
  else .ok none

/-- The request for an operation on a session.
Source: `LacSym_Perform` and `LacAlgChain_Perform`. -/
def perform (desc : SessionDesc) (op : OpData) (src : BufferList) (dst : Option BufferList)
    (verifyResult : Bool) : Except Failure RequestParams := do
  bufferParamCheck src dst desc op
  reject ((¬ desc.digestIsAppended ∧ desc.symOperation = .algorithmChaining) ∧ ¬ op.pDigestResult)
  authEncryptCheck desc op
  let srcPktSize := src.totalSizeGet
  let cipher ← cipherPart desc op srcPktSize
  let auth ← authPart desc op src dst srcPktSize verifyResult
  .ok { cipher := cipher, auth := auth }

end QuickAssist.Sym
