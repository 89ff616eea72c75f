import Mathlib.Data.Int.Notation
import QuickAssist.Lib.Checks
import QuickAssist.Lib.Words

/-!
# A compression session

A session counts its requests: one counter for requests of stateless sessions, one for requests of stateful sessions,
and one for requests of sessions of the data-plane interface. This file is the session descriptor as far as it
changes, and every function that reads or writes the counters. `dcCompDecompData` is in two steps: `prepare` up to the
increment of the stateless counter, and `send`, the put on the ring and what follows it. Other calls and responses may
come in between.

**Outside.** Whether there is memory for a cookie, whether addresses can be translated and whether the ring takes a
message is passed in, and so is the length of a buffer list, `none` if it is refused. The contents of messages are
left out, and so are the statistics.
-/

namespace QuickAssist.Dc

open Lib (refuse)

/-! ## The service and its sessions -/

inductive Status
  | success
  | fail
  | retry
  | resource
  | invalidParam
  | unsupported
  | restarting
  deriving DecidableEq

/-- The state of the instance, as far as `SAL_RUNNING_CHECK` tells it apart. -/
inductive ServiceState
  | running
  | restarting
  | stopped
  deriving DecidableEq

def salRunningCheck : ServiceState → Except Status Unit
  | .running => .ok ()
  | .restarting => .error .restarting
  | .stopped => .error .fail

/-- `CpaDcCompType`, without the values that no session may have. -/
inductive CompType
  | lzs
  | deflate
  deriving DecidableEq

/-- `CpaDcHuffType`, without the value that no session may have. -/
inductive HuffType
  | static
  | fullDynamic
  deriving DecidableEq

inductive SessionDir
  | compress
  | decompress
  | combined
  deriving DecidableEq

inductive SessionState
  | stateful
  | stateless
  deriving DecidableEq

inductive Checksum
  | none
  | crc32
  | adler32
  deriving DecidableEq

/-- `CpaDcFlush` -/
inductive Flush
  | none
  | final
  | sync
  | full
  deriving DecidableEq

/-- `dc_request_dir_t` -/
inductive RequestDir
  | compression
  | decompression
  deriving DecidableEq

/-- `dc_request_type_t` -/
inductive RequestType
  | first
  | subsequent
  deriving DecidableEq

/-- `dc_cnv_mode_t` -/
inductive CnvMode
  | noCnv
  | cnv
  | cnvnr
  deriving DecidableEq

/-- What the functions below read of the instance.
Source: `sal_compression_service_t`. -/
structure Service where
  cnv : Bool
  cnvnr : Bool
  statelessLZSCompression : Bool
  statelessLZSDecompression : Bool
  /-- There are intermediate buffers: `pInterBuffPtrsArray`, `pInterBuffPtrsArrayPhyAddr`. -/
  interBuffs : Bool
  minOutputBuffSize : ℕ
  maxNumCompConcurrentReq : ℕ

def checkLzsSupport (svc : Service) (type : CompType) (compressAndVerify : Bool)
    (sessDirection : SessionDir) : Except Status Unit :=
  refuse .unsupported (type = .lzs ∧ (svc.statelessLZSCompression = false ∨ svc.statelessLZSDecompression = false ∨
      compressAndVerify = true ∧ sessDirection ≠ .decompress))

structure SessionSetupData where
  compType : CompType
  huffType : HuffType
  /-- `autoSelectBestHuffmanTree` is `CPA_DC_ASB_STATIC_DYNAMIC`. -/
  asbStaticDynamic : Bool
  sessDirection : SessionDir
  sessState : SessionState
  checksum : Checksum

/-- The part of a session descriptor that stays as it is.
Source: `dc_session_desc_t`. -/
structure SessionDesc where
  compType : CompType
  huffType : HuffType
  sessDirection : SessionDir
  sessState : SessionState
  checksumType : Checksum
  /-- `pCompressionCb` is `LacSync_GenWakeupSyncCaller`: calls wait for their response. -/
  syncCallback : Bool
  isDcDp : Bool
  deflate_of_stateful : sessState = .stateful → compType = .deflate
  stateless_of_dp : isDcDp = true → sessState = .stateless

/-- Set up a session; `context` is what comes of looking at the context buffer.
Source: `dcCheckSessionData` and `dcInitSession`. -/
def dcInitSession (svc : Service) (setup : SessionSetupData) (syncCallback : Bool)
    (context : Except Status Unit) (translated lockInit : Bool) : Except Status SessionDesc :=
  if hlzs : setup.sessState = .stateful ∧ setup.compType = .lzs then .error .invalidParam
  else do
    refuse .invalidParam (setup.huffType ≠ .static ∧ setup.compType = .lzs)
    checkLzsSupport svc setup.compType false setup.sessDirection
    refuse .resource (setup.huffType = .fullDynamic ∧ svc.interBuffs = false ∧ setup.asbStaticDynamic = false)
    if setup.sessState = .stateful ∧ setup.compType = .deflate then context else .ok ()
    refuse .fail (translated = false)
    refuse .resource (setup.sessState = .stateful ∧ lockInit = false)
    .ok
      { compType := setup.compType
        huffType :=
          if setup.huffType = .fullDynamic ∧ svc.interBuffs = false then .static
          else setup.huffType
        sessDirection := setup.sessDirection
        sessState := setup.sessState
        checksumType := setup.checksum
        syncCallback := syncCallback
        isDcDp := false
        deflate_of_stateful := by
          intro hstate
          cases htype : setup.compType with
          | deflate => rfl
          | lzs => exact absurd ⟨hstate, htype⟩ hlzs
        stateless_of_dp := nofun }

def cpaDcDpInitSession (svc : Service) (setup : SessionSetupData) (translated : Bool) : Except Status SessionDesc :=
  if setup.sessState = .stateless then
    match dcInitSession svc setup true (.ok ()) translated true with
    | .error status => .error status
    | .ok d =>
      .ok { d with
        sessState := .stateless
        isDcDp := true
        deflate_of_stateful := nofun
        stateless_of_dp := fun _ => rfl }
  else .error .invalidParam

/-- A session.
Source: `dc_session_desc_t`. -/
structure Session where
  desc : SessionDesc
  requestType : RequestType
  previousRequestType : RequestType
  previousChecksum : U32
  cumulativeConsumedBytes : U64
  stateRegisters : RequestDir → Octets
  sessionLock : Bool
  pendingStatelessCbCount : ℤ
  pendingStatefulCbCount : ℤ
  pendingDpStatelessCbCount : ℤ

def SessionDesc.initialChecksum (d : SessionDesc) : U32 := if d.checksumType = .adler32 then 1 else 0

/-- The state registers, zeroed: `DC_QAT_STATE_REGISTERS_MAX_SIZE` bytes. -/
def zeroRegisters : RequestDir → Octets := fun _ => List.replicate 64 0

/-- A new session.
Source: `dcInitSession`. -/
def SessionDesc.newSession (d : SessionDesc) : Session where
  desc := d
  requestType := .first
  previousRequestType := .first
  previousChecksum := d.initialChecksum
  cumulativeConsumedBytes := 0
  stateRegisters := zeroRegisters
  sessionLock := d.sessState = .stateful
  pendingStatelessCbCount := 0
  pendingStatefulCbCount := 0
  pendingDpStatelessCbCount := 0

/-! ## Submitting -/

/-- What is kept of a request until its response.
Source: `dc_compression_cookie_t` and `CpaDcDpOpData`. -/
structure Request where
  compDecomp : RequestDir
  flushFlag : Flush
  cnvMode : CnvMode
  checksum : U32

/-- The arguments of a submission.
Source: the parameters of `cpaDcCompressData2`. -/
structure OpData where
  /-- `pDestBuff` and `pResults` are not `NULL`. -/
  pointers : Bool
  /-- What `LacBuffDesc_BufferListVerifyNull` finds the length of the source to be. -/
  srcBuffSize : Option ℕ
  /-- What `LacBuffDesc_BufferListVerify` finds the length of the destination to be. -/
  destBuffSize : Option ℕ
  /-- `pSrcBuff` is `pDestBuff`. -/
  inPlace : Bool
  flushFlag : Flush
  compressAndVerify : Bool
  compressAndVerifyAndRecover : Bool
  checksum : U32

def dcBufferMaxSize : ℕ := 0xFFFFFFFF

def dcDestBufferDynMinSize : ℕ := 128

def dcDestBufferDecMinSize : ℕ := 1

def verified : Option ℕ → Except Status ℕ
  | some size => .ok size
  | none => .error .invalidParam

def dcCheckSourceData (d : SessionDesc) (op : OpData) (srcBuffSize : ℕ) : Except Status Unit := do
  refuse .invalidParam (op.pointers = false)
  refuse .invalidParam (op.inPlace = true)
  refuse .invalidParam (d.sessState = .stateless ∧ srcBuffSize = 0)
  refuse .invalidParam (dcBufferMaxSize < srcBuffSize)

def dcCheckDestinationData (svc : Service) (d : SessionDesc) (op : OpData)
    (compDecomp : RequestDir) : Except Status Unit := do
  let destBuffSize ← verified op.destBuffSize
  refuse .invalidParam (dcBufferMaxSize < destBuffSize)
  refuse .invalidParam (d.isDcDp = true)
  match compDecomp with
  | .compression =>
    if d.huffType = .fullDynamic then do
      refuse .invalidParam (svc.interBuffs = false)
      refuse .invalidParam (destBuffSize < dcDestBufferDynMinSize)
    else refuse .invalidParam (destBuffSize < svc.minOutputBuffSize)
  | .decompression => refuse .invalidParam (destBuffSize < dcDestBufferDecMinSize)

def dcParamCheck (svc : Service) (d : SessionDesc) (op : OpData) (srcBuffSize : ℕ) : Except Status Unit := do
  dcCheckSourceData d op srcBuffSize
  dcCheckDestinationData svc d op .compression
  refuse .invalidParam (d.sessDirection = .decompress)

inductive Entry
  | returned (status : Status) (s : Session)
  /-- The call goes on to `dcCompDecompData`. -/
  | admitted (s : Session) (r : Request)

def dcZeroLengthRequests (s : Session) (flushFlag : Flush) : Option Session :=
  if s.requestType = .first then some { s with cumulativeConsumedBytes := 0 }
  else if flushFlag = .none ∨ flushFlag = .sync then some s
  else none

/-- The section under the lock of a stateful session, which admits one request at a time.
Source: `cpaDcCompressData2` and `cpaDcDecompressData`. -/
def statefulEntry (s : Session) (r : Request) (zeroLength : Bool) : Entry :=
  if s.desc.sessState = .stateful then
    if s.pendingStatefulCbCount ≠ 0 then .returned .retry s
    else
      match (if zeroLength then dcZeroLengthRequests s r.flushFlag else none) with
      | some s' => .returned .success s'
      | none => .admitted { s with pendingStatefulCbCount := s.pendingStatefulCbCount + 1 } r
  else .admitted s r

/-- The checks of `cpaDcCompressData`. -/
def compressDataCheck (svc : Service) (state : ServiceState) (d : SessionDesc) (op : OpData) :
    Except Status Unit := do
  salRunningCheck state
  let srcBuffSize ← verified op.srcBuffSize
  dcParamCheck svc d op srcBuffSize
  refuse .unsupported (d.sessState = .stateful)
  refuse .unsupported (svc.cnv = false)
  refuse .unsupported (svc.cnvnr = false)

def cpaDcCompressData (svc : Service) (state : ServiceState) (s : Session) (op : OpData) : Entry :=
  match compressDataCheck svc state s.desc op with
  | .error status => .returned status s
  | .ok () => .admitted s ⟨.compression, op.flushFlag, .cnvnr, op.checksum⟩

/-- The checks of `cpaDcCompressData2`, with the length of the source. -/
def compressData2Check (svc : Service) (state : ServiceState) (d : SessionDesc) (op : OpData) : Except Status ℕ := do
  salRunningCheck state
  let srcBuffSize ← verified op.srcBuffSize
  refuse .unsupported (op.compressAndVerify = true ∧ d.sessState = .stateful)
  refuse .unsupported (svc.cnv = false ∧ op.compressAndVerify = true)
  dcParamCheck svc d op srcBuffSize
  .ok srcBuffSize

def cpaDcCompressData2 (svc : Service) (state : ServiceState) (s : Session) (op : OpData) : Entry :=
  if op.compressAndVerify = false ∧ op.compressAndVerifyAndRecover = true then
    .returned .invalidParam s
  else if op.compressAndVerify = true ∧ op.compressAndVerifyAndRecover = true then
    cpaDcCompressData svc state s op
  else
    match compressData2Check svc state s.desc op with
    | .error status => .returned status s
    | .ok srcBuffSize =>
      statefulEntry s ⟨.compression, op.flushFlag, if op.compressAndVerify then .cnv else .noCnv, op.checksum⟩
        (srcBuffSize = 0)

/-- The checks of `cpaDcDecompressData`, with the length of the source. -/
def decompressDataCheck (svc : Service) (state : ServiceState) (d : SessionDesc) (op : OpData) : Except Status ℕ := do
  salRunningCheck state
  let srcBuffSize ← verified op.srcBuffSize
  dcCheckSourceData d op srcBuffSize
  dcCheckDestinationData svc d op .decompression
  refuse .invalidParam (d.sessDirection = .compress)
  .ok srcBuffSize

def cpaDcDecompressData (svc : Service) (state : ServiceState) (s : Session) (op : OpData) : Entry :=
  match decompressDataCheck svc state s.desc op with
  | .error status => .returned status s
  | .ok srcBuffSize =>
    statefulEntry s ⟨.decompression, op.flushFlag, .noCnv, op.checksum⟩
      (srcBuffSize = 0 ∨ srcBuffSize = 1 ∧ op.flushFlag ≠ .final ∧ op.flushFlag ≠ .full)

/-! ## Creating and sending a request -/

structure Resources where
  syncCookie : Status
  /-- `Lac_MemPoolEntryAlloc` returns an entry of the pool. -/
  cookie : Bool
  /-- `LacBuffDesc_BufferListDescWriteAndGetSize` of the source succeeds. -/
  srcDesc : Bool
  /-- `LacBuffDesc_BufferListDescWriteAndGetSize` of the destination succeeds. -/
  destDesc : Bool

/-- What a failed submission does to the counters. Both steps of `dcCompDecompData` end here. -/
def Session.errorExit (s : Session) : Session :=
  if s.desc.sessState = .stateless then
    { s with pendingStatelessCbCount := s.pendingStatelessCbCount - 1 }
  else { s with pendingStatefulCbCount := s.pendingStatefulCbCount - 1 }

def dcCreateRequest (s : Session) (r : Request) : Session :=
  { s with
    previousChecksum :=
      if s.requestType = .first then s.desc.initialChecksum
      else if s.desc.sessState = .stateless then r.checksum
      else s.previousChecksum
    previousRequestType := if s.desc.sessState = .stateful then s.requestType else s.previousRequestType
    requestType :=
      if s.desc.sessState = .stateless then s.requestType
      else if r.flushFlag = .final ∨ r.flushFlag = .full then .first
      else .subsequent
    cumulativeConsumedBytes := if s.requestType = .first then 0 else s.cumulativeConsumedBytes }

/-- `dcCompDecompData` up to the put on the ring. The counter of a stateless session is raised at its end; that
of a stateful one was raised before. -/
def prepare (svc : Service) (s : Session) (r : Request) (res : Resources) : Status × Session :=
  match checkLzsSupport svc s.desc.compType (r.cnvMode ≠ .noCnv) s.desc.sessDirection with
  | .error status => (status, s)
  | .ok () =>
    if s.desc.syncCallback = true ∧ res.syncCookie ≠ .success then (res.syncCookie, s)
    else if res.cookie = false then (.resource, s.errorExit)
    else if res.srcDesc = false ∨ res.destDesc = false then (.fail, s.errorExit)
    else
      let s := dcCreateRequest s r
      (.success,
        if s.desc.sessState = .stateless then
          { s with pendingStatelessCbCount := s.pendingStatelessCbCount + 1 }
        else s)

/-- The put on the ring, with its status.
Source: `dcSendRequest` and the end of `dcCompDecompData`. -/
def send (s : Session) (put : Status) : Session :=
  if put = .success then s
  else
    let s :=
      if s.desc.sessState = .stateful ∧ put = .retry then
        { s with requestType := s.previousRequestType }
      else s
    s.errorExit

/-! ## The data-plane interface -/

structure DpOpData where
  sessDirection : SessionDir
  bufferLenToCompress : ℕ
  bufferLenForData : ℕ
  srcBuffer : ℕ
  srcBufferLen : Option ℕ
  destBuffer : ℕ
  destBufferLen : Option ℕ
  thisPhys : ℕ
  compressAndVerify : Bool
  compressAndVerifyAndRecover : Bool
  checksum : U32

def dcDpBufferCheck (op : DpOpData) : Except Status Unit :=
  match op.srcBufferLen, op.destBufferLen with
  | some srcLen, some destLen => do
      refuse .invalidParam (srcLen < op.bufferLenToCompress)
      refuse .invalidParam (destLen < op.bufferLenForData)
  | none, none => do
      refuse .invalidParam (op.srcBuffer % 8 ≠ 0)
      refuse .invalidParam (op.destBuffer % 8 ≠ 0)
  | _, _ => .error .invalidParam

def dcDataPlaneParamCheck (svc : Service) (d : SessionDesc) (op : DpOpData) : Except Status Unit := do
  refuse .invalidParam (d.isDcDp = false)
  refuse .invalidParam (d.sessDirection = .compress ∧ op.bufferLenToCompress = 0)
  refuse .invalidParam (op.sessDirection = .combined)
  refuse .invalidParam (op.srcBuffer = 0)
  refuse .invalidParam (op.destBuffer = 0)
  refuse .invalidParam (op.srcBuffer = op.destBuffer)
  refuse .invalidParam (op.thisPhys = 0)
  refuse .unsupported (op.compressAndVerify = true ∧ svc.cnv = false)
  refuse .invalidParam (op.compressAndVerifyAndRecover = true ∧ op.compressAndVerify = false)
  refuse .unsupported (op.compressAndVerifyAndRecover = true ∧ svc.cnvnr = false)
  dcDpBufferCheck op
  refuse .invalidParam (op.thisPhys % 8 ≠ 0)
  if d.sessDirection = .decompress then .ok ()
  else if d.huffType = .fullDynamic then do
    refuse .invalidParam (svc.interBuffs = false)
    refuse .invalidParam (op.bufferLenForData < dcDestBufferDynMinSize)
  else refuse .invalidParam (op.bufferLenForData < svc.minOutputBuffSize)

def dcDpDirectionCheck (d : SessionDesc) (op : DpOpData) : Except Status Unit := do
  refuse .invalidParam (op.sessDirection = .compress ∧ d.sessDirection = .decompress)
  refuse .invalidParam (op.sessDirection = .decompress ∧ d.sessDirection = .compress)

def DpOpData.request (d : SessionDesc) (op : DpOpData) : Request where
  compDecomp := if d.sessDirection = .decompress then .decompression else .compression
  flushFlag := .final
  cnvMode :=
    if op.compressAndVerifyAndRecover then .cnvnr
    else if op.compressAndVerify then .cnv else .noCnv
  checksum := op.checksum

/-- Submit one operation; `room` says whether the ring has room for it. -/
def cpaDcDpEnqueueOp (svc : Service) (state : ServiceState) (s : Session) (op : DpOpData)
    (room : Bool) : Except Status Session := do
  dcDataPlaneParamCheck svc s.desc op
  salRunningCheck state
  checkLzsSupport svc s.desc.compType op.compressAndVerify op.sessDirection
  dcDpDirectionCheck s.desc op
  refuse .retry (room = false)
  .ok { s with pendingDpStatelessCbCount := s.pendingDpStatelessCbCount + 1 }

def cpaDcDpEnqueueOpBatch (svc : Service) (state : ServiceState) (s : Session)
    (ops : List DpOpData) (room : Bool) : Except Status Session := do
  refuse .invalidParam (ops.length = 0 ∨ svc.maxNumCompConcurrentReq < ops.length)
  ops.forM (dcDataPlaneParamCheck svc s.desc)
  ops.forM fun op => checkLzsSupport svc s.desc.compType op.compressAndVerify op.sessDirection
  salRunningCheck state
  ops.forM (dcDpDirectionCheck s.desc)
  refuse .retry (room = false)
  .ok { s with pendingDpStatelessCbCount := s.pendingDpStatelessCbCount + ops.length }

/-! ## Responses -/

inductive ErrCode
  | noError
  | overflow
  | incompleteFile
  | other
  deriving DecidableEq

/-- Source: `icp_qat_fw_comp_resp_t`. -/
structure Response where
  /-- `ICP_QAT_FW_COMN_RESP_UNSUPPORTED_REQUEST_STAT_GET` of the status -/
  unsupportedRequest : Bool
  /-- `ICP_QAT_FW_COMN_RESP_CMP_STAT_GET` of the status is `ICP_QAT_FW_COMN_STATUS_FLAG_OK`. -/
  cmpStatOk : Bool
  cmpErr : ErrCode
  /-- `ICP_QAT_FW_COMN_RESP_XLAT_STAT_GET` of the status is `ICP_QAT_FW_COMN_STATUS_FLAG_OK`. -/
  xlatStatOk : Bool
  xlatErr : ErrCode
  inputByteCounter : U32
  currCrc32 : U32
  currAdler32 : U32
  stateRegisters : Octets

/-- A pass of the compression or of the translator slice after overflows have been looked at, which
are valid for the traditional interface only, and not for stateless decompression. -/
def overflowPass (d : SessionDesc) (compDecomp : RequestDir) (pass : Bool) (err : ErrCode) : Bool :=
  if err = .overflow then
    if d.isDcDp then false
    else pass || decide (d.sessState = .stateful ∨ compDecomp = .compression)
  else pass

/-- The data of a session after a response to a request that is supported.
Source: `dcCompression_ProcessCallback`. -/
def Session.responded (s : Session) (r : Request) (resp : Response) : Session :=
  let cmpErr := if resp.cmpErr = .incompleteFile then .noError else resp.cmpErr
  let cmpPass := resp.cmpStatOk || decide (resp.cmpErr = .incompleteFile)
  let translated := r.compDecomp = .compression ∧ s.desc.huffType = .fullDynamic
  let xlatErr := if translated then resp.xlatErr else .noError
  let xlatPass := decide (¬ translated) || resp.xlatStatOk
  let requestType :=
    if s.desc.isDcDp then s.requestType
    else if r.flushFlag = .final ∧ cmpPass = true ∧ xlatPass = true then .first
    else .subsequent
  let stateRegisters :=
    if s.desc.sessState = .stateful then
      fun dir => if dir = r.compDecomp then resp.stateRegisters else s.stateRegisters dir
    else s.stateRegisters
  let s := { s with requestType := requestType, stateRegisters := stateRegisters }
  if overflowPass s.desc r.compDecomp cmpPass cmpErr = true ∧
      overflowPass s.desc r.compDecomp xlatPass xlatErr = true then
    { s with
      cumulativeConsumedBytes := s.cumulativeConsumedBytes + resp.inputByteCounter.setWidth 64
      previousChecksum :=
        match s.desc.checksumType with
        | .crc32 => resp.currCrc32
        | .adler32 => resp.currAdler32
        | .none => r.checksum }
  else s

/-- The response to a request. The client is called back in any case; if the device does not support
the request, *without counting that*. -/
def processCallback (s : Session) (r : Request) (resp : Response) : Session :=
  if resp.unsupportedRequest = true then s
  else
    let s := s.responded r resp
    if s.desc.isDcDp = true then
      { s with pendingDpStatelessCbCount := s.pendingDpStatelessCbCount - 1 }
    else if s.desc.sessState = .stateless then
      { s with pendingStatelessCbCount := s.pendingStatelessCbCount - 1 }
    else if s.pendingStatefulCbCount ≠ 0 then
      { s with pendingStatefulCbCount := s.pendingStatefulCbCount - 1 }
    else s

/-! ## Resetting and removing a session -/

def Session.clearCounters (s : Session) : Session :=
  { s with
    pendingStatelessCbCount := 0
    pendingStatefulCbCount := 0
    pendingDpStatelessCbCount := 0
    stateRegisters := if s.desc.sessState = .stateful then zeroRegisters else s.stateRegisters }

def Session.Pending (s : Session) : Prop := s.pendingStatelessCbCount ≠ 0 ∨ s.pendingStatefulCbCount ≠ 0
  deriving Decidable

/-- Reset a session. One of the data-plane interface with requests pending is left alone; any other *is reset
whether or not there are any*, and only the status tells. -/
def cpaDcResetSession (state : ServiceState) (queueDataToSend : Bool) (s : Session) : Status × Session :=
  match salRunningCheck state with
  | .error status => (status, s)
  | .ok () =>
    if s.desc.isDcDp = true then
      if queueDataToSend = true ∨ s.pendingDpStatelessCbCount ≠ 0 then (.retry, s)
      else (.success, s.clearCounters)
    else
      (if s.Pending then .retry else .success,
        Session.clearCounters
          { s with requestType := .first, cumulativeConsumedBytes := 0, previousChecksum := s.desc.initialChecksum })

def cpaDcRemoveSession (state : ServiceState) (queueDataToSend : Bool) (s : Session) : Status × Session :=
  match salRunningCheck state with
  | .error status => (status, s)
  | .ok () =>
    if s.desc.isDcDp = true then
      if queueDataToSend = true ∨ s.pendingDpStatelessCbCount ≠ 0 then (.retry, s)
      else (.success, s)
    else if s.Pending then (.retry, s)
    else
      (.success,
        { s with sessionLock := s.sessionLock && decide (s.desc.sessState ≠ .stateful) })

end QuickAssist.Dc
