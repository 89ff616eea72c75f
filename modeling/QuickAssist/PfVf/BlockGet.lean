import QuickAssist.PfVf.Block

/-!
# Reading a block from the VF

The VF's end of a block transfer, from `adf_vf2pf_msg.c` and `adf_vf_isr.c`: the bottom half that takes the PF's
answers out of the mailbox, the request for one byte and the transfer of a whole block.

**How the two ends are put together.** `vfPutmsg` runs one send of the VF through a mailbox nobody else uses: the VF
claims the register, the PF's handler reads the word and acknowledges it, answers with a send of its own, and the VF's
bottom half reads the answer. No message is lost. *When* the VF's sender, which polls the register, sees the
acknowledgement is left open: each send takes this from a schedule, `PollTime`, and everything below holds for every
schedule.
-/

namespace QuickAssist.PfVf

open BitVec (ofNat)

/-! ## The bottom half -/

structure VfDevice where
  pfRunning : Bool
  pfVersion : Byte
  compatible : Byte
  pf2vfBlockByte : Byte
  pf2vfBlockRespType : Byte
  /-- How often `vf.iov_msg_completion` has been completed and not yet waited for. -/
  iovMsgCompletion : ℕ

/-- The word the bottom half acknowledges with.
Source: the end of `adf_pf2vf_bh_handler`. -/
def bhAck (pfVersion : Byte) (isNotification : Bool) (msg : Word) : Word :=
  let msg' := msg &&& ~~~Side.pf.intBit
  if compatibilityFastAck ≤ pfVersion.toNat && !isNotification then
    msg' &&& ~~~Side.pf.inUseMask
  else msg'

/-- The device afterwards, and the word written back. A restart request whose work item cannot be allocated is
not acknowledged. -/
def adfPf2vfBhHandler (kzallocOk : Bool) (vf : VfDevice) (msg : Word) : VfDevice × Option Word :=
  if msg &&& Side.pf.intBit = 0 then (vf, none)
  else if msg &&& Side.pf.msgoriginSystem = 0 then (vf, some (msg &&& ~~~Side.pf.intBit))
  else
    match pf2vfMsgtype msg with
    | .restarting =>
      let vf' := { vf with pfRunning := false }
      if kzallocOk then (vf', some (bhAck vf'.pfVersion true msg)) else (vf', none)
    | .versionResp =>
      let vf' :=
        { vf with
          pfVersion := ((msg &&& 0x00003FC0#32) >>> 6).setWidth 8
          compatible := ((msg &&& 0x0000C000#32) >>> 14).setWidth 8
          iovMsgCompletion := vf.iovMsgCompletion + 1 }
      (vf', some (bhAck vf'.pfVersion false msg))
    | .blockResp =>
      let vf' :=
        { vf with
          pf2vfBlockByte := blockRespData msg
          pf2vfBlockRespType := blockRespType msg
          iovMsgCompletion := vf.iovMsgCompletion + 1 }
      (vf', some (bhAck vf'.pfVersion false msg))
    | .fatalError => (vf, some (bhAck vf.pfVersion true msg))
    | .unknown => (vf, some (bhAck vf.pfVersion false msg))

/-! ## One send through a quiet mailbox -/

inductive PollTime
  | beforeResponse
  /-- After the answer is in the register and before the bottom half reads it. -/
  | afterResponse
  | afterAck
  | last
  deriving DecidableEq

structure MailboxState where
  csr : Word
  vf : VfDevice
  vfInfo : VfInfo
  sends : ℕ

def vfPoll (sent csr : Word) : PutRet × Word :=
  let (ret, wr) := putmsgFinish .vf false sent csr
  (ret, wr.getD csr)

def pollIf (now : Bool) (sent : Word) (p : Option PutRet × Word) : Option PutRet × Word :=
  if now then
    let (ret, csr) := vfPoll sent p.2
    (some ret, csr)
  else p

/-- The PF sends its answer, the VF's bottom half reads it and the PF's sender settles. While the VF's in-use
pattern stands the PF gets `-EAGAIN`, so in that case the VF's sender looks first. -/
def pfRespond (poll : PollTime) (sent acked resp : Word) (vf : VfDevice) : Option PutRet × Word × VfDevice :=
  let early := decide (poll = .beforeResponse) || Side.vf.inUse acked
  let p := pollIf early sent (none, acked)
  if Side.vf.inUse p.2 then (p.1, p.2, vf)
  else
    let p := (p.1, putmsgWord .pf resp ||| Side.pf.intBit)
    let p := pollIf (!early && decide (poll = .afterResponse)) sent p
    let (vf', ack) := adfPf2vfBhHandler true vf p.2
    let p := (p.1, ack.getD p.2)
    let p := pollIf (!early && decide (poll = .afterAck)) sent p
    let p := (p.1, (putmsgFinish .pf false (putmsgWord .pf resp) p.2).2.getD p.2)
    let p := pollIf (!early && decide (poll = .last)) sent p
    (p.1, p.2, vf')

/-- One send of the VF and everything the PF does with it. A register in use by the PF stays so, and every retry
of `adf_iov_put` gives `-EAGAIN` again. -/
def vfPutmsg (pf : PfDevice) (poll : PollTime) (s : MailboxState) (msg : Word) : PutRet × MailboxState :=
  let s := { s with sends := s.sends + 1 }
  if Side.pf.inUse s.csr then (.eagain, s)
  else
    let sent := putmsgWord .vf msg
    let r := adfVf2pfReqHndl pf s.vfInfo (sent ||| Side.vf.intBit)
    let acked := r.ack.getD (sent ||| Side.vf.intBit)
    if r.resp = 0 then
      let (ret, csr) := vfPoll sent acked
      (ret, { s with csr := csr, vfInfo := r.vfInfo })
    else
      let (ret, csr, vf) := pfRespond poll sent acked r.resp s.vf
      (ret.getD .ok, { s with csr := csr, vf := vf, vfInfo := r.vfInfo })

/-! ## Block requests -/

inductive GetError
  | einval
  | eio

def iovMsgRespRetries : ℕ := 5

/-- The send-and-wait loop of `adf_iov_block_get_bc`, for at most the given number of attempts:
whether a response was received. -/
def sendRequest (pf : PfDevice) (sched : ℕ → PollTime) (msg : Word) :
    ℕ → MailboxState → MailboxState × Except GetError Bool
  | 0, s => (s, .ok false)
  | n + 1, s =>
    match vfPutmsg pf (sched s.sends) s msg with
    | (.ok, s') =>
      if 0 < s'.vf.iovMsgCompletion then
        ({ s' with
            vf := { s'.vf with iovMsgCompletion := s'.vf.iovMsgCompletion - 1 } }, .ok true)
      else sendRequest pf sched msg n s'
    | (_, s') => (s', .error .eio)

/-- The request word, or the refusal of the byte index. A message type of no class is only logged,
and a word without a message type is sent. -/
def requestWord (msgType msgIndex : Byte) (getCrc : Bool) : Except GetError Word :=
  match BlockClass.ofMessageType msgType with
  | some cls =>
    if cls.payloadSize + blockData ≤ msgIndex.toNat then .error .einval
    else .ok (blockReqWord cls msgType msgIndex getCrc)
  | none => .ok (Side.vf.msgoriginSystem ||| (if getCrc then 1#32 <<< blockReqCrcShift else 0#32))

def adfIovBlockGetBc (pf : PfDevice) (sched : ℕ → PollTime) (s : MailboxState)
    (msgType msgIndex : Byte) (getCrc : Bool) : MailboxState × Except GetError Byte :=
  match requestWord msgType msgIndex getCrc with
  | .error e => (s, .error e)
  | .ok msg =>
    match sendRequest pf sched msg iovMsgRespRetries s with
    | (s', .error e) => (s', .error e)
    | (s', .ok false) => (s', .error .eio)
    | (s', .ok true) =>
      if s'.vf.pf2vfBlockRespType ≠ (if getCrc then blockRespTypeCrc else blockRespTypeData)
      then (s', .error .eio)
      else (s', .ok s'.vf.pf2vfBlockByte)

/-- Source: `adf_iov_block_get_byte` of the VF. -/
def adfIovBlockGetByte (pf : PfDevice) (sched : ℕ → PollTime) (s : MailboxState)
    (msgType msgIndex : Byte) : MailboxState × Except GetError Byte :=
  adfIovBlockGetBc pf sched s msgType msgIndex false

/-- The CRC request asks with the index before the one it is given.
Source: `adf_iov_block_get_crc` of the VF. -/
def adfIovBlockGetCrc (pf : PfDevice) (sched : ℕ → PollTime) (s : MailboxState)
    (msgType msgIndex : Byte) : MailboxState × Except GetError Byte :=
  adfIovBlockGetBc pf sched s msgType (msgIndex - 1) true

/-- The data loop of `adf_iov_block_get`: `n` more bytes, from `bufIndex` on. -/
def getBlockData (pf : PfDevice) (sched : ℕ → PollTime) (msgType : Byte) :
    (n bufIndex : ℕ) → MailboxState → (ℕ → Byte) → MailboxState × (ℕ → Byte) × Except GetError Unit
  | 0, _, s, buffer => (s, buffer, .ok ())
  | n + 1, bufIndex, s, buffer =>
    match adfIovBlockGetByte pf sched s msgType (ofNat 8 (bufIndex + blockData)) with
    | (s', .error e) => (s', buffer, .error e)
    | (s', .ok data) => getBlockData pf sched msgType n (bufIndex + 1) s' (Function.update buffer bufIndex data)

structure BlockOut where
  blockVersion : Byte
  buffer : ℕ → Byte
  /-- `*length`: the size of the buffer before, the number of bytes copied after. -/
  length : Byte

def localCrc (blockVersion length : Byte) (buffer : ℕ → Byte) (payloadLen : ℕ) : Byte :=
  (adfPfvfCrc buffer (crcStep (crcStep crc8InitValue blockVersion) length) 0 payloadLen).1

def adfIovBlockGet (pf : PfDevice) (sched : ℕ → PollTime) (s : MailboxState) (msgType : Byte)
    (out : BlockOut) : MailboxState × BlockOut × Except GetError Unit :=
  if BlockClass.large.maxMessageType < msgType.toNat then (s, out, .error .einval)
  else
    match adfIovBlockGetByte pf sched s msgType 0 with
    | (s, .error e) => (s, out, .error e)
    | (s, .ok version) =>
      match adfIovBlockGetByte pf sched s msgType 1 with
      | (s, .error e) => (s, { out with blockVersion := version }, .error e)
      | (s, .ok len) =>
        let payloadLen := if out.length < len then out.length else len
        match getBlockData pf sched msgType payloadLen.toNat 0 s out.buffer with
        | (s, buffer, .error e) => (s, ⟨version, buffer, len⟩, .error e)
        | (s, buffer, .ok ()) =>
          match adfIovBlockGetCrc pf sched s msgType (payloadLen + 2) with
          | (s, .error e) => (s, ⟨version, buffer, len⟩, .error e)
          | (s, .ok remoteCrc) =>
            if localCrc version len buffer payloadLen.toNat ≠ remoteCrc then
              (s, ⟨version, buffer, len⟩, .error .eio)
            else (s, ⟨version, buffer, payloadLen⟩, .ok ())

/-! ## The words of an exchange

The fields of a request and of a response are disjoint, and disjoint from the in-use patterns and
the interrupt bits, so each end decodes what the other has encoded. There are finitely many words
of each kind and the facts about them are evaluated. -/

def requestCsr (cls : BlockClass) (msgType msgIndex : Byte) (getCrc : Bool) : Word :=
  putmsgWord .vf (blockReqWord cls msgType msgIndex getCrc) ||| Side.vf.intBit

def decodesTo (w : Word) (cls : BlockClass) (msgType msgIndex : Byte) (getCrc : Bool) : Bool :=
  decide (w &&& Side.vf.intBit ≠ 0) && decide (w &&& Side.vf.msgoriginSystem ≠ 0)
    && decide (vf2pfMsgtype w = .getBlockReq cls) && decide (blockMsgType cls w = msgType)
    && decide (blockByteNum cls w = msgIndex) && (blockReqCrc w == getCrc)

/-- **Every request decodes**: for every message type and every byte index the VF lets through, the
handler takes from the register what the VF put into it. -/
theorem requestCsr_decodesTo : ∀ msgType : Byte, ∀ cls ∈ BlockClass.ofMessageType msgType, ∀ msgIndex : Byte,
    msgIndex.toNat < cls.payloadSize + blockData → ∀ getCrc,
      decodesTo (requestCsr cls msgType msgIndex getCrc) cls msgType msgIndex getCrc = true := by
  decide +kernel

def respTypeOf (getCrc : Bool) : Byte := if getCrc then blockRespTypeCrc else blockRespTypeData

def responseCsr (getCrc : Bool) (data : Byte) : Word :=
  putmsgWord .pf (blockRespWord (respTypeOf getCrc) data) ||| Side.pf.intBit

def settledCsr (getCrc : Bool) (data : Byte) : Word :=
  responseCsr getCrc data &&& ~~~Side.pf.intBit &&& ~~~Side.pf.inUseMask

/-- The VF's sender finds nothing to do in this word: its message is not pending, and its pattern
does not stand. -/
def idleForVf (w : Word) : Bool := decide (w &&& Side.vf.intBit = 0) && !Side.vf.inUse w

/-- The bottom half decodes the answer, and none of the words that follow it look to the VF's
sender like a message of its own or to the PF's like an unacknowledged one. -/
lemma responseCsr_decodes : ∀ (getCrc fast : Bool) (data : Byte),
    let w := responseCsr getCrc data
    let acked := bhAck (if fast then 3 else 0) false w
    (w &&& Side.pf.intBit ≠ 0 ∧ w &&& Side.pf.msgoriginSystem ≠ 0 ∧ pf2vfMsgtype w = .blockResp ∧
      blockRespType w = respTypeOf getCrc ∧ blockRespData w = data ∧ blockRespWord (respTypeOf getCrc) data ≠ 0) ∧
    (idleForVf w = true ∧ idleForVf acked = true ∧ idleForVf (settledCsr getCrc data) = true) ∧
    (putmsgFinish .pf false (putmsgWord .pf (blockRespWord (respTypeOf getCrc) data)) acked).2.getD
      acked = settledCsr getCrc data ∧ Side.pf.inUse (settledCsr getCrc data) = false := by
  decide +kernel

/-! ## One exchange -/

lemma and_not_and_self (x m : Word) : x &&& ~~~m &&& m = 0 := by
  rw [BitVec.and_assoc, BitVec.and_comm (~~~m)]
  simp

lemma vfPoll_of_acked (sent : Word) {csr : Word} (h : csr &&& Side.vf.intBit = 0) :
    (vfPoll sent csr).1 = .ok ∧ Side.vf.inUse (vfPoll sent csr).2 = false := by
  by_cases huse : Side.vf.inUse csr = true
  · have hpoll : vfPoll sent csr = (.ok, csr &&& ~~~Side.vf.inUseMask) := by
      simp [vfPoll, putmsgFinish, h, huse]
    rw [hpoll]
    refine ⟨rfl, ?_⟩
    simp only [Side.inUse, and_not_and_self]
    decide
  · have hpoll : vfPoll sent csr = (.ok, csr) := by
      simp [vfPoll, putmsgFinish, h, huse]
    rw [hpoll]
    exact ⟨rfl, by simpa using huse⟩

lemma vfPoll_of_idle {sent csr : Word} (h : idleForVf csr = true) : vfPoll sent csr = (.ok, csr) := by
  simp only [idleForVf, Bool.and_eq_true, decide_eq_true_eq, Bool.not_eq_true'] at h
  simp [vfPoll, putmsgFinish, h.1, h.2]

lemma pollIf_of_idle {csr : Word} (h : idleForVf csr = true) (now : Bool) (sent : Word) (ret : Option PutRet) :
    pollIf now sent (ret, csr) = (if now then some .ok else ret, csr) := by
  unfold pollIf
  rw [vfPoll_of_idle h]
  cases now <;> rfl

/-- The VF's device after it has received the answer `data`. -/
def VfDevice.received (vf : VfDevice) (getCrc : Bool) (data : Byte) : VfDevice :=
  { vf with
    pf2vfBlockByte := data
    pf2vfBlockRespType := respTypeOf getCrc
    iovMsgCompletion := vf.iovMsgCompletion + 1 }

lemma bhAck_eq (pfVersion : Byte) (isNotification : Bool) (msg : Word) : bhAck pfVersion isNotification msg =
      bhAck (if decide (compatibilityFastAck ≤ pfVersion.toNat) then 3 else 0) isNotification
        msg := by
  by_cases h : compatibilityFastAck ≤ pfVersion.toNat
  · have h3 : compatibilityFastAck ≤ 3 := by decide
    simp [bhAck, h, h3]
  · have h0 : compatibilityFastAck ≠ 0 := by decide
    simp [bhAck, h, h0]

/-- The PF's answer to a successful request reaches the VF, whenever the VF's sender looks. -/
lemma pfRespond_eq (poll : PollTime) (sent : Word) {acked : Word} (vf : VfDevice) (getCrc : Bool)
    (data : Byte) (hacked : acked &&& Side.vf.intBit = 0) :
    pfRespond poll sent acked (blockRespWord (respTypeOf getCrc) data) vf =
      (some .ok, settledCsr getCrc data, vf.received getCrc data) := by
  obtain ⟨⟨hint, horigin, htype, hresp, hdata, -⟩, ⟨hidle₁, hidle₂, hidle₃⟩, hfinish, -⟩ :=
    responseCsr_decodes getCrc (decide (compatibilityFastAck ≤ vf.pfVersion.toNat)) data
  have hhandler : adfPf2vfBhHandler true vf (responseCsr getCrc data) =
      (vf.received getCrc data, some (bhAck vf.pfVersion false (responseCsr getCrc data))) := by
    unfold adfPf2vfBhHandler
    rw [if_neg hint, if_neg horigin, htype]
    simp only [hresp, hdata, VfDevice.received]
  rw [← bhAck_eq] at hidle₂ hfinish
  -- whether the sender looks first or later, the PF finds its pattern gone
  set early := decide (poll = .beforeResponse) || Side.vf.inUse acked with hearly
  have hfree : Side.vf.inUse (pollIf early sent (none, acked)).2 = false ∧
      (pollIf early sent (none, acked)).1 = if early then some .ok else none := by
    by_cases he : early = true
    · obtain ⟨hret, huse⟩ := vfPoll_of_acked sent hacked
      simp [pollIf, he, hret, huse]
    · have huse : Side.vf.inUse acked = false := by
        rw [Bool.not_eq_true, Bool.or_eq_false_iff] at he
        exact he.2
      simp [pollIf, he, huse]
  unfold pfRespond
  rw [show putmsgWord .pf (blockRespWord (respTypeOf getCrc) data) ||| Side.pf.intBit =
    responseCsr getCrc data from rfl]
  simp only [pollIf_of_idle hidle₁, hhandler, Option.getD_some, pollIf_of_idle hidle₂, hfinish, pollIf_of_idle hidle₃]
  rcases hcase : early with _ | _ <;> rcases poll with _ | _ | _ | _ <;> simp_all

/-- Nothing is pending in the mailbox: the PF's pattern does not stand and the VF has waited for
every completion. -/
structure MailboxState.Quiet (s : MailboxState) : Prop where
  free : Side.pf.inUse s.csr = false
  noCompletion : s.vf.iovMsgCompletion = 0

section Request

variable {pf : PfDevice} {s : MailboxState} {cls : BlockClass} {msgType : Byte} {blk : BlockView}

lemma adfVf2pfReqHndl_requestCsr {msgIndex : Byte} (hcls : BlockClass.ofMessageType msgType = some cls)
    (hidx : msgIndex.toNat < cls.payloadSize + blockData) {vfInfo : VfInfo}
    (hblk : providedBlock pf.providers msgType vfInfo.compatVer msgIndex = .ok blk)
    (hnum : msgIndex.toNat < blk.size.toNat + blockData) (getCrc : Bool) :
    let r := adfVf2pfReqHndl pf vfInfo (requestCsr cls msgType msgIndex getCrc)
    r.vfInfo = vfInfo ∧ r.resp = blockRespWord (respTypeOf getCrc) (blockAnswer blk msgIndex getCrc).1 ∧
      ∃ acked, r.ack = some acked ∧ acked &&& Side.vf.intBit = 0 := by
  have hdec := requestCsr_decodesTo _ _ hcls _ hidx getCrc
  simp only [decodesTo, Bool.and_eq_true, decide_eq_true_eq, beq_iff_eq] at hdec
  obtain ⟨⟨⟨⟨⟨hint, horigin⟩, htype⟩, hmsg⟩, hbyte⟩, hcrc⟩ := hdec
  have hmessage : handleMessage pf vfInfo (requestCsr cls msgType msgIndex getCrc) =
      { vfInfo := vfInfo, isNotification := false,
        resp := blockRespWord (respTypeOf getCrc) (blockAnswer blk msgIndex getCrc).1,
        reads := (blockAnswer blk msgIndex getCrc).2 } := by
    simp only [handleMessage, htype, handleBlockReq, hmsg, hbyte, hcrc, adfIovBlockGetData, hblk,
      if_neg (not_le.mpr hnum), respTypeOf]
  simp only [adfVf2pfReqHndl, hint, horigin, if_false, hmessage, Option.some.injEq, exists_eq_left', true_and]
  split_ifs with hfast
  · rw [BitVec.and_assoc, BitVec.and_comm (~~~Side.vf.inUseMask), ← BitVec.and_assoc, and_not_and_self]
    exact BitVec.zero_and
  · exact and_not_and_self _ _

/-- **One exchange.** In a quiet mailbox a request the PF can serve is answered: the VF receives
the answer of `blockAnswer` and the mailbox is quiet again once the VF has waited. -/
theorem adfIovBlockGetBc_eq (msgIndex : Byte) (hs : s.Quiet) (hcls : BlockClass.ofMessageType msgType = some cls)
    (hidx : msgIndex.toNat < cls.payloadSize + blockData)
    (hblk : providedBlock pf.providers msgType s.vfInfo.compatVer msgIndex = .ok blk)
    (hnum : msgIndex.toNat < blk.size.toNat + blockData) (sched : ℕ → PollTime) (getCrc : Bool) :
    ∃ s', adfIovBlockGetBc pf sched s msgType msgIndex getCrc =
        (s', .ok (blockAnswer blk msgIndex getCrc).1) ∧ s'.Quiet ∧ s'.vfInfo = s.vfInfo := by
  obtain ⟨hinfo, hresp, acked, hack, hacked⟩ := adfVf2pfReqHndl_requestCsr hcls hidx hblk hnum getCrc
  set data := (blockAnswer blk msgIndex getCrc).1 with hdata
  obtain ⟨⟨-, -, -, -, -, hne⟩, -, -, hfree⟩ := responseCsr_decodes getCrc true data
  have hsend : vfPutmsg pf (sched s.sends) s (blockReqWord cls msgType msgIndex getCrc) = (.ok, { s with
        csr := settledCsr getCrc data, vf := s.vf.received getCrc data, sends := s.sends + 1 }) := by
    unfold requestCsr at hinfo hresp hack
    simp only [vfPutmsg, hs.free, Bool.false_eq_true, if_false, hinfo, hresp, hack, hne,
      Option.getD_some, pfRespond_eq _ _ s.vf getCrc data hacked]
  have hword : requestWord msgType msgIndex getCrc = .ok (blockReqWord cls msgType msgIndex getCrc) := by
    simp only [requestWord, hcls, if_neg (not_le.mpr hidx)]
  refine ⟨{ s with
    csr := settledCsr getCrc data
    vf := { s.vf.received getCrc data with iovMsgCompletion := s.vf.iovMsgCompletion }
    sends := s.sends + 1 }, ?_, ?_, ?_⟩
  · simp [adfIovBlockGetBc, hword, iovMsgRespRetries, sendRequest, hsend, VfDevice.received, respTypeOf]
  · exact ⟨hfree, hs.noCompletion⟩
  · rfl

lemma blockAnswer_data (blk : BlockView) {i : ℕ} (hi : i + blockData < 256) :
    (blockAnswer blk (ofNat 8 (i + blockData)) false).1 = blk.buffer i := by
  have hnat : (ofNat 8 (i + blockData)).toNat = i + blockData := Nat.mod_eq_of_lt hi
  have hne (k : Byte) (hk : k.toNat < blockData) : ofNat 8 (i + blockData) ≠ k := by
    rintro rfl
    omega
  simp only [blockAnswer, Bool.false_eq_true, if_false, if_neg (hne 0 (by decide)), if_neg (hne 1 (by decide)), hnat,
    Nat.add_sub_cancel]

lemma getBlockData_eq (hcls : BlockClass.ofMessageType msgType = some cls)
    (hsize : blk.size.toNat ≤ cls.payloadSize) (sched : ℕ → PollTime) (n i : ℕ)
    (buffer : ℕ → Byte) (hn : i + n ≤ blk.size.toNat) (hs : s.Quiet)
    (hblk : ∀ k, providedBlock pf.providers msgType s.vfInfo.compatVer k = .ok blk) :
    ∃ s', getBlockData pf sched msgType n i s buffer =
        (s', fun j => if i ≤ j ∧ j < i + n then blk.buffer j else buffer j, .ok ()) ∧
      s'.Quiet ∧ s'.vfInfo = s.vfInfo := by
  induction n generalizing i s buffer with
  | zero =>
    refine ⟨s, ?_, hs, rfl⟩
    have hnone : ∀ j, ¬ (i ≤ j ∧ j < i + 0) := by omega
    simp only [getBlockData, hnone, if_false]
  | succ n ih =>
    have hbyte : i + blockData < 256 := by
      have := size_le_of_providedBlock (hblk 0)
      unfold blockData
      omega
    have hnat : (ofNat 8 (i + blockData)).toNat = i + blockData := Nat.mod_eq_of_lt hbyte
    obtain ⟨s₁, hget, hs₁, hinfo₁⟩ := adfIovBlockGetBc_eq _ hs hcls (by rw [hnat]; omega)
      (hblk (ofNat 8 (i + blockData))) (by rw [hnat]; omega) sched false
    obtain ⟨s₂, hrest, hs₂, hinfo₂⟩ := ih (i + 1) (Function.update buffer i (blk.buffer i))
      (by omega) hs₁ (by rwa [hinfo₁])
    refine ⟨s₂, ?_, hs₂, hinfo₂.trans hinfo₁⟩
    rw [blockAnswer_data blk hbyte] at hget
    simp only [getBlockData, adfIovBlockGetByte, hget, hrest, Prod.mk.injEq, true_and, and_true]
    funext j
    by_cases hj : j = i
    · subst hj
      simp
    · rw [Function.update_of_ne hj]
      congr 1
      simp only [eq_iff_iff]
      omega

lemma sizeTooLarge_eq_false : ∀ msgType : Byte, ∀ cls ∈ BlockClass.ofMessageType msgType, ∀ size : Byte,
    size.toNat ≤ cls.payloadSize → sizeTooLarge msgType size = false := by
  decide +kernel

lemma providedBlock_of_registered {t : Fin 28} {provider : Provider} {compatibility : Byte}
    (hcls : BlockClass.ofMessageType (ofNat 8 t) = some cls)
    (hreg : pf.providers t = some provider) (hprov : ∀ k, provider compatibility k = some blk)
    (hsize : blk.size.toNat ≤ cls.payloadSize) (k : Byte) :
    providedBlock pf.providers (ofNat 8 t) compatibility k = .ok blk := by
  have hnat : (ofNat 8 (t : ℕ)).toNat = t := Nat.mod_eq_of_lt (by omega)
  have hlt : (ofNat 8 (t : ℕ)).toNat < 28 := by
    rw [hnat]
    exact t.isLt
  have hfin : (⟨(ofNat 8 (t : ℕ)).toNat, hlt⟩ : Fin 28) = t := Fin.ext hnat
  unfold providedBlock
  rw [dif_pos hlt, hfin, hreg]
  simp [hprov, sizeTooLarge_eq_false _ _ hcls _ hsize]

end Request

/-- **The round trip**, for a block of any content and length of its class, a buffer of any length and any
schedule. -/
theorem adfIovBlockGet_roundTrip (pf : PfDevice) (sched : ℕ → PollTime) (s : MailboxState)
    (hs : s.Quiet) (t : Fin 28) (cls : BlockClass)
    (hcls : BlockClass.ofMessageType (ofNat 8 t) = some cls) (provider : Provider)
    (hreg : pf.providers t = some provider) (blk : BlockView) (hprov : ∀ k, provider s.vfInfo.compatVer k = some blk)
    (hsize : blk.size.toNat ≤ cls.payloadSize) (out : BlockOut) :
    ∃ s' out', adfIovBlockGet pf sched s (ofNat 8 t) out = (s', out', .ok ()) ∧ out'.blockVersion = blk.msgVer ∧
      out'.length.toNat = min blk.size.toNat out.length.toNat ∧
      (∀ i, i < min blk.size.toNat out.length.toNat → out'.buffer i = blk.buffer i) ∧
      (∀ i, min blk.size.toNat out.length.toNat ≤ i → out'.buffer i = out.buffer i) ∧
      (adfIovBlockGetData pf.providers (ofNat 8 t) (out'.length + 1) s.vfInfo.compatVer
        true).1 = .ok (localCrc blk.msgVer blk.size out'.buffer out'.length.toNat) := by
  have hblk := providedBlock_of_registered hcls hreg hprov hsize
  have hle := size_le_of_providedBlock (hblk 0)
  have hmax : ¬ BlockClass.large.maxMessageType < (ofNat 8 (t : ℕ)).toNat := by
    rw [BitVec.toNat_ofNat]
    simp only [BlockClass.maxMessageType]
    omega
  have hpos : ∀ k : Byte, k.toNat < 2 → k.toNat < cls.payloadSize + blockData := by
    unfold blockData
    omega
  -- version and length
  obtain ⟨s₁, hver, hs₁, hinfo₁⟩ := adfIovBlockGetBc_eq 0 hs hcls (hpos 0 (by decide)) (hblk 0)
    (by simp [blockData]) sched false
  rw [← hinfo₁] at hblk
  obtain ⟨s₂, hlen, hs₂, hinfo₂⟩ := adfIovBlockGetBc_eq 1 hs₁ hcls (hpos 1 (by decide)) (hblk 1)
    (by simp [blockData]) sched false
  rw [← hinfo₂] at hblk
  -- the data
  set payloadLen : Byte := if out.length < blk.size then out.length else blk.size with hpayload
  have hmin : payloadLen.toNat = min blk.size.toNat out.length.toNat := by
    rw [hpayload]
    split_ifs with h <;> rw [BitVec.lt_def] at h <;> omega
  obtain ⟨s₃, hdata, hs₃, hinfo₃⟩ := getBlockData_eq hcls hsize sched payloadLen.toNat 0 out.buffer
    (by omega) hs₂ hblk
  rw [← hinfo₃] at hblk
  set buffer : ℕ → Byte := fun j =>
    if 0 ≤ j ∧ j < 0 + payloadLen.toNat then blk.buffer j else out.buffer j with hbuffer
  -- the CRC
  have hidx : (payloadLen + 1).toNat = payloadLen.toNat + 1 := by
    have hone : (1 : Byte).toNat = 1 := rfl
    rw [BitVec.toNat_add]
    omega
  have hsub : payloadLen + 2 - 1 = payloadLen + 1 := by
    rw [show (2 : Byte) = 1 + 1 from rfl, ← BitVec.add_assoc, BitVec.add_sub_cancel]
  obtain ⟨s₄, hcrc, hs₄, hinfo₄⟩ := adfIovBlockGetBc_eq (payloadLen + 1) hs₃ hcls
    (by rw [hidx]; unfold blockData; omega) (hblk (payloadLen + 1)) (by rw [hidx]; unfold blockData; omega) sched true
  have hsame : localCrc blk.msgVer blk.size buffer payloadLen.toNat = (blockAnswer blk (payloadLen + 1) true).1 := by
    have hone : (payloadLen + 1 - 1).toNat = payloadLen.toNat := by
      rw [BitVec.add_sub_cancel]
    simp only [localCrc, blockAnswer, if_true, adfPfvfCrc_eq, hone]
    congr 1
    apply List.map_congr_left
    intro i hi
    rw [List.mem_range'_1] at hi
    simp only [hbuffer]
    rw [if_pos (by omega)]
  refine ⟨s₄, ⟨blk.msgVer, buffer, payloadLen⟩, ?_, rfl, hmin, ?_, ?_, ?_⟩
  · have hver' : (blockAnswer blk 0 false).1 = blk.msgVer := rfl
    have hlen' : (blockAnswer blk 1 false).1 = blk.size := rfl
    unfold adfIovBlockGet
    rw [if_neg hmax]
    simp only [adfIovBlockGetByte, hver, hver', hlen, hlen', ← hpayload, hdata, adfIovBlockGetCrc,
      hsub, hcrc, hsame, ne_eq, not_true_eq_false, if_false]
  · intro i hi
    simp only [hbuffer]
    rw [if_pos (by omega)]
  · intro i hi
    simp only [hbuffer]
    rw [if_neg (by omega)]
  · have hnum : ¬ blk.size.toNat + blockData ≤ (payloadLen + 1).toNat := by
      unfold blockData
      omega
    rw [hinfo₃, hinfo₂, hinfo₁] at hblk
    simp only [adfIovBlockGetData, hblk, if_neg hnum, hsame]

def idleMailbox : MailboxState where
  csr := 0
  vf :=
    { pfRunning := true, pfVersion := 3, compatible := 1, pf2vfBlockByte := 0
      pf2vfBlockRespType := 0, iovMsgCompletion := 0 }
  vfInfo := { init := false, compatVer := 3 }
  sends := 0

/-- The capability block of 12 bytes, read into a buffer of 16 bytes by a VF whose sender always
looks last. -/
theorem capabilities_roundTrip : idleMailbox.Quiet ∧ ∃ s' out',
      adfIovBlockGet capabilitiesPf (fun _ => .last) idleMailbox 2 ⟨2, fun _ => 0, 16⟩ =
        (s', out', .ok ()) ∧ out'.blockVersion = 3 ∧ out'.length.toNat = 12 := by
  have hquiet : idleMailbox.Quiet := ⟨by decide, rfl⟩
  refine ⟨hquiet, ?_⟩
  obtain ⟨s', out', hget, hver, hlen, -⟩ :=
    adfIovBlockGet_roundTrip capabilitiesPf (fun _ => .last) idleMailbox hquiet 2 .small (by decide)
      (adfPfCapabilitiesMsgProvider 0x1#32 0x3F#32 0x28A76D80#32 fun _ => 0) rfl _ (fun _ => rfl)
      (by decide) ⟨2, fun _ => 0, 16⟩
  exact ⟨s', out', hget, hver.trans (by decide), hlen.trans (by decide)⟩

end QuickAssist.PfVf
