import QuickAssist.Lib.Run
import QuickAssist.PfVf.BlockGet

/-!
# Whose answer a block request takes

`adf_iov_block_get_bc` sends a request, waits for a completion with a timeout, and sends again up to five times. The
bottom half leaves the answer in two fields of the device and completes. An answer does not say which request it
belongs to. This file runs the function, step by step, against a PF that may answer late, or not at all, and a mailbox
that may lose requests and answers. Every call has a number, which goes with its messages; the code does not see it.

**The defect.** The answer taken may be that of an earlier call (`late_answer_taken`). A request that is sent again has
two answers. The second completes too, and the completion stays until the next call waits: it returns at once with what
the fields hold. There is no `reinit_completion` in between.

**Outside.** Calls of `adf_iov_block_get_bc` come one after the other. The mailbox may lose a message whatever
`adf_iov_putmsg` returns, and it may deliver messages in any order, but it does not make them up.
-/

namespace QuickAssist.PfVf

open Lib List

/-! ## States -/

/-- The arguments of a call. Source: `adf_iov_block_get_bc`. -/
structure BlockRequest where
  msgType : Byte
  msgIndex : Byte
  getCrc : Bool

structure Underway where
  call : ℕ
  msg : Word

/-- Where the caller stands in `adf_iov_block_get_bc`. -/
inductive CallerPc
  | idle
  | toSend (req : BlockRequest) (msg : Word) (retryCount : ℕ)
  /-- In `adf_iov_putmsg`, waiting for the acknowledgement. -/
  | sent (req : BlockRequest) (msg : Word) (retryCount : ℕ)
  /-- In `wait_for_completion_timeout`. -/
  | waiting (req : BlockRequest) (msg : Word) (retryCount : ℕ)
  | received (req : BlockRequest)

structure HandledRequest where
  call : ℕ
  pf : PfDevice
  vfInfo : VfInfo

structure Returned where
  call : ℕ
  req : BlockRequest
  data : Byte
  answerOf : Option ℕ

structure Exchange where
  vf : VfDevice
  /-- The call whose answer `vf.pf2vf_block_byte` and `vf.pf2vf_block_resp_type` were last taken from. -/
  answerOf : Option ℕ
  vfInfo : VfInfo
  pc : CallerPc
  calls : ℕ
  requests : List Underway
  answers : List Underway
  handled : List HandledRequest
  returned : List Returned

/-! ## Steps -/

inductive ExchangeEvent
  | call (req : BlockRequest)
  | send (written : Bool)
  | putmsgReturns (ret : PutRet)
  /-- The PF's handler reads a request and answers, with what the PF has then. -/
  | pfAnswers (i : ℕ) (pf : PfDevice)
  | loseRequest (i : ℕ)
  | loseAnswer (i : ℕ)
  | deliver (i : ℕ)
  | notify (msg : Word) (kzallocOk : Bool)
  | completed
  | timeout
  | finish

def vfCsr (msg : Word) : Word := putmsgWord .vf msg ||| Side.vf.intBit

def pfCsr (msg : Word) : Word := putmsgWord .pf msg ||| Side.pf.intBit

def isNotification (w : Word) : Bool := decide (pf2vfMsgtype w = .restarting) || decide (pf2vfMsgtype w = .fatalError)

/-- One step of `adf_iov_block_get_bc`, in which a wait times out only without a completion, or of a handler. -/
def exchangeStep (s : Exchange) : ExchangeEvent → Option Exchange
  | .call req =>
    match s.pc with
    | .idle =>
      match requestWord req.msgType req.msgIndex req.getCrc with
      | .error _ => some { s with calls := s.calls + 1 }
      | .ok msg => some { s with calls := s.calls + 1, pc := .toSend req msg 0 }
    | _ => none
  | .send written =>
    match s.pc with
    | .toSend req msg retryCount =>
      some { s with
        pc := .sent req msg retryCount
        requests := if written then s.requests ++ [⟨s.calls, msg⟩] else s.requests }
    | _ => none
  | .putmsgReturns ret =>
    match s.pc with
    | .sent req msg retryCount =>
      if ret = .ok then some { s with pc := .waiting req msg retryCount }
      else some { s with pc := .idle }
    | _ => none
  | .pfAnswers i pf =>
    match s.requests[i]? with
    | none => none
    | some r =>
      let h := adfVf2pfReqHndl pf s.vfInfo (vfCsr r.msg)
      some { s with
        vfInfo := h.vfInfo
        requests := s.requests.eraseIdx i
        handled := s.handled ++ [⟨r.call, pf, s.vfInfo⟩]
        answers := if h.resp = 0 then s.answers else s.answers ++ [⟨r.call, h.resp⟩] }
  | .loseRequest i => some { s with requests := s.requests.eraseIdx i }
  | .loseAnswer i => some { s with answers := s.answers.eraseIdx i }
  | .deliver i =>
    match s.answers[i]? with
    | none => none
    | some a =>
      some { s with
        vf := (adfPf2vfBhHandler true s.vf (pfCsr a.msg)).1
        answerOf := some a.call
        answers := s.answers.eraseIdx i }
  | .notify w kzallocOk =>
    if isNotification w then some { s with vf := (adfPf2vfBhHandler kzallocOk s.vf w).1 } else none
  | .completed =>
    match s.pc with
    | .waiting req _ _ =>
      if 0 < s.vf.iovMsgCompletion then
        some { s with vf := { s.vf with iovMsgCompletion := s.vf.iovMsgCompletion - 1 }, pc := .received req }
      else none
    | _ => none
  | .timeout =>
    match s.pc with
    | .waiting req msg retryCount =>
      if 0 < s.vf.iovMsgCompletion then none
      else if retryCount + 1 < iovMsgRespRetries then
        some { s with pc := .toSend req msg (retryCount + 1) }
      else some { s with pc := .idle }
    | _ => none
  | .finish =>
    match s.pc with
    | .received req =>
      if s.vf.pf2vfBlockRespType ≠ respTypeOf req.getCrc then some { s with pc := .idle }
      else
        some { s with pc := .idle, returned := s.returned ++ [⟨s.calls, req, s.vf.pf2vfBlockByte, s.answerOf⟩] }
    | _ => none

structure Exchange.Initial (s : Exchange) : Prop where
  pc : s.pc = .idle
  returned : s.returned = []

/-! ## The property -/

/-- What the PF answered when it handled a request, as `adf_iov_block_get_data` gave it. -/
def HandledRequest.answer (h : HandledRequest) (req : BlockRequest) : Except BlockError Byte :=
  (adfIovBlockGetData h.pf.providers req.msgType req.msgIndex h.vfInfo.compatVer req.getCrc).1

/-- The value was taken from an answer to the call that returned it, and it is what the PF answered when it
handled the request of this call. -/
def Returned.Matched (handled : List HandledRequest) (r : Returned) : Prop :=
  r.answerOf = some r.call ∧ ∃ h ∈ handled, h.call = r.call ∧ h.answer r.req = .ok r.data

/-- If a call begins, nothing of an earlier one is left: no completion, no request and no answer. -/
def CallsSettled (s : Exchange) : ExchangeEvent → Prop
  | .call _ => s.vf.iovMsgCompletion = 0 ∧ s.requests = [] ∧ s.answers = []
  | _ => True

/-! ## The words -/

def answerWord (getCrc : Bool) : Except BlockError Byte → Word
  | .error e => blockRespWord blockRespTypeError e.code
  | .ok data => blockRespWord (respTypeOf getCrc) data

def answerType (getCrc : Bool) : Except BlockError Byte → Byte
  | .error _ => blockRespTypeError
  | .ok _ => respTypeOf getCrc

def answerByte : Except BlockError Byte → Byte
  | .error e => e.code
  | .ok data => data

lemma answerWord_decodes (getCrc : Bool) (res : Except BlockError Byte) :
    pfCsr (answerWord getCrc res) &&& Side.pf.intBit ≠ 0 ∧
      pfCsr (answerWord getCrc res) &&& Side.pf.msgoriginSystem ≠ 0 ∧
      pf2vfMsgtype (pfCsr (answerWord getCrc res)) = .blockResp ∧
      blockRespType (pfCsr (answerWord getCrc res)) = answerType getCrc res ∧
      blockRespData (pfCsr (answerWord getCrc res)) = answerByte res := by
  rcases res with e | data
  · -- an error says nothing of what was asked for
    have hcodes : ∀ code : Byte, let w := pfCsr (blockRespWord blockRespTypeError code)
        w &&& Side.pf.intBit ≠ 0 ∧ w &&& Side.pf.msgoriginSystem ≠ 0 ∧ pf2vfMsgtype w = .blockResp ∧
          blockRespType w = blockRespTypeError ∧ blockRespData w = code := by
      decide +kernel
    exact hcodes e.code
  · obtain ⟨⟨hint, horigin, htype, hresp, hdata, -⟩, -⟩ := responseCsr_decodes getCrc true data
    exact ⟨hint, horigin, htype, hresp, hdata⟩

lemma adfPf2vfBhHandler_answer (vf : VfDevice) (getCrc : Bool) (res : Except BlockError Byte) :
    (adfPf2vfBhHandler true vf (pfCsr (answerWord getCrc res))).1 = { vf with
        pf2vfBlockByte := answerByte res
        pf2vfBlockRespType := answerType getCrc res
        iovMsgCompletion := vf.iovMsgCompletion + 1 } := by
  obtain ⟨hint, horigin, htype, hresp, hdata⟩ := answerWord_decodes getCrc res
  unfold adfPf2vfBhHandler
  rw [if_neg hint, if_neg horigin, htype]
  simp only [hresp, hdata]

lemma adfPf2vfBhHandler_notification {w : Word} (h : isNotification w = true) (kzallocOk : Bool) (vf : VfDevice) :
    (adfPf2vfBhHandler kzallocOk vf w).1.pf2vfBlockByte = vf.pf2vfBlockByte ∧
      (adfPf2vfBhHandler kzallocOk vf w).1.pf2vfBlockRespType = vf.pf2vfBlockRespType ∧
      (adfPf2vfBhHandler kzallocOk vf w).1.iovMsgCompletion = vf.iovMsgCompletion := by
  simp only [isNotification, Bool.or_eq_true, decide_eq_true_eq] at h
  unfold adfPf2vfBhHandler
  split
  · exact ⟨rfl, rfl, rfl⟩
  · split
    · exact ⟨rfl, rfl, rfl⟩
    · rcases h with htype | htype
      · rw [htype]
        cases kzallocOk <;> exact ⟨rfl, rfl, rfl⟩
      · rw [htype]
        exact ⟨rfl, rfl, rfl⟩

lemma resp_of_no_class (pf : PfDevice) (vfInfo : VfInfo) (getCrc : Bool) : (adfVf2pfReqHndl pf vfInfo
      (vfCsr (Side.vf.msgoriginSystem ||| (if getCrc then 1#32 <<< blockReqCrcShift else 0#32)))).resp =
      0 := by
  have hwords : ∀ crc : Bool,
      let w := vfCsr (Side.vf.msgoriginSystem ||| (if crc then 1#32 <<< blockReqCrcShift else 0#32))
      w &&& Side.vf.intBit ≠ 0 ∧ w &&& Side.vf.msgoriginSystem ≠ 0 ∧ vf2pfMsgtype w = .unknown := by
    decide
  obtain ⟨hint, horigin, htype⟩ := hwords getCrc
  simp only [adfVf2pfReqHndl, if_neg hint, if_neg horigin, handleMessage, htype]

variable {req : BlockRequest} {s s' : Exchange} {msg : Word}

/-- **A request that is answered is answered as asked**: the handler's answer to the word of a request is the
one of `adf_iov_block_get_data` to the request. -/
theorem resp_of_requestWord (h : requestWord req.msgType req.msgIndex req.getCrc = .ok msg) (hr : HandledRequest)
    (hresp : (adfVf2pfReqHndl hr.pf hr.vfInfo (vfCsr msg)).resp ≠ 0) :
    (adfVf2pfReqHndl hr.pf hr.vfInfo (vfCsr msg)).resp = answerWord req.getCrc (hr.answer req) := by
  unfold requestWord at h
  split at h
  · next cls hcls =>
    split_ifs at h with hidx
    cases h
    have hdec := requestCsr_decodesTo _ _ hcls _ (Nat.lt_of_not_le hidx) req.getCrc
    simp only [decodesTo, Bool.and_eq_true, decide_eq_true_eq, beq_iff_eq] at hdec
    obtain ⟨⟨⟨⟨⟨hint, horigin⟩, htype⟩, hmsg⟩, hbyte⟩, hcrc⟩ := hdec
    change (adfVf2pfReqHndl hr.pf hr.vfInfo (requestCsr cls req.msgType req.msgIndex req.getCrc)).resp = _
    simp only [adfVf2pfReqHndl, if_neg hint, if_neg horigin, handleMessage, htype, handleBlockReq, hmsg,
      hbyte, hcrc, HandledRequest.answer]
    generalize (adfIovBlockGetData hr.pf.providers req.msgType req.msgIndex hr.vfInfo.compatVer req.getCrc).1 = res
    rcases res with e | data <;> rfl
  · cases h
    exact absurd (resp_of_no_class hr.pf hr.vfInfo req.getCrc) hresp

/-! ## The invariant

What holds in a call: whatever is on its way belongs to it. Where the caller stands plays no part in what the PF,
the mailbox and the bottom half do, so that is said without it. -/

/-- The PF has handled this call's request and found `res`. -/
def Exchange.Answered (s : Exchange) (req : BlockRequest) (res : Except BlockError Byte) : Prop :=
  ∃ h ∈ s.handled, h.call = s.calls ∧ h.answer req = res

structure Exchange.InCall (s : Exchange) (req : BlockRequest) (msg : Word) : Prop where
  word : requestWord req.msgType req.msgIndex req.getCrc = .ok msg
  requests : ∀ r ∈ s.requests, r.call = s.calls ∧ r.msg = msg
  answers : ∀ a ∈ s.answers, a.call = s.calls ∧ ∃ res, s.Answered req res ∧ a.msg = answerWord req.getCrc res

def Exchange.Taken (s : Exchange) (req : BlockRequest) : Prop :=
  s.answerOf = some s.calls ∧ ∃ res, s.Answered req res ∧ s.vf.pf2vfBlockByte = answerByte res ∧
      s.vf.pf2vfBlockRespType = answerType req.getCrc res

def Exchange.Pending (s : Exchange) (req : BlockRequest) (msg : Word) : Prop :=
  s.InCall req msg ∧ (0 < s.vf.iovMsgCompletion → s.Taken req)

def Exchange.AtPc (s : Exchange) : CallerPc → Prop
  | .idle => True
  | .toSend req msg _ | .sent req msg _ | .waiting req msg _ => s.Pending req msg
  | .received req => (∃ msg, s.InCall req msg) ∧ s.Taken req

structure Exchange.Inv (s : Exchange) : Prop where
  pc : s.AtPc s.pc
  returned : ∀ r ∈ s.returned, r.Matched s.handled

lemma Exchange.Inv.atPc {pc : CallerPc} (hs : s.Inv) (hpc : s.pc = pc) : s.AtPc pc := hpc ▸ hs.pc

/-- What the PF, the mailbox and the bottom half may do to a state: the caller does not move, and everything in
a call still belongs to it. -/
structure Surroundings (s s' : Exchange) : Prop where
  pc : s'.pc = s.pc
  returned : s'.returned = s.returned
  handled : ∀ h ∈ s.handled, h ∈ s'.handled
  inCall : ∀ req msg, s.InCall req msg → s'.InCall req msg
  taken : ∀ req msg, s.InCall req msg → s.Taken req → s'.Taken req
  completion : ∀ req msg, s.InCall req msg → s'.vf.iovMsgCompletion = s.vf.iovMsgCompletion ∨ s'.Taken req

lemma Returned.Matched.mono {hs hs' : List HandledRequest} {r : Returned} (h : r.Matched hs)
    (hsub : ∀ x ∈ hs, x ∈ hs') : r.Matched hs' := by
  obtain ⟨hof, x, hx, hcall, hans⟩ := h
  exact ⟨hof, x, hsub x hx, hcall, hans⟩

lemma Surroundings.pending (h : Surroundings s s') (hs : s.Pending req msg) : s'.Pending req msg := by
  refine ⟨h.inCall req msg hs.1, ?_⟩
  intro hpos
  rcases h.completion req msg hs.1 with heq | htaken
  · rw [heq] at hpos
    exact h.taken req msg hs.1 (hs.2 hpos)
  · exact htaken

lemma Surroundings.inv (h : Surroundings s s') (hs : s.Inv) : s'.Inv := by
  constructor
  · have hpc := hs.pc
    rw [h.pc]
    rcases hcase : s.pc with _ | ⟨req, msg, n⟩ | ⟨req, msg, n⟩ | ⟨req, msg, n⟩ | req <;> rw [hcase] at hpc
    · trivial
    · exact h.pending hpc
    · exact h.pending hpc
    · exact h.pending hpc
    · obtain ⟨⟨msg, hin⟩, htaken⟩ := hpc
      exact ⟨⟨msg, h.inCall req msg hin⟩, h.taken req msg hin htaken⟩
  · intro r hr
    rw [h.returned] at hr
    exact (hs.returned r hr).mono h.handled

/-! ### The surroundings, step by step -/

variable (s)

lemma surroundings_lose {requests answers : List Underway}
    (hreq : ∀ r ∈ requests, r ∈ s.requests) (hans : ∀ a ∈ answers, a ∈ s.answers) :
    Surroundings s { s with requests := requests, answers := answers } where
  pc := rfl
  returned := rfl
  handled := fun _ hh => hh
  inCall := fun _ _ hin => ⟨hin.word, fun r hr => hin.requests r (hreq r hr), fun a ha => hin.answers a (hans a ha)⟩
  taken := fun _ _ _ htaken => htaken
  completion := fun _ _ _ => Or.inl rfl

lemma surroundings_notify {w : Word} (h : isNotification w = true) (kzallocOk : Bool) :
    Surroundings s { s with vf := (adfPf2vfBhHandler kzallocOk s.vf w).1 } := by
  obtain ⟨hbyte, htype, hcompletion⟩ := adfPf2vfBhHandler_notification h kzallocOk s.vf
  refine ⟨rfl, rfl, fun _ hh => hh, fun _ _ hin => { hin with }, ?_, ?_⟩
  · rintro req msg - ⟨hof, res, hres, hb, ht⟩
    exact ⟨hof, res, hres, hbyte.trans hb, htype.trans ht⟩
  · intro req msg _
    exact Or.inl hcompletion

lemma surroundings_deliver {i : ℕ} {a : Underway} (hi : s.answers[i]? = some a) : Surroundings s { s with
        vf := (adfPf2vfBhHandler true s.vf (pfCsr a.msg)).1
        answerOf := some a.call
        answers := s.answers.eraseIdx i } := by
  have hmem : a ∈ s.answers := mem_of_getElem? hi
  have htake : ∀ req msg, s.InCall req msg → Exchange.Taken { s with
        vf := (adfPf2vfBhHandler true s.vf (pfCsr a.msg)).1
        answerOf := some a.call
        answers := s.answers.eraseIdx i } req := by
    intro req msg hin
    obtain ⟨hcall, res, hres, hmsg⟩ := hin.answers a hmem
    have hbh := adfPf2vfBhHandler_answer s.vf req.getCrc res
    rw [← hmsg] at hbh
    refine ⟨congrArg some hcall, res, hres, ?_, ?_⟩
    · exact congrArg VfDevice.pf2vfBlockByte hbh
    · exact congrArg VfDevice.pf2vfBlockRespType hbh
  refine ⟨rfl, rfl, fun _ hh => hh, ?_, fun req msg hin _ => htake req msg hin,
    fun req msg hin => Or.inr (htake req msg hin)⟩
  intro req msg hin
  exact ⟨hin.word, hin.requests, fun b hb => hin.answers b (mem_of_mem_eraseIdx hb)⟩

lemma surroundings_pfAnswers {i : ℕ} {r : Underway} (hi : s.requests[i]? = some r) (pf : PfDevice) : Surroundings s
      { s with
        vfInfo := (adfVf2pfReqHndl pf s.vfInfo (vfCsr r.msg)).vfInfo
        requests := s.requests.eraseIdx i
        handled := s.handled ++ [⟨r.call, pf, s.vfInfo⟩]
        answers :=
          if (adfVf2pfReqHndl pf s.vfInfo (vfCsr r.msg)).resp = 0 then s.answers
          else s.answers ++ [⟨r.call, (adfVf2pfReqHndl pf s.vfInfo (vfCsr r.msg)).resp⟩] } := by
  have hmem : r ∈ s.requests := mem_of_getElem? hi
  have hmono : ∀ h ∈ s.handled, h ∈ s.handled ++ [⟨r.call, pf, s.vfInfo⟩] := fun h hh => mem_append_left _ hh
  refine ⟨rfl, rfl, hmono, ?_, ?_, fun _ _ _ => Or.inl rfl⟩
  · intro req msg hin
    obtain ⟨hcall, hmsg⟩ := hin.requests r hmem
    refine ⟨hin.word, fun r' hr' => hin.requests r' (mem_of_mem_eraseIdx hr'), ?_⟩
    intro a ha
    have hold : ∀ a ∈ s.answers, a.call = s.calls ∧ ∃ res,
        (∃ h ∈ s.handled ++ [⟨r.call, pf, s.vfInfo⟩], h.call = s.calls ∧ h.answer req = res) ∧
          a.msg = answerWord req.getCrc res := by
      intro a ha
      obtain ⟨hc, res, ⟨h, hh, hres⟩, hw⟩ := hin.answers a ha
      exact ⟨hc, res, ⟨h, hmono h hh, hres⟩, hw⟩
    split at ha
    · exact hold a ha
    · next hresp =>
      rcases mem_append.mp ha with ha | ha
      · exact hold a ha
      · -- the new one
        obtain rfl := mem_singleton.mp ha
        rw [hmsg] at hresp
        have hword := resp_of_requestWord hin.word ⟨r.call, pf, s.vfInfo⟩ hresp
        refine ⟨hcall, _, ⟨_, mem_append_right _ (mem_singleton.mpr rfl), hcall, rfl⟩, ?_⟩
        rw [hmsg]
        exact hword
  · rintro req msg - ⟨hof, res, ⟨h, hh, hres⟩, hb, ht⟩
    exact ⟨hof, res, ⟨h, hmono h hh, hres⟩, hb, ht⟩

/-! ### The caller, step by step -/

variable {s}

lemma inv_call (hG : CallsSettled s (.call req)) (h : exchangeStep s (.call req) = some s') (hs : s.Inv) : s'.Inv := by
  obtain ⟨hcompletion, hrequests, hanswers⟩ := hG
  simp only [exchangeStep] at h
  split at h
  · next hpc =>
    split at h
    · cases h
      exact ⟨by rw [hpc]; trivial, hs.returned⟩
    · next msg hword =>
      cases h
      refine ⟨⟨⟨hword, ?_, ?_⟩, ?_⟩, hs.returned⟩
      · intro r hr
        rw [hrequests] at hr
        cases hr
      · intro a ha
        rw [hanswers] at ha
        cases ha
      · intro hpos
        rw [hcompletion] at hpos
        cases hpos
  · cases h

lemma inv_send {written : Bool} (h : exchangeStep s (.send written) = some s') (hs : s.Inv) : s'.Inv := by
  simp only [exchangeStep] at h
  split at h
  · next req msg retryCount hpc =>
    cases h
    obtain ⟨hin, htaken⟩ := hs.atPc hpc
    refine ⟨⟨⟨hin.word, ?_, hin.answers⟩, htaken⟩, hs.returned⟩
    intro r hr
    cases written with
    | false => exact hin.requests r hr
    | true =>
      rcases mem_append.mp hr with hr | hr
      · exact hin.requests r hr
      · obtain rfl := mem_singleton.mp hr
        exact ⟨rfl, rfl⟩
  · cases h

lemma inv_putmsgReturns {ret : PutRet} (h : exchangeStep s (.putmsgReturns ret) = some s') (hs : s.Inv) : s'.Inv := by
  simp only [exchangeStep] at h
  split at h
  · next req msg retryCount hpc =>
    obtain ⟨hin, htaken⟩ := hs.atPc hpc
    split at h
    · cases h
      exact ⟨⟨{ hin with }, htaken⟩, hs.returned⟩
    · cases h
      exact ⟨trivial, hs.returned⟩
  · cases h

lemma inv_completed (h : exchangeStep s .completed = some s') (hs : s.Inv) : s'.Inv := by
  simp only [exchangeStep] at h
  split at h
  · next req msg retryCount hpc =>
    obtain ⟨hin, htaken⟩ := hs.atPc hpc
    split_ifs at h with hpos
    cases h
    exact ⟨⟨⟨msg, { hin with }⟩, htaken hpos⟩, hs.returned⟩
  · cases h

lemma inv_timeout (h : exchangeStep s .timeout = some s') (hs : s.Inv) : s'.Inv := by
  simp only [exchangeStep] at h
  split at h
  · next req msg retryCount hpc =>
    obtain ⟨hin, htaken⟩ := hs.atPc hpc
    split at h
    · cases h
    · split at h
      · cases h
        exact ⟨⟨{ hin with }, htaken⟩, hs.returned⟩
      · cases h
        exact ⟨trivial, hs.returned⟩
  · cases h

lemma eq_ok_of_answerType {getCrc : Bool} {res : Except BlockError Byte}
    (h : answerType getCrc res = respTypeOf getCrc) : res = .ok (answerByte res) := by
  rcases res with e | data
  · have hne : ∀ crc, blockRespTypeError ≠ respTypeOf crc := by decide
    exact absurd h (hne getCrc)
  · rfl

lemma inv_finish (h : exchangeStep s .finish = some s') (hs : s.Inv) : s'.Inv := by
  simp only [exchangeStep] at h
  split at h
  · next req hpc =>
    obtain ⟨-, hof, res, ⟨hr, hmem, hcall, hres⟩, hbyte, htype⟩ := hs.atPc hpc
    split at h
    · cases h
      exact ⟨trivial, hs.returned⟩
    · next hok =>
      cases h
      refine ⟨trivial, ?_⟩
      intro r hr'
      rcases mem_append.mp hr' with hr' | hr'
      · exact hs.returned r hr'
      · obtain rfl := mem_singleton.mp hr'
        rw [htype, ne_eq, Decidable.not_not] at hok
        refine ⟨hof, hr, hmem, hcall, ?_⟩
        rw [hres, hbyte]
        exact eq_ok_of_answerType hok
  · cases h

lemma exchangeStep_inv {e : ExchangeEvent} (hs : s.Inv)
    (h : guarded CallsSettled (ofFun exchangeStep) s e s') : s'.Inv := by
  obtain ⟨hG, h⟩ := h
  unfold ofFun at h
  rcases e with req | written | ret | ⟨i, pf⟩ | i | i | i | ⟨w, kzallocOk⟩ | _ | _ | _
  · exact inv_call hG h hs
  · exact inv_send h hs
  · exact inv_putmsgReturns h hs
  · simp only [exchangeStep] at h
    split at h
    · cases h
    · next r hi =>
      cases h
      exact (surroundings_pfAnswers s hi pf).inv hs
  · cases h
    exact (surroundings_lose s (fun r => mem_of_mem_eraseIdx) (fun a ha => ha)).inv hs
  · cases h
    exact (surroundings_lose s (fun r hr => hr) (fun a => mem_of_mem_eraseIdx)).inv hs
  · simp only [exchangeStep] at h
    split at h
    · cases h
    · next a hi =>
      cases h
      exact (surroundings_deliver s hi).inv hs
  · simp only [exchangeStep] at h
    split_ifs at h with hw
    cases h
    exact (surroundings_notify s hw kzallocOk).inv hs
  · exact inv_completed h hs
  · exact inv_timeout h hs
  · exact inv_finish h hs

/-! ## The results -/

/-- **Settled calls take their own answers**, with whatever delays, losses and retries there are. -/
theorem answers_match (s₀ s : Exchange) (es : List ExchangeEvent) (h₀ : s₀.Initial)
    (hrun : Run (guarded CallsSettled (ofFun exchangeStep)) s₀ es s) : ∀ r ∈ s.returned, r.Matched s.handled := by
  have hinv : s.Inv := by
    apply hrun.invariant (fun _ _ _ hs hstep => exchangeStep_inv hs hstep)
    refine ⟨by rw [h₀.pc]; trivial, ?_⟩
    intro r hr
    rw [h₀.returned] at hr
    cases hr
  exact hinv.returned

instance (s : Exchange) (e : ExchangeEvent) : Decidable (CallsSettled s e) := by
  unfold CallsSettled
  split <;> infer_instance

def onePf : PfDevice where
  providers := fun t => if t.val = 0 then some (fun _ _ => some ⟨fun i => BitVec.ofNat 8 (i + 16), 8, 3⟩) else none
  cm := none

def freshExchange : Exchange where
  vf := ⟨true, 3, 1, 0, 0, 0⟩
  answerOf := none
  vfInfo := ⟨true, 3⟩
  pc := .idle
  calls := 0
  requests := []
  answers := []
  handled := []
  returned := []

def versionRequest : BlockRequest := ⟨0, 0, false⟩

def lengthRequest : BlockRequest := ⟨0, 1, false⟩

def retriedVersion : List ExchangeEvent :=
  [.call versionRequest, .send true, .pfAnswers 0 onePf, .putmsgReturns .ok, .timeout, .loseAnswer 0,
    .send true, .pfAnswers 0 onePf, .putmsgReturns .ok, .deliver 0, .completed, .finish]

theorem retried_version_matched :
    ∃ s, Run (guarded CallsSettled (ofFun exchangeStep)) freshExchange retriedVersion s ∧
      s.returned = [⟨1, versionRequest, 3, some 1⟩] ∧ ∀ r ∈ s.returned, r.Matched s.handled :=
  (exec_guardFun_run rfl).exists_and fun hrun => ⟨rfl, answers_match freshExchange _ retriedVersion ⟨rfl, rfl⟩ hrun⟩

/-- The first attempt's answer comes after its timeout; the version request takes it. The answer to the second
attempt is there when the length is asked for. -/
def versionThenLength : List ExchangeEvent :=
  [.call versionRequest, .send true, .pfAnswers 0 onePf, .putmsgReturns .ok, .timeout, .deliver 0,
    .send true, .pfAnswers 0 onePf, .putmsgReturns .ok, .completed, .finish, .deliver 0,
    .call lengthRequest, .send true, .putmsgReturns .ok, .completed, .finish]

/-- **A late answer is taken:** the VF is told that the block has 3 bytes, which is its version, and the PF has
not even read the request for the length. -/
theorem late_answer_taken : ∃ s, freshExchange.Initial ∧ Run (ofFun exchangeStep) freshExchange versionThenLength s ∧
      s.returned = [⟨1, versionRequest, 3, some 1⟩, ⟨2, lengthRequest, 3, some 1⟩] ∧
      (adfIovBlockGetData onePf.providers lengthRequest.msgType lengthRequest.msgIndex 3 false).1 = .ok 8 ∧
      ¬ ∀ r ∈ s.returned, r.Matched s.handled := by
  refine ⟨_, ⟨rfl, rfl⟩, exec_run rfl, rfl, rfl, fun hall => ?_⟩
  exact absurd (hall ⟨2, lengthRequest, 3, some 1⟩ (mem_cons_of_mem _ mem_cons_self)).1 (by decide)

end QuickAssist.PfVf
