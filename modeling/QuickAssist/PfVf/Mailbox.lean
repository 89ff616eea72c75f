import QuickAssist.Lib.Run
import QuickAssist.PfVf.BlockGet

/-!
# The mailbox under concurrent use

Both ends of a mailbox may send at any time, and both interrupt handlers write the register the senders use. This file
runs `__adf_iov_putmsg` of either end against both handlers one register access at a time. By a mutex an end has one
sender at a time; what it sends, and when a handler runs, is left open. A ghost flag, `seen`, records whether the
peer's handler has read the word.

**The defect.** When the two ends claim the register at the same time (`colliding_send_reports_success`), each has
read a free register, the second write replaces the first, and the first sender takes the missing interrupt bit for an
acknowledgement. A notification would have compared the word and reported the collision; an ordinary message does not.
`WritesFresh` is the condition: no party writes the register after another has written it since its own last read.
-/

namespace QuickAssist.PfVf

open Lib Function Option BitVec

/-! ## States -/

/-- Where a sender stands in `__adf_iov_putmsg`. -/
inductive SenderPc
  | idle
  | started (isNotification : Bool) (msg : Word)
  /-- The register was free at version `ver`; `msg` has the in-use pattern. -/
  | toClaim (isNotification : Bool) (msg : Word) (ver : ℕ)
  /-- The message is written; the sender polls. `seen`: the peer's handler has read it. -/
  | polling (isNotification : Bool) (msg : Word) (delay : ℕ) (seen : Bool)
  /-- The sender has read its last value, at version `ver`, and is about to write `w` and return
  `ret`. -/
  | toClear (ret : PutRet) (w : Word) (ver : ℕ) (seen : Bool)
  deriving DecidableEq

/-- What a handler between its read and its acknowledgement holds: the word it has read, the word
it is about to write, and the version of the register it has read. -/
structure PendingAck where
  read : Word
  ack : Word
  ver : ℕ

structure Mailbox where
  csr : Word
  ver : ℕ
  sender : Side → SenderPc
  /-- Each end's handler, `none` when it is not between a read and a write. -/
  handler : Side → Option PendingAck
  vfInfo : VfInfo
  vf : VfDevice
  /-- What each end's last send returned, and whether the peer's handler had read its word. -/
  returned : Side → Option (PutRet × Bool)

/-- `ADF_PF2VF_MSGTYPE_MASK`, `ADF_VF2PF_MSGTYPE_MASK` -/
def Side.msgtypeMask : Side → Word
  | pf => 0x0000003C#32
  | vf => 0x003C0000#32

def Side.MsgOk (side : Side) (msg : Word) : Prop := msg &&& side.msgtypeMask ≠ 0 ∧ msg &&& side.peer.intBit = 0
  deriving Decidable

/-! ## Steps -/

inductive MailboxEvent
  | start (side : Side) (isNotification : Bool) (msg : Word)
  | sender (side : Side)
  /-- An end's handler makes its next register access; `kzallocOk` is for the restart request. -/
  | handler (side : Side) (kzallocOk : Bool)

def iovMsgAckDelayUs : ℕ := 5

def iovMsgAckMaxDelayUs : ℕ := 2 * 1000 * 1000

def Mailbox.write (s : Mailbox) (w : Word) : Mailbox := { s with csr := w, ver := s.ver + 1 }

def Mailbox.setSender (s : Mailbox) (side : Side) (pc : SenderPc) : Mailbox :=
  { s with sender := update s.sender side pc }

def Mailbox.finishSend (s : Mailbox) (side : Side) (ret : PutRet) (seen : Bool) : Mailbox :=
  { s.setSender side .idle with returned := update s.returned side (some (ret, seen)) }

/-- One register access of a sender.
Source: `__adf_iov_putmsg`. -/
def senderStep (s : Mailbox) (side : Side) : Option Mailbox :=
  match s.sender side with
  | .idle => none
  | .started isNotification msg =>
    if side.peer.inUse s.csr then some (s.finishSend side .eagain false)
    else some (s.setSender side (.toClaim isNotification (putmsgWord side msg) s.ver))
  | .toClaim isNotification msg _ =>
    some ((s.write (msg ||| side.intBit)).setSender side (.polling isNotification msg iovMsgAckDelayUs false))
  | .polling isNotification msg delay seen =>
    if s.csr &&& side.intBit ≠ 0 ∧ 2 * delay < iovMsgAckMaxDelayUs then
      some (s.setSender side (.polling isNotification msg (2 * delay) seen))
    else
      match putmsgFinish side isNotification msg s.csr with
      | (ret, some w) => some (s.setSender side (.toClear ret w s.ver seen))
      | (ret, none) => some (s.finishSend side ret seen)
  | .toClear ret w _ seen => some ((s.write w).finishSend side ret seen)

def handlerAck (pf : PfDevice) (s : Mailbox) (side : Side) (kzallocOk : Bool) (w : Word) :
    Option Word × VfInfo × VfDevice :=
  match side with
  | .pf =>
    let r := adfVf2pfReqHndl pf s.vfInfo w
    (r.ack, r.vfInfo, s.vf)
  | .vf =>
    let r := adfPf2vfBhHandler kzallocOk s.vf w
    (r.2, s.vfInfo, r.1)

/-- A handler has read the word `w`: if it is the one the sender waits for, note it. -/
def SenderPc.noteRead (pc : SenderPc) (side : Side) (w : Word) : SenderPc :=
  match pc with
  | .polling isNotification msg delay seen =>
    .polling isNotification msg delay (seen || decide (w = msg ||| side.intBit))
  | pc => pc

/-- One register access of a handler: it reads a word and works out its acknowledgement, or it writes the one it
has worked out. -/
def handlerStep (pf : PfDevice) (s : Mailbox) (side : Side) (kzallocOk : Bool) : Mailbox :=
  match s.handler side with
  | none =>
    let (ack, vfInfo, vf) := handlerAck pf s side kzallocOk s.csr
    { s with
      sender := update s.sender side.peer ((s.sender side.peer).noteRead side.peer s.csr)
      handler := update s.handler side (ack.map fun a => { read := s.csr, ack := a, ver := s.ver })
      vfInfo := vfInfo
      vf := vf }
  | some p => { s.write p.ack with handler := update s.handler side none }

def mailboxStep (pf : PfDevice) (s : Mailbox) : MailboxEvent → Option Mailbox
  | .start side isNotification msg =>
    if s.sender side = .idle ∧ side.MsgOk msg then
      some (s.setSender side (.started isNotification msg))
    else none
  | .sender side => senderStep s side
  | .handler side kzallocOk => some (handlerStep pf s side kzallocOk)

structure Mailbox.Initial (s : Mailbox) : Prop where
  sender : ∀ side, s.sender side = .idle
  handler : ∀ side, s.handler side = none
  returned : ∀ side, s.returned side = none

/-- Every send whose last return code was `0` has been read by the peer's handler. -/
def Mailbox.Delivered (s : Mailbox) : Prop := ∀ side seen, s.returned side = some (.ok, seen) → seen = true

/-- The version of the register at the read that an event's write is based on; `none` for an event
that does not write. -/
def Mailbox.basisVer (s : Mailbox) : MailboxEvent → Option ℕ
  | .start _ _ _ => none
  | .sender side =>
    match s.sender side with
    | .toClaim _ _ ver => some ver
    | .toClear _ _ ver _ => some ver
    | _ => none
  | .handler side _ => (s.handler side).map PendingAck.ver

def WritesFresh (s : Mailbox) (e : MailboxEvent) : Prop := s.basisVer e = none ∨ s.basisVer e = some s.ver
  deriving Decidable

/-! ## The words a sender writes -/

/-- A word with this end's pattern, without the peer's interrupt bit, that the peer would not take
for a pattern of its own. -/
structure Side.WordOk (side : Side) (msg : Word) : Prop where
  inUse : side.inUse (msg ||| side.intBit) = true
  peer_inUse : side.peer.inUse (msg ||| side.intBit) = false
  peer_intBit : (msg ||| side.intBit) &&& side.peer.intBit = 0

lemma putmsgWord_and (side : Side) (msg m : Word) : (putmsgWord side msg ||| side.intBit) &&& m =
      (msg &&& ~~~side.inUseMask &&& m ||| side.inUsePattern &&& m) ||| side.intBit &&& m := by
  unfold putmsgWord
  rw [and_or_distrib_right, and_or_distrib_right]

variable {msg : Word}

lemma Side.MsgOk.wordOk {side : Side} (h : side.MsgOk msg) : side.WordOk (putmsgWord side msg) where
  inUse := by
    rw [Side.inUse, putmsgWord_and, and_not_and_self]
    cases side <;> decide
  peer_inUse := by
    rw [Side.inUse, beq_eq_false_iff_ne]
    intro hmimic
    -- the peer's pattern has message type zero, and the message has not
    have htype := congrArg (fun w => w &&& side.msgtypeMask) hmimic
    simp only [BitVec.and_assoc] at htype
    rw [putmsgWord_and, BitVec.and_assoc] at htype
    apply h.1
    rwa [show ~~~side.inUseMask &&& (side.peer.inUseMask &&& side.msgtypeMask) = side.msgtypeMask by
        cases side <;> decide,
      show side.inUsePattern &&& (side.peer.inUseMask &&& side.msgtypeMask) = 0#32 by cases side <;> decide,
      show side.intBit &&& (side.peer.inUseMask &&& side.msgtypeMask) = 0#32 by cases side <;> decide,
      show side.peer.inUsePattern &&& side.msgtypeMask = 0#32 by cases side <;> decide, or_zero,
      or_zero] at htype
  peer_intBit := by
    have hmsg : msg &&& ~~~side.inUseMask &&& side.peer.intBit = 0 := by
      rw [BitVec.and_assoc, BitVec.and_comm (~~~side.inUseMask), ← BitVec.and_assoc, h.2]
      exact zero_and
    rw [putmsgWord_and, hmsg]
    cases side <;> decide

lemma or_intBit_and_intBit_ne_zero (side : Side) (msg : Word) : (msg ||| side.intBit) &&& side.intBit ≠ 0 := by
  intro h
  have hself : (msg ||| side.intBit) &&& side.intBit = side.intBit := by
    apply eq_of_getLsbD_eq
    intro i hi
    rw [getLsbD_and, getLsbD_or]
    cases msg.getLsbD i <;> cases side.intBit.getLsbD i <;> rfl
  rw [hself] at h
  cases side <;> exact absurd h (by decide)

variable {isNotification : Bool} {w : Word} {ret : PutRet}

lemma putmsgFinish_ok {side : Side} {val : Word}
    (h : (putmsgFinish side isNotification msg val).1 = .ok) : val &&& side.intBit = 0 := by
  by_contra hne
  unfold putmsgFinish at h
  simp only [hne, ne_eq, not_false_eq_true, if_true] at h
  split_ifs at h

lemma inUse_of_putmsgFinish {side : Side} {val : Word}
    (h : putmsgFinish side isNotification msg val = (ret, some w)) : side.inUse val = true := by
  have hclear : side.inUse (val &&& ~~~side.intBit) = side.inUse val := by
    unfold Side.inUse
    rw [BitVec.and_assoc, show ~~~side.intBit &&& side.inUseMask = side.inUseMask by
      cases side <;> decide]
  unfold putmsgFinish at h
  simp only at h
  split_ifs at h with hnot huse hack
  all_goals simp_all

/-! ## The invariant

What holds of one end in every state of a run whose writes are fresh. The clause that carries the
argument is `pending`: a message that has been written and not yet read by the peer's handler is
still in the register, word for word. Whoever could overwrite it has read the register after it was
written, and what it has read there stops it: the peer's sender has seen the pattern, the peer's
handler has seen the message, and this end's handler has seen no interrupt for it. -/

/-- The invariant of one end: the register and its version, its sender and handler, the peer's handler, and its
last return. -/
structure SideInv (side : Side) (csr : Word) (ver : ℕ) (sender : SenderPc)
    (handler peerHandler : Option PendingAck) (returned : Option (PutRet × Bool)) : Prop where
  started : ∀ isNotification msg, sender = .started isNotification msg → side.MsgOk msg
  claim : ∀ isNotification msg v, sender = .toClaim isNotification msg v →
    side.WordOk msg ∧ v ≤ ver ∧ (v = ver → side.peer.inUse csr = false)
  pending : ∀ isNotification msg delay, sender = .polling isNotification msg delay false →
    side.WordOk msg ∧ csr = msg ||| side.intBit ∧ ∀ p, peerHandler = some p → p.ver ≠ ver
  clear : ∀ ret w v seen, sender = .toClear ret w v seen →
    v ≤ ver ∧ (v = ver → side.inUse csr = true) ∧ (ret = .ok → seen = true)
  ack : ∀ p, handler = some p → p.ver ≤ ver ∧ p.read &&& side.peer.intBit ≠ 0 ∧ (p.ver = ver → p.read = csr)
  returned_ok : ∀ seen, returned = some (.ok, seen) → seen = true

def Mailbox.Inv (s : Mailbox) (side : Side) : Prop :=
  SideInv side s.csr s.ver (s.sender side) (s.handler side) (s.handler side.peer) (s.returned side)

section Steps

variable {side : Side} {csr : Word} {ver : ℕ} {sender : SenderPc}
  {handler peerHandler : Option PendingAck} {returned : Option (PutRet × Bool)}

section

variable (h : SideInv side csr ver sender handler peerHandler returned)

include h

lemma SideInv.write (w : Word)
    (hpend : ∀ isNotification msg delay, sender ≠ .polling isNotification msg delay false) :
    SideInv side w (ver + 1) sender handler peerHandler returned where
  started := h.started
  claim isNotification msg v hv := by
    obtain ⟨hword, hle, -⟩ := h.claim isNotification msg v hv
    exact ⟨hword, by omega, by omega⟩
  pending isNotification msg delay hv := absurd hv (hpend isNotification msg delay)
  clear ret w' v seen hv := by
    obtain ⟨hle, -, hok⟩ := h.clear ret w' v seen hv
    exact ⟨by omega, by omega, hok⟩
  ack p hp := by
    obtain ⟨hle, hint, -⟩ := h.ack p hp
    exact ⟨by omega, hint, by omega⟩
  returned_ok := h.returned_ok

lemma SideInv.of_peer_none : SideInv side csr ver sender handler none returned :=
  { h with
    pending := fun isNotification msg delay hv =>
      ⟨(h.pending isNotification msg delay hv).1, (h.pending isNotification msg delay hv).2.1, by simp⟩ }

lemma SideInv.of_handler_none : SideInv side csr ver sender none peerHandler returned := { h with ack := by simp }

lemma SideInv.finishSend (ret : PutRet) (seen : Bool) (hok : ret = .ok → seen = true) :
    SideInv side csr ver .idle handler peerHandler (some (ret, seen)) where
  started := by simp
  claim := by simp
  pending := by simp
  clear := by simp
  ack := h.ack
  returned_ok := by
    intro seen' hret
    simp only [Option.some.injEq, Prod.mk.injEq] at hret
    rw [← hret.2]
    exact hok hret.1

/-- What a message of this end that the peer has not read rules out: that the register is free for the peer or in use
by it, that there is an interrupt for this end, and that the peer's handler has read the register. -/
lemma SideInv.not_pending
    (hlost : side.inUse csr = false ∨ side.peer.inUse csr = true ∨ csr &&& side.peer.intBit ≠ 0 ∨
      ∃ p, peerHandler = some p ∧ p.ver = ver) :
    ∀ isNotification msg delay, sender ≠ .polling isNotification msg delay false := by
  intro isNotification msg delay hv
  obtain ⟨hword, rfl, hstale⟩ := h.pending isNotification msg delay hv
  rcases hlost with hfree | huse | hint | ⟨p, hp, hver⟩
  · exact absurd (hword.inUse.symm.trans hfree) (by simp)
  · exact absurd (hword.peer_inUse.symm.trans huse) (by simp)
  · exact hint hword.peer_intBit
  · exact hstale p hp hver

end

end Steps

/-! ## Steps keep the invariant -/

lemma Side.peer_ne (side : Side) : side.peer ≠ side := by
  cases side <;> decide

lemma Side.forall_iff {P : Side → Prop} (side : Side) : (∀ a, P a) ↔ P side ∧ P side.peer := by
  refine ⟨fun h => ⟨h _, h _⟩, fun h a => ?_⟩
  cases side <;> cases a
  exacts [h.1, h.2, h.2, h.1]

section Run

variable {pf : PfDevice} {s s' : Mailbox} {side : Side} {pc : SenderPc} {kzallocOk : Bool}

lemma Mailbox.Inv.setSender_peer (h : s.Inv side.peer) (pc : SenderPc) : (s.setSender side pc).Inv side.peer := by
  unfold Mailbox.Inv Mailbox.setSender at *
  simpa only [update_of_ne side.peer_ne] using h

lemma Mailbox.Inv.setSender_self
    (h : SideInv side s.csr s.ver pc (s.handler side) (s.handler side.peer) (s.returned side)) :
    (s.setSender side pc).Inv side := by
  unfold Mailbox.Inv Mailbox.setSender
  simpa only [update_self] using h

lemma Mailbox.Inv.finishSend_peer (h : s.Inv side.peer) (ret : PutRet) (seen : Bool) :
    (s.finishSend side ret seen).Inv side.peer := by
  unfold Mailbox.Inv Mailbox.finishSend Mailbox.setSender at *
  simpa only [update_of_ne side.peer_ne] using h

lemma Mailbox.Inv.finishSend_self (h : s.Inv side) {seen : Bool}
    (hok : ret = .ok → seen = true) : (s.finishSend side ret seen).Inv side := by
  unfold Mailbox.Inv Mailbox.finishSend Mailbox.setSender at *
  simpa only [update_self] using SideInv.finishSend h ret seen hok

lemma Mailbox.Inv.write (h : s.Inv side) (w : Word) (hpend : ∀ isNotification msg delay,
      s.sender side ≠ .polling isNotification msg delay false) : (s.write w).Inv side :=
  SideInv.write h w hpend

lemma senderStep_inv (hinv : ∀ a, s.Inv a) (hfresh : WritesFresh s (.sender side))
    (h : senderStep s side = some s') : ∀ a, s'.Inv a := by
  rw [side.forall_iff]
  have hself := hinv side
  have hpeer := hinv side.peer
  unfold senderStep at h
  unfold WritesFresh Mailbox.basisVer at hfresh
  rcases hpc : s.sender side with _ | ⟨n, msg⟩ | ⟨n, msg, v⟩ | ⟨n, msg, delay, seen⟩ | ⟨ret, w, v, seen⟩
  · simp [hpc] at h
  · -- the first read
    simp only [hpc] at h
    split_ifs at h with hbusy
    · cases h
      exact ⟨hself.finishSend_self (by simp), hpeer.finishSend_peer _ _⟩
    · cases h
      refine ⟨Mailbox.Inv.setSender_self ?_, hpeer.setSender_peer _⟩
      have hmsg := hself.started n msg hpc
      refine ⟨by simp, ?_, by simp, by simp, hself.ack, hself.returned_ok⟩
      intro n' msg' v' heq
      obtain ⟨-, rfl, rfl⟩ := heq
      exact ⟨hmsg.wordOk, le_rfl, fun _ => by simpa using hbusy⟩
  · -- the claim
    simp only [hpc, reduceCtorEq, Option.some.injEq, false_or] at h hfresh
    subst h
    obtain ⟨hword, -, hfree⟩ := hself.claim n msg v hpc
    have hfree := hfree hfresh
    have hpeer' := hpeer.write (msg ||| side.intBit) (hpeer.not_pending (Or.inl hfree))
    have hself' := hself.write (msg ||| side.intBit) (by simp [hpc])
    refine ⟨Mailbox.Inv.setSender_self ?_, hpeer'.setSender_peer _⟩
    refine ⟨by simp, by simp, ?_, by simp, hself'.ack, hself'.returned_ok⟩
    intro n' msg' delay' heq
    obtain ⟨-, rfl, -, -⟩ := heq
    refine ⟨hword, rfl, ?_⟩
    intro p hp
    have hle := (hpeer.ack p hp).1
    simp only [Mailbox.write]
    omega
  · -- a polling read
    have hread : s.csr &&& side.intBit = 0 → seen = true := by
      intro hclear
      by_contra hseen
      obtain ⟨-, hcsr, -⟩ := hself.pending n msg delay (by simpa [hseen] using hpc)
      rw [hcsr] at hclear
      exact or_intBit_and_intBit_ne_zero side msg hclear
    simp only [hpc] at h
    split_ifs at h with hagain
    · cases h
      refine ⟨Mailbox.Inv.setSender_self ?_, hpeer.setSender_peer _⟩
      refine ⟨by simp, by simp, ?_, by simp, hself.ack, hself.returned_ok⟩
      intro n' msg' delay' heq
      obtain ⟨rfl, rfl, -, rfl⟩ := heq
      exact hself.pending n msg delay hpc
    · rcases hfin : putmsgFinish side n msg s.csr with ⟨ret, _ | w⟩
      · simp only [hfin] at h
        cases h
        refine ⟨hself.finishSend_self ?_, hpeer.finishSend_peer _ _⟩
        intro hok
        exact hread (putmsgFinish_ok (by rw [hfin]; exact hok))
      · simp only [hfin] at h
        cases h
        refine ⟨Mailbox.Inv.setSender_self ?_, hpeer.setSender_peer _⟩
        refine ⟨by simp, by simp, by simp, ?_, hself.ack, hself.returned_ok⟩
        intro ret' w' v' seen' heq
        obtain ⟨rfl, -, rfl, rfl⟩ := heq
        refine ⟨le_rfl, fun _ => inUse_of_putmsgFinish hfin, ?_⟩
        intro hok
        exact hread (putmsgFinish_ok (by rw [hfin]; exact hok))
  · -- the last write
    simp only [hpc, reduceCtorEq, Option.some.injEq, false_or] at h hfresh
    subst h
    obtain ⟨-, huse, hok⟩ := hself.clear ret w v seen hpc
    have huse := huse hfresh
    have hpeer' := hpeer.write w (hpeer.not_pending (Or.inr (Or.inl (by simpa using huse))))
    have hself' := hself.write w (by simp [hpc])
    exact ⟨hself'.finishSend_self hok, hpeer'.finishSend_peer _ _⟩

lemma intBit_of_handlerAck {a : Word}
    (h : (handlerAck pf s side kzallocOk w).1 = some a) : w &&& side.peer.intBit ≠ 0 := by
  intro hzero
  cases side with
  | pf =>
    have hw : w &&& Side.vf.intBit = 0 := hzero
    simp [handlerAck, adfVf2pfReqHndl, hw] at h
  | vf =>
    have hw : w &&& Side.pf.intBit = 0 := hzero
    simp [handlerAck, adfPf2vfBhHandler, hw] at h

lemma noteRead_eq_polling {n : Bool} {delay : ℕ} (h : pc.noteRead side w = .polling n msg delay false) :
    pc = .polling n msg delay false ∧ w ≠ msg ||| side.intBit := by
  unfold SenderPc.noteRead at h
  split at h
  · simp only [SenderPc.polling.injEq, Bool.or_eq_false_iff, decide_eq_false_iff_not] at h
    obtain ⟨rfl, rfl, rfl, rfl, hne⟩ := h
    exact ⟨rfl, hne⟩
  · rename_i hnot
    exact absurd h (hnot n msg delay false)

lemma noteRead_of_not_polling {pc' : SenderPc} (h : pc.noteRead side w = pc')
    (hpc' : ∀ n msg delay seen, pc' ≠ .polling n msg delay seen) : pc = pc' := by
  unfold SenderPc.noteRead at h
  split at h
  · exact absurd h.symm (hpc' _ _ _ _)
  · exact h

lemma handlerStep_inv (hinv : ∀ a, s.Inv a) (hfresh : WritesFresh s (.handler side kzallocOk)) :
    ∀ a, (handlerStep pf s side kzallocOk).Inv a := by
  rw [side.forall_iff]
  have hself := hinv side
  have hpeer := hinv side.peer
  unfold handlerStep
  unfold WritesFresh Mailbox.basisVer at hfresh
  rcases hh : s.handler side with _ | p
  · -- the read
    unfold Mailbox.Inv at *
    simp only [update_self, update_of_ne side.peer_ne, update_of_ne side.peer_ne.symm, Side.peer_peer] at *
    refine ⟨{ hself with ack := ?_ }, ?_⟩
    · intro p hp
      obtain ⟨a, ha, rfl⟩ := map_eq_some_iff.mp hp
      exact ⟨le_rfl, intBit_of_handlerAck ha, fun _ => rfl⟩
    · refine ⟨?_, ?_, ?_, ?_, hpeer.ack, hpeer.returned_ok⟩
      · intro n msg heq
        exact hpeer.started n msg (noteRead_of_not_polling heq (by simp))
      · intro n msg v heq
        exact hpeer.claim n msg v (noteRead_of_not_polling heq (by simp))
      · intro n msg delay heq
        obtain ⟨hpoll, hne⟩ := noteRead_eq_polling heq
        exact absurd (hpeer.pending n msg delay hpoll).2.1 hne
      · intro ret w v seen heq
        exact hpeer.clear ret w v seen (noteRead_of_not_polling heq (by simp))
  · -- the acknowledgement
    simp only [hh, map_some, reduceCtorEq, Option.some.injEq, false_or] at hfresh ⊢
    obtain ⟨-, hint, hread⟩ := hself.ack p hh
    rw [hread hfresh] at hint
    have hself' := SideInv.write hself p.ack (hself.not_pending (Or.inr (Or.inr (Or.inl hint))))
    have hpeer' := SideInv.write hpeer p.ack
      (hpeer.not_pending (Or.inr (Or.inr (Or.inr ⟨p, by simpa using hh, hfresh⟩))))
    unfold Mailbox.Inv Mailbox.write
    simp only [update_self, update_of_ne side.peer_ne, Side.peer_peer]
    exact ⟨hself'.of_handler_none, hpeer'.of_peer_none⟩

lemma mailboxStep_inv {e : MailboxEvent} (hinv : ∀ a, s.Inv a) (hfresh : WritesFresh s e)
    (h : mailboxStep pf s e = some s') : ∀ a, s'.Inv a := by
  cases e with
  | start side n msg =>
    simp only [mailboxStep] at h
    split_ifs at h with hstart
    cases h
    have hself := hinv side
    rw [side.forall_iff]
    refine ⟨.setSender_self ⟨?_, by simp, by simp, by simp, hself.ack, hself.returned_ok⟩, ?_⟩
    · intro n' msg' heq
      obtain ⟨-, rfl⟩ := heq
      exact hstart.2
    · exact (hinv side.peer).setSender_peer _
  | sender side => exact senderStep_inv hinv hfresh h
  | handler side kzallocOk =>
    cases h
    exact handlerStep_inv hinv hfresh

lemma Mailbox.Initial.inv (h : s.Initial) (a : Side) : s.Inv a := by
  unfold Mailbox.Inv
  rw [h.sender, h.handler, h.handler, h.returned]
  exact ⟨by simp, by simp, by simp, by simp, by simp, by simp⟩

/-- **Delivery**, in every run from an idle mailbox in which no party writes the register after another has
since that party's last read. -/
theorem putmsg_ok_seen (pf : PfDevice) (s s' : Mailbox) (es : List MailboxEvent) (hs : s.Initial)
    (hrun : Run (guarded WritesFresh (ofFun (mailboxStep pf))) s es s') : s'.Delivered := by
  have hinv : ∀ a, s'.Inv a :=
    hrun.invariant (I := fun s => ∀ a, s.Inv a) (fun _ _ _ hI hstep => mailboxStep_inv hI hstep.1 hstep.2) hs.inv
  intro side seen hret
  exact (hinv side).returned_ok seen hret

end Run

/-! ## A collision -/

def freeMailbox : Mailbox where
  csr := 0
  ver := 0
  sender _ := .idle
  handler _ := none
  vfInfo := { init := true, compatVer := 3 }
  vf :=
    { pfRunning := true, pfVersion := 3, compatible := 1, pf2vfBlockByte := 0
      pf2vfBlockRespType := 0, iovMsgCompletion := 0 }
  returned _ := none

lemma freeMailbox_initial : freeMailbox.Initial := ⟨fun _ => rfl, fun _ => rfl, fun _ => rfl⟩

/-- The VF asks for a byte of a block (`0x0CA60000`), the PF's handler reads the request and
acknowledges it, and the VF polls. -/
def quietSend : List MailboxEvent :=
  [.start .vf false 0x0CA60000#32, .sender .vf, .sender .vf, .handler .pf true, .handler .pf true, .sender .vf]

/-- A run with fresh writes in which a send returns `0`, and it has been read. -/
theorem quietSend_delivered :
    ∃ s', Run (guarded WritesFresh (ofFun (mailboxStep capabilitiesPf))) freeMailbox quietSend s' ∧
      s'.returned .vf = some (.ok, true) ∧ s'.Delivered := by
  have hexec : (exec (guardFun WritesFresh (mailboxStep capabilitiesPf)) freeMailbox
      quietSend).map (fun s => s.returned .vf) = some (some (.ok, true)) := by
    decide
  obtain ⟨s', hs', hret⟩ := map_eq_some_iff.mp hexec
  have hrun := exec_guardFun_run hs'
  exact ⟨s', hrun, hret, putmsg_ok_seen capabilitiesPf _ _ _ freeMailbox_initial hrun⟩

/-- The VF asks for a byte of a block while the PF announces a restart. Both find the register free, and the PF
writes over the VF's request. -/
def collidingSends : List MailboxEvent :=
  [.start .vf false 0x0CA60000#32, .start .pf true 0x00000006#32, .sender .vf, .sender .pf,
    .sender .vf, .sender .pf, .sender .vf]

/-- After `collidingSends` the VF's send has returned `0`, and no handler has run. -/
theorem colliding_send_reports_success : freeMailbox.Initial ∧
      ∃ s', Run (ofFun (mailboxStep capabilitiesPf)) freeMailbox collidingSends s' ∧ ¬ s'.Delivered := by
  have hexec : (exec (mailboxStep capabilitiesPf) freeMailbox collidingSends).map
      (fun s => s.returned .vf) = some (some (.ok, false)) := by
    decide
  obtain ⟨s', hs', hret⟩ := map_eq_some_iff.mp hexec
  refine ⟨freeMailbox_initial, s', exec_run hs', ?_⟩
  intro hdel
  exact absurd (hdel .vf false hret) (by simp)

end QuickAssist.PfVf
