import QuickAssist.Lib.Run
import QuickAssist.Transport.Ring

/-!
# A request ring and its response ring

Two kernel rings share one counter, `inflights`: `adf_send_message` on the request ring raises it and
`adf_handle_response` on the response ring lowers it. This file runs such a pair in every interleaving of

* senders, which raise the counter and compare it with the limit before they take the ring's lock, so that any number
  of them may stand between the two, or between a failed comparison and taking their increment back;
* the device, which takes requests and writes responses, each at the next slot;
* one call of the response handler at a time, stopped between any two of its accesses to shared data. In particular
  the counter is lowered *before* the slot is cleared.

**The defect.** The limit is one less than the number of slots of the *request* ring; the response ring is never looked
at. The two rings are sized from the same number of messages, but from `2 ^ 25` messages on the product that selects
the size of a ring may wrap for the requests and not for the responses (`ringPair_safe_iff`).
-/

namespace QuickAssist.Transport

open Lib Function List Option Nat

variable {n m devHead devTail n' k : ℕ} {tx rx : EtrRing}
  {requests taken pending responses delivered handled waiting : List Msg} {handler : HandlerPc} {p p' : RingPair}

/-! ## States -/

/-- Where a call of `adf_handle_response` stands, with its `msg_counter` and `quota`. -/
inductive HandlerPc
  | idle
  | test (msgCounter quota : ℕ)
  | callback (msgCounter quota : ℕ)
  | dec (msgCounter quota : ℕ)
  | clear (msgCounter quota : ℕ)
  deriving DecidableEq

structure RingPair where
  tx : EtrRing
  rx : EtrRing
  inflights : ℤ
  /-- The messages of the senders that have passed the comparison and wait for the lock. -/
  reserved : List Msg
  /-- The number of senders that have failed the comparison and not yet taken back their
  increment. -/
  refused : ℕ
  handler : HandlerPc
  devHead : ℕ
  devTail : ℕ
  processing : ℕ
  requests : List Msg
  taken : List Msg
  responses : List Msg
  delivered : List Msg

/-- The pair made for a message size of requests and a number of messages. Source: the calls of
`adf_create_ring` in `qat_crypto_create_instances`, and `adf_init_bank`. -/
def createPair (msgSize numMsgs : ℕ) : Option RingPair :=
  (adfCreateRing numMsgs msgSize).bind fun tx =>
    (adfCreateRing numMsgs 32).map fun rx =>
      { tx := tx
        rx := rx
        inflights := 0
        reserved := []
        refused := 0
        handler := .idle
        devHead := 0
        devTail := 0
        processing := 0
        requests := []
        taken := []
        responses := []
        delivered := [] }

/-! ## Steps -/

inductive PairEvent
  /-- `adf_send_message` adds to the counter and compares. -/
  | sendReserve (msg : Msg)
  /-- `adf_send_message` takes its increment back and returns `-EAGAIN`. -/
  | sendRefuse
  /-- The `i`-th waiting sender gets the lock, copies its message and moves the tail. -/
  | sendWrite (i : ℕ)
  | deviceTake
  | deviceWrite (resp : Msg)
  | handleBegin (quota : ℕ)
  | handleTest
  | handleCallback
  | handleDec
  | handleClear

def noResponseQuota : ℕ := 0xFFFFFFFF

/-- One step of `adf_send_message`, of `adf_handle_response` or of the device, which finds the request ring
empty when its head is at the tail register. -/
def pairStep (p : RingPair) : PairEvent → Option RingPair
  | .sendReserve msg =>
    if p.inflights + 1 > p.tx.maxInflights then
      some { p with inflights := p.inflights + 1, refused := p.refused + 1 }
    else some { p with inflights := p.inflights + 1, reserved := p.reserved ++ [msg] }
  | .sendRefuse =>
    if p.refused = 0 then none
    else some { p with inflights := p.inflights - 1, refused := p.refused - 1 }
  | .sendWrite i =>
    p.reserved[i]?.map fun msg =>
      { p with
        tx :=
          { p.tx with
            mem := update p.tx.mem p.tx.tail msg
            tail := p.tx.advance p.tx.tail
            csrTail := p.tx.advance p.tx.tail }
        reserved := p.reserved.eraseIdx i
        requests := p.requests ++ [msg] }
  | .deviceTake =>
    if p.devHead = p.tx.csrTail then none
    else
      some { p with
        taken := p.taken ++ [p.tx.mem p.devHead]
        devHead := p.tx.advance p.devHead
        processing := p.processing + 1 }
  | .deviceWrite resp =>
    if p.processing = 0 ∨ resp.word0 = ringEmptySig then none
    else
      some { p with
        rx := { p.rx with mem := update p.rx.mem p.devTail resp }
        devTail := p.rx.advance p.devTail
        processing := p.processing - 1
        responses := p.responses ++ [resp] }
  | .handleBegin quota =>
    if p.handler = .idle then
      some { p with handler := .test 0 (if quota = 0 then noResponseQuota else quota) }
    else none
  | .handleTest =>
    match p.handler with
    | .test msgCounter quota =>
      if (p.rx.mem p.rx.head).word0 ≠ ringEmptySig ∧ msgCounter < quota then
        some { p with handler := .callback msgCounter quota }
      else if 0 < msgCounter then
        some { p with handler := .idle, rx := { p.rx with csrHead := p.rx.head } }
      else some { p with handler := .idle }
    | _ => none
  | .handleCallback =>
    match p.handler with
    | .callback msgCounter quota =>
      some { p with handler := .dec msgCounter quota, delivered := p.delivered ++ [p.rx.mem p.rx.head] }
    | _ => none
  | .handleDec =>
    match p.handler with
    | .dec msgCounter quota => some { p with handler := .clear msgCounter quota, inflights := p.inflights - 1 }
    | _ => none
  | .handleClear =>
    match p.handler with
    | .clear msgCounter quota =>
      some { p with
        handler := .test (msgCounter + 1) quota
        rx :=
          { p.rx with mem := update p.rx.mem p.rx.head (p.rx.mem p.rx.head).clear, head := p.rx.advance p.rx.head } }
    | _ => none

/-! ## What the counter is to guarantee -/

/-- The messages `seen` on a ring are the first of those `written` to it, and each of the others
still stands in its slot. -/
structure Intact (ring : EtrRing) (written seen : List Msg) : Prop where
  isPrefix : seen <+: written
  /-- The `k`-th message is in the `k`-th slot, counted around the ring, until it is seen. -/
  slot : ∀ k (h : k < written.length), seen.length ≤ k →
    ring.mem (k * msgSizeToBytes ring.msgSize % 2 ^ ringSizeModulo ring.ringSize) = written[k]

structure RingPair.Safe (p : RingPair) : Prop where
  requests : Intact p.tx p.requests p.taken
  /-- The responses are delivered once and in order, and none is overwritten before. -/
  responses : Intact p.rx p.responses p.delivered
  cleared : 0 < p.processing → (p.rx.mem p.devTail).word0 = ringEmptySig
  drained : ∀ msgCounter quota, p.handler = .test msgCounter quota →
    (p.rx.mem p.rx.head).word0 = ringEmptySig → p.delivered = p.responses

/-! ## The request ring -/

/-- What holds of a request ring of `n` slots of `m` bytes whose last `pending` requests the device
has not taken. -/
structure TxInv (n m : ℕ) (tx : EtrRing) (devHead : ℕ) (requests taken pending : List Msg) : Prop where
  sized : tx.Sized n m
  max : tx.maxInflights = n - 1
  log : requests = taken ++ pending
  devHead : devHead = taken.length % n * m
  tail : tx.tail = requests.length % n * m
  csrTail : tx.csrTail = tx.tail
  carries : Carries n (slots m tx.mem) taken.length pending

namespace TxInv

section

variable (h : TxInv n m tx devHead requests taken pending)

include h

lemma tail_eq : tx.tail = (taken.length + pending.length) % n * m := by
  rw [h.tail, h.log, length_append]

lemma intact : Intact tx requests taken where
  isPrefix := ⟨pending, h.log.symm⟩
  slot k hk hle := by
    have hlen : k < taken.length + pending.length := by
      rw [h.log, length_append] at hk
      exact hk
    have hslot := h.carries.slot (k - taken.length) (by omega)
    rw [slots, Nat.add_sub_cancel' hle] at hslot
    rw [h.sized.bytes, h.sized.ringSize, mul_mod_mul_right, hslot]
    simp only [h.log, getElem_append_right hle]

lemma write (hfree : pending.length < n) (msg : Msg) : TxInv n m { tx with
        mem := update tx.mem tx.tail msg
        tail := tx.advance tx.tail
        csrTail := tx.advance tx.tail }
      devHead (requests ++ [msg]) taken (pending ++ [msg]) where
  sized := { h.sized with }
  max := h.max
  log := by rw [h.log, append_assoc]
  devHead := h.devHead
  tail := by
    simp [h.tail, h.sized.advance]
  csrTail := rfl
  carries := by
    have hpush := h.carries.push hfree msg
    simp only [h.tail_eq]
    rwa [slots_update h.sized.pos]

lemma take (hne : devHead ≠ tx.csrTail) : ∃ msg rest, pending = msg :: rest ∧ tx.mem devHead = msg ∧
      TxInv n m tx (tx.advance devHead) requests (taken ++ [msg]) rest := by
  rcases pending with _ | ⟨msg, rest⟩
  · -- the device would have found the ring empty
    refine absurd ?_ hne
    rw [h.csrTail, h.tail_eq, h.devHead, length_nil, Nat.add_zero]
  · obtain ⟨hfront, hcarries⟩ := h.carries.pop
    refine ⟨msg, rest, rfl, ?_, ⟨h.sized, h.max, ?_, ?_, h.tail, h.csrTail, ?_⟩⟩
    · rw [h.devHead]
      exact hfront
    · rw [h.log, append_assoc]
      rfl
    · rw [h.devHead, h.sized.advance, length_append, length_singleton]
    · rw [length_append]
      exact hcarries

end

end TxInv

/-! ## The response ring -/

/-- What the handler has delivered, given what it has `handled` and cleared and what is `waiting`
in the ring. -/
def HandlerPc.Agrees (handled waiting delivered : List Msg) : HandlerPc → Prop
  | .idle => delivered = handled
  | .test _ _ => delivered = handled
  | .callback _ _ => delivered = handled ∧ waiting ≠ []
  | .dec _ _ => ∃ msg rest, waiting = msg :: rest ∧ delivered = handled ++ [msg]
  | .clear _ _ => ∃ msg rest, waiting = msg :: rest ∧ delivered = handled ++ [msg]

/-- What holds of a response ring of `n` slots. -/
structure RxInv (n : ℕ) (rx : EtrRing) (devTail : ℕ) (responses delivered : List Msg)
    (handler : HandlerPc) (handled waiting : List Msg) : Prop where
  sized : rx.Sized n 32
  log : responses = handled ++ waiting
  head : rx.head = handled.length % n * 32
  devTail : devTail = responses.length % n * 32
  /-- The waiting responses are in their slots, and all other slots are empty. -/
  holds : Holds n (Msg.read ∘ slots 32 rx.mem) handled.length waiting
  agrees : handler.Agrees handled waiting delivered

namespace RxInv

section

variable (h : RxInv n rx devTail responses delivered handler handled waiting)

include h

lemma read_head (hn : 0 < n) : (rx.mem rx.head).read = waiting.head? := by
  rw [h.head]
  exact h.holds.front hn

lemma cleared (hfree : waiting.length < n) : (rx.mem devTail).word0 = ringEmptySig := by
  have hslot := h.holds.free_slot hfree
  rw [Function.comp, slots, ← length_append, ← h.log, ← h.devTail] at hslot
  by_contra hne
  rw [Msg.read_of_ne hne] at hslot
  cases hslot

lemma delivered_eq : ∃ next rest, waiting = next ++ rest ∧ delivered = handled ++ next := by
  have hagrees := h.agrees
  cases handler with
  | idle | test c q => exact ⟨[], waiting, rfl, hagrees.trans (append_nil _).symm⟩
  | callback c q => exact ⟨[], waiting, rfl, hagrees.1.trans (append_nil _).symm⟩
  | dec c q | clear c q =>
    obtain ⟨msg, rest, hwaiting, hdelivered⟩ := hagrees
    exact ⟨[msg], rest, hwaiting, hdelivered⟩

lemma intact : Intact rx responses delivered where
  isPrefix := by
    obtain ⟨next, rest, hwaiting, hdelivered⟩ := h.delivered_eq
    refine ⟨rest, ?_⟩
    rw [hdelivered, h.log, hwaiting, append_assoc]
  slot k hk hle := by
    obtain ⟨next, rest, hwaiting, hdelivered⟩ := h.delivered_eq
    have hhandled : handled.length ≤ k := by
      rw [hdelivered, length_append] at hle
      omega
    have hlen : k - handled.length < waiting.length := by
      rw [h.log, length_append] at hk
      omega
    have hslot := h.holds.slot (k - handled.length) (lt_of_lt_of_le hlen h.holds.length_le)
    rw [Nat.add_sub_cancel' hhandled, List.getElem?_eq_getElem hlen] at hslot
    rw [h.sized.bytes, h.sized.ringSize, mul_mod_mul_right]
    have hread := Msg.eq_of_read hslot
    rw [slots] at hread
    simp only [hread, h.log, getElem_append_right hhandled]

end

lemma drained {c q : ℕ} (h : RxInv n rx devTail responses delivered (.test c q) handled waiting)
    (hn : 0 < n) (hempty : (rx.mem rx.head).word0 = ringEmptySig) : delivered = responses := by
  have hhead := h.read_head hn
  rw [Msg.read, if_pos hempty] at hhead
  have hwaiting : waiting = [] := List.head?_eq_none_iff.mp hhead.symm
  have hdelivered : delivered = handled := h.agrees
  rw [hdelivered, h.log, hwaiting, append_nil]

lemma write (h : RxInv n rx devTail responses delivered handler handled waiting)
    (hfree : waiting.length < n) {resp : Msg} (hresp : resp.word0 ≠ ringEmptySig) :
    RxInv n { rx with mem := update rx.mem devTail resp } (rx.advance devTail)
      (responses ++ [resp]) delivered handler handled (waiting ++ [resp]) where
  sized := { h.sized with }
  log := by rw [h.log, append_assoc]
  head := h.head
  devTail := by rw [h.devTail, h.sized.advance, length_append, length_singleton]
  holds := by
    have hpush := h.holds.push hfree resp
    rw [← length_append, ← h.log] at hpush
    simp only [h.devTail]
    rw [slots_update (by decide), comp_update, Msg.read_of_ne hresp]
    exact hpush
  agrees := by
    have hagrees := h.agrees
    cases handler with
    | idle | test c q => exact hagrees
    | callback c q => exact ⟨hagrees.1, by simp⟩
    | dec c q | clear c q =>
      obtain ⟨msg, rest, rfl, hdelivered⟩ := hagrees
      exact ⟨msg, rest ++ [resp], rfl, hdelivered⟩

lemma deliver {c q : ℕ} (h : RxInv n rx devTail responses delivered (.callback c q) handled waiting) (hn : 0 < n) :
    RxInv n rx devTail responses (delivered ++ [rx.mem rx.head]) (.dec c q) handled waiting := by
  obtain ⟨hdelivered, hne⟩ := h.agrees
  obtain ⟨msg, rest, rfl⟩ := exists_cons_of_ne_nil hne
  refine ⟨h.sized, h.log, h.head, h.devTail, h.holds, msg, rest, rfl, ?_⟩
  rw [Msg.eq_of_read (h.read_head hn), hdelivered]

lemma clear {c q : ℕ} (h : RxInv n rx devTail responses delivered (.clear c q) handled waiting) :
    ∃ msg rest, waiting = msg :: rest ∧ RxInv n
        { rx with mem := update rx.mem rx.head (rx.mem rx.head).clear, head := rx.advance rx.head }
        devTail responses delivered (.test (c + 1) q) (handled ++ [msg]) rest := by
  obtain ⟨msg, rest, rfl, hdelivered⟩ := h.agrees
  refine ⟨msg, rest, rfl, ⟨{ h.sized with }, ?_, ?_, h.devTail, ?_, hdelivered⟩⟩
  · rw [h.log, append_assoc]
    rfl
  · simp [h.head, h.sized.advance]
  · have hpop := h.holds.pop
    simp only [h.head]
    rw [slots_update (by decide), comp_update, length_append]
    exact hpop

end RxInv

/-! ## The pair -/

def HandlerPc.uncounted : HandlerPc → ℕ
  | .clear _ _ => 1
  | _ => 0

/-- What holds of a pair with `n` request slots of `m` bytes and `n'` response slots; the response that the
handler is about to clear is not counted. -/
structure PairInv (n m n' : ℕ) (p : RingPair) (pending handled waiting : List Msg) : Prop where
  tx : TxInv n m p.tx p.devHead p.requests p.taken pending
  rx : RxInv n' p.rx p.devTail p.responses p.delivered p.handler handled waiting
  count : p.inflights + p.handler.uncounted =
    p.reserved.length + p.refused + pending.length + p.processing + waiting.length
  le : p.reserved.length + pending.length + p.processing + waiting.length ≤ n - 1 + p.handler.uncounted

namespace PairInv

section

variable (h : PairInv n m n' p pending handled waiting)

include h

lemma uncounted_le : p.handler.uncounted ≤ 1 ∧ p.handler.uncounted ≤ waiting.length := by
  have hagrees := h.rx.agrees
  rcases hpc : p.handler with _ | _ | _ | _ | ⟨c, q⟩
  case clear =>
    rw [hpc] at hagrees
    obtain ⟨msg, rest, rfl, -⟩ := hagrees
    exact ⟨le_rfl, by simp [HandlerPc.uncounted]⟩
  all_goals exact ⟨Nat.zero_le _, Nat.zero_le _⟩

lemma pending_lt (hn : 0 < n) (hreserved : 0 < p.reserved.length) : pending.length < n := by
  have hle := h.le
  have huncounted := h.uncounted_le
  omega

lemma waiting_lt (hn : 0 < n) (hle : n ≤ n') (hprocessing : 0 < p.processing) : waiting.length < n' := by
  have hlimit := h.le
  have huncounted := h.uncounted_le
  omega

lemma safe (hn : 0 < n) (hle : n ≤ n') : p.Safe where
  requests := h.tx.intact
  responses := h.rx.intact
  cleared hprocessing := h.rx.cleared (h.waiting_lt hn hle hprocessing)
  drained c q hpc hempty := by
    have hrx := h.rx
    rw [hpc] at hrx
    exact hrx.drained (by omega) hempty

/-! ## Steps keep the invariant -/

lemma sendReserve {msg : Msg}
    (hstep : pairStep p (.sendReserve msg) = some p') : PairInv n m n' p' pending handled waiting := by
  have hcount := h.count
  have hle := h.le
  have hmax := h.tx.max
  simp only [pairStep] at hstep
  split_ifs at hstep with hfull <;> cases hstep
  · refine ⟨h.tx, h.rx, ?_, hle⟩
    push_cast
    omega
  · refine ⟨h.tx, h.rx, ?_, ?_⟩
    all_goals
      simp only [length_append, length_singleton]
      omega

lemma sendRefuse (hstep : pairStep p .sendRefuse = some p') : PairInv n m n' p' pending handled waiting := by
  have hcount := h.count
  simp only [pairStep] at hstep
  split_ifs at hstep with hzero
  cases hstep
  refine ⟨h.tx, h.rx, ?_, h.le⟩
  simp only
  omega

lemma sendWrite (hn : 0 < n) {i : ℕ}
    (hstep : pairStep p (.sendWrite i) = some p') : ∃ msg, PairInv n m n' p' (pending ++ [msg]) handled waiting := by
  have hcount := h.count
  have hle := h.le
  simp only [pairStep, map_eq_some_iff] at hstep
  obtain ⟨msg, hmsg, rfl⟩ := hstep
  obtain ⟨hi, -⟩ := List.getElem?_eq_some_iff.mp hmsg
  have hfree := h.pending_lt hn (by omega)
  refine ⟨msg, h.tx.write hfree msg, h.rx, ?_, ?_⟩
  all_goals
    simp only [length_append, length_singleton, length_eraseIdx_of_lt hi]
    omega

lemma deviceTake (hstep : pairStep p .deviceTake = some p') :
    ∃ msg rest, pending = msg :: rest ∧ PairInv n m n' p' rest handled waiting := by
  have hcount := h.count
  have hle := h.le
  simp only [pairStep] at hstep
  split_ifs at hstep with hempty
  cases hstep
  obtain ⟨msg, rest, rfl, hread, htx⟩ := h.tx.take hempty
  rw [length_cons] at hcount hle
  refine ⟨msg, rest, rfl, ?_, h.rx, ?_, ?_⟩
  · simp only [hread]
    exact htx
  all_goals
    simp only
    omega

lemma deviceWrite
    (hroom : 0 < p.processing → waiting.length < n') {resp : Msg} (hstep : pairStep p (.deviceWrite resp) = some p') :
    PairInv n m n' p' pending handled (waiting ++ [resp]) := by
  have hcount := h.count
  have hle := h.le
  simp only [pairStep] at hstep
  split_ifs at hstep with hno
  cases hstep
  obtain ⟨hprocessing, hresp⟩ := not_or.mp hno
  have hfree := hroom (Nat.pos_of_ne_zero hprocessing)
  refine ⟨h.tx, h.rx.write hfree hresp, ?_, ?_⟩
  all_goals
    simp only [length_append, length_singleton]
    omega

lemma handleTest (hn' : 0 < n')
    (hstep : pairStep p .handleTest = some p') : PairInv n m n' p' pending handled waiting := by
  rcases hpc : p.handler with _ | ⟨c, q⟩ | _ | _ | _ <;>
    simp only [pairStep, hpc, reduceCtorEq] at hstep
  obtain ⟨htx, hrx, hcount, hle⟩ := h
  rw [hpc] at hrx hcount hle
  split_ifs at hstep with hmsg hany <;> cases hstep
  · have hne : waiting ≠ [] := by
      intro hnil
      have hhead := hrx.read_head hn'
      rw [Msg.read_of_ne hmsg.1, hnil] at hhead
      cases hhead
    exact ⟨htx, { hrx with agrees := ⟨hrx.agrees, hne⟩ }, hcount, hle⟩
  · exact ⟨htx, { hrx with sized := { hrx.sized with } }, hcount, hle⟩
  · exact ⟨htx, { hrx with agrees := hrx.agrees }, hcount, hle⟩

lemma handleCallback (hn' : 0 < n')
    (hstep : pairStep p .handleCallback = some p') : PairInv n m n' p' pending handled waiting := by
  rcases hpc : p.handler with _ | _ | ⟨c, q⟩ | _ | _ <;>
    simp only [pairStep, hpc, reduceCtorEq] at hstep
  cases hstep
  obtain ⟨htx, hrx, hcount, hle⟩ := h
  rw [hpc] at hrx hcount hle
  exact ⟨htx, hrx.deliver hn', hcount, hle⟩

lemma handleDec (hstep : pairStep p .handleDec = some p') : PairInv n m n' p' pending handled waiting := by
  rcases hpc : p.handler with _ | _ | _ | ⟨c, q⟩ | _ <;>
    simp only [pairStep, hpc, reduceCtorEq] at hstep
  cases hstep
  obtain ⟨htx, hrx, hcount, hle⟩ := h
  rw [hpc] at hrx hcount hle
  refine ⟨htx, { hrx with agrees := hrx.agrees }, ?_, ?_⟩
  · simp only [HandlerPc.uncounted] at hcount ⊢
    omega
  · simp only [HandlerPc.uncounted] at hle ⊢
    omega

lemma handleClear (hstep : pairStep p .handleClear = some p') :
    ∃ handled' waiting', PairInv n m n' p' pending handled' waiting' := by
  rcases hpc : p.handler with _ | _ | _ | _ | ⟨c, q⟩ <;>
    simp only [pairStep, hpc, reduceCtorEq] at hstep
  cases hstep
  obtain ⟨htx, hrx, hcount, hle⟩ := h
  rw [hpc] at hrx hcount hle
  obtain ⟨msg, rest, rfl, hclear⟩ := hrx.clear
  rw [length_cons] at hcount hle
  refine ⟨handled ++ [msg], rest, htx, hclear, ?_, ?_⟩
  · simp only [HandlerPc.uncounted] at hcount ⊢
    omega
  · simp only [HandlerPc.uncounted] at hle ⊢
    omega

end

end PairInv

lemma pairStep_inv {n m n' : ℕ} {p' : RingPair} {e : PairEvent} (hn : 0 < n) (hnn' : n ≤ n')
    (h : ∃ pending handled waiting, PairInv n m n' p pending handled waiting) (hstep : pairStep p e = some p') :
    ∃ pending handled waiting, PairInv n m n' p' pending handled waiting := by
  obtain ⟨pending, handled, waiting, h⟩ := h
  have hn' : 0 < n' := lt_of_lt_of_le hn hnn'
  cases e with
  | sendReserve msg => exact ⟨pending, handled, waiting, h.sendReserve hstep⟩
  | sendRefuse => exact ⟨pending, handled, waiting, h.sendRefuse hstep⟩
  | sendWrite i =>
    obtain ⟨msg, h'⟩ := h.sendWrite hn hstep
    exact ⟨pending ++ [msg], handled, waiting, h'⟩
  | deviceTake =>
    obtain ⟨msg, rest, -, h'⟩ := h.deviceTake hstep
    exact ⟨rest, handled, waiting, h'⟩
  | deviceWrite resp => exact ⟨pending, handled, waiting ++ [resp], h.deviceWrite (h.waiting_lt hn hnn') hstep⟩
  | handleBegin quota =>
    obtain ⟨hidle, hsome⟩ := ite_none_right_eq_some.mp hstep
    cases hsome
    obtain ⟨htx, hrx, hcount, hle⟩ := h
    rw [hidle] at hrx hcount hle
    exact ⟨pending, handled, waiting, htx, { hrx with agrees := hrx.agrees }, hcount, hle⟩
  | handleTest => exact ⟨pending, handled, waiting, h.handleTest hn' hstep⟩
  | handleCallback => exact ⟨pending, handled, waiting, h.handleCallback hn' hstep⟩
  | handleDec => exact ⟨pending, handled, waiting, h.handleDec hstep⟩
  | handleClear =>
    obtain ⟨handled', waiting', h'⟩ := h.handleClear hstep
    exact ⟨pending, handled', waiting', h'⟩

/-! ## A response ring that is too small -/

/-- The device has taken `k` requests, and nothing else is on its way. -/
structure Taken (n m n' k : ℕ) (p : RingPair) : Prop where
  inv : PairInv n m n' p [] [] []
  reserved : p.reserved = []
  refused : p.refused = 0
  idle : p.handler = .idle
  processing : p.processing = k

lemma createPair_spec {m num : ℕ} (hm : IsMsgBytes m) (h : createPair m num = some p) :
    3 ≤ numSlots (adfVerifyRingSize m num) m ∧ 3 ≤ numSlots (adfVerifyRingSize 32 num) 32 ∧
      Taken (numSlots (adfVerifyRingSize m num) m) m (numSlots (adfVerifyRingSize 32 num) 32) 0 p := by
  simp only [createPair, bind_eq_some_iff, map_eq_some_iff] at h
  obtain ⟨tx, htx, rx, hrx, rfl⟩ := h
  obtain ⟨htxSized, hmax, hslots, -, htail, hcsr, -⟩ := adfCreateRing_spec hm htx
  obtain ⟨hrxSized, -, hslots', hhead, -, -, hempty⟩ := adfCreateRing_spec (Or.inl rfl) hrx
  refine ⟨hslots, hslots', ⟨⟨htxSized, hmax, rfl, ?_, ?_, hcsr.trans htail.symm, Carries.nil _ _⟩,
    ⟨hrxSized, rfl, ?_, ?_, Holds.nil (fun i => hempty _) _, rfl⟩, rfl, Nat.zero_le _⟩, rfl, rfl, rfl, rfl⟩
  · rw [length_nil, zero_mod, Nat.zero_mul]
  · rw [htail, length_nil, zero_mod, Nat.zero_mul]
  · rw [hhead, length_nil, zero_mod]
  · rw [length_nil, zero_mod]

lemma Taken.take (h : Taken n m n' k p) (hn : 2 ≤ n) (hlt : k < n - 1) (msg : Msg) :
    ∃ es p', Run (ofFun pairStep) p es p' ∧ Taken n m n' (k + 1) p' := by
  have hroom : ¬ p.inflights + 1 > p.tx.maxInflights := by
    have hcount := h.inv.count
    have hmax := h.inv.tx.max
    simp only [h.reserved, h.refused, h.idle, h.processing, HandlerPc.uncounted, length_nil] at hcount
    omega
  have hreserve : pairStep p (.sendReserve msg) =
      some { p with inflights := p.inflights + 1, reserved := [msg] } := by
    rw [pairStep, if_neg hroom, h.reserved, nil_append]
  obtain ⟨p₂, hwrite, hreserved, hrefused, hidle, hprocessing⟩ :
      ∃ p₂, pairStep { p with inflights := p.inflights + 1, reserved := [msg] } (.sendWrite 0) = some p₂ ∧
        p₂.reserved = [] ∧ p₂.refused = 0 ∧ p₂.handler = .idle ∧ p₂.processing = k :=
    ⟨_, rfl, rfl, h.refused, h.idle, h.processing⟩
  obtain ⟨msg₂, hinv₂⟩ := (h.inv.sendReserve hreserve).sendWrite (by omega) hwrite
  have hne : p₂.devHead ≠ p₂.tx.csrTail := by
    have hslot := Carries.head_ne_tail (n := n) p₂.taken.length (q := [msg₂]) (by simp; omega) (by simp)
    rw [hinv₂.tx.devHead, hinv₂.tx.csrTail, hinv₂.tx.tail_eq]
    intro heq
    exact hslot (eq_of_mul_eq_mul_right hinv₂.tx.sized.pos heq.symm)
  have htake : pairStep p₂ .deviceTake = some _ := if_neg hne
  obtain ⟨_, rest, hpending, hinv₃⟩ := hinv₂.deviceTake htake
  obtain rfl : rest = [] := (List.cons.inj hpending).2.symm
  exact ⟨_, _, Run.cons hreserve (Run.cons hwrite (Run.single htake)), hinv₃, hreserved, hrefused, hidle,
    congrArg (· + 1) hprocessing⟩

lemma Taken.takes (h : Taken n m n' 0 p) (hn : 2 ≤ n) (msg : Msg) (k : ℕ) (hk : k ≤ n - 1) :
    ∃ es p', Run (ofFun pairStep) p es p' ∧ Taken n m n' k p' := by
  induction k with
  | zero => exact ⟨[], p, Run.nil p, h⟩
  | succ k ih =>
    obtain ⟨es, p₁, hrun₁, h₁⟩ := ih (by omega)
    obtain ⟨fs, p₂, hrun₂, h₂⟩ := h₁.take hn (by omega) msg
    exact ⟨es ++ fs, p₂, hrun₁.append hrun₂, h₂⟩

lemma exists_run_writes (h : PairInv n m n' p [] [] []) {r : Msg}
    (hr : r.word0 ≠ ringEmptySig) (k : ℕ) (hk : k ≤ n') (hprocessing : k ≤ p.processing) :
    ∃ es p', Run (ofFun pairStep) p es p' ∧ PairInv n m n' p' [] [] (List.replicate k r) ∧
      p'.delivered = p.delivered ∧ p'.processing = p.processing - k := by
  induction k with
  | zero => exact ⟨[], p, Run.nil p, h, rfl, rfl⟩
  | succ k ih =>
    obtain ⟨es, p₁, hrun, hinv, hdelivered, hleft⟩ := ih (by omega) (by omega)
    have hmay : ¬ (p₁.processing = 0 ∨ r.word0 = ringEmptySig) := by
      rintro (hzero | hsig)
      · omega
      · exact hr hsig
    obtain ⟨p₂, hstep, hdelivered₂, hleft₂⟩ :
        ∃ p₂, pairStep p₁ (.deviceWrite r) = some p₂ ∧ p₂.delivered = p₁.delivered ∧
          p₂.processing = p₁.processing - 1 :=
      ⟨_, if_neg hmay, rfl, rfl⟩
    have hinv₂ := hinv.deviceWrite (fun _ => by rw [length_replicate]; omega) hstep
    rw [← replicate_succ'] at hinv₂
    exact ⟨_, p₂, hrun.append (Run.single hstep), hinv₂, hdelivered₂.trans hdelivered, by omega⟩

/-- If the limit admits more requests than there are response slots, the device can overwrite the
first response before the handler has seen it. -/
lemma Taken.overrun (h : Taken n m n' 0 p) (hn : 2 ≤ n) (hn' : 0 < n') (hlt : n' < n - 1) (r r' : Msg)
    (hr : r.word0 ≠ ringEmptySig) (hr' : r'.word0 ≠ ringEmptySig) :
    ∃ es p', Run (ofFun pairStep) p es p' ∧ p'.delivered = [] ∧ p'.responses[0]? = some r ∧
      p'.rx.head = 0 ∧ p'.rx.mem 0 = r' := by
  obtain ⟨es, p₁, hrun₁, h₁⟩ := h.takes hn r (n' + 1) (by omega)
  have hprocessing₁ := h₁.processing
  obtain ⟨fs, p₂, hrun₂, hinv₂, hdelivered₂, hprocessing₂⟩ := exists_run_writes h₁.inv hr n' le_rfl (by omega)
  have hdelivered₁ : p₁.delivered = [] := by
    have hagrees := h₁.inv.rx.agrees
    rw [h₁.idle] at hagrees
    exact hagrees
  have hmay : ¬ (p₂.processing = 0 ∨ r'.word0 = ringEmptySig) := by
    rintro (hzero | hsig)
    · omega
    · exact hr' hsig
  -- the device is back at the first slot
  have hdevTail : p₂.devTail = 0 := by
    rw [hinv₂.rx.devTail, hinv₂.rx.log, nil_append, length_replicate, mod_self]
  have hhead : p₂.rx.head = 0 := by
    rw [hinv₂.rx.head, length_nil, zero_mod]
  obtain ⟨p₃, hstep, hdelivered₃, hresponses₃, hhead₃, hmem₃⟩ :
      ∃ p₃, pairStep p₂ (.deviceWrite r') = some p₃ ∧ p₃.delivered = p₂.delivered ∧
        p₃.responses = p₂.responses ++ [r'] ∧ p₃.rx.head = p₂.rx.head ∧
        p₃.rx.mem = update p₂.rx.mem p₂.devTail r' :=
    ⟨_, if_neg hmay, rfl, rfl, rfl, rfl⟩
  refine ⟨_, p₃, (hrun₁.append hrun₂).append (Run.single hstep), ?_, ?_, ?_, ?_⟩
  · rw [hdelivered₃, hdelivered₂, hdelivered₁]
  · rw [hresponses₃, hinv₂.rx.log, nil_append, List.getElem?_append_left (by simpa using hn'),
      List.getElem?_replicate, if_pos hn']
  · rw [hhead₃, hhead]
  · rw [hmem₃, hdevTail, update_self]

/-! ## Which pairs are safe -/

lemma not_safe_of_overwritten {r r' : Msg} (hdelivered : p.delivered = [])
    (hfirst : p.responses[0]? = some r) (hmem : p.rx.mem 0 = r') (hne : r ≠ r') : ¬ p.Safe := by
  intro hsafe
  obtain ⟨hlen, hget⟩ := List.getElem?_eq_some_iff.mp hfirst
  have hslot := hsafe.responses.slot 0 hlen (by rw [hdelivered]; exact le_rfl)
  rw [Nat.zero_mul, zero_mod, hmem, hget] at hslot
  exact hne hslot.symm

/-- **Which ring pairs are safe:** those whose response ring has room for as many messages as the request ring.
-/
theorem ringPair_safe_iff {m num : ℕ} {p₀ : RingPair} (hm : IsMsgBytes m) (hcreate : createPair m num = some p₀) :
    (∀ es p, Run (ofFun pairStep) p₀ es p → p.Safe) ↔
      numSlots (adfVerifyRingSize m num) m ≤ numSlots (adfVerifyRingSize 32 num) 32 := by
  obtain ⟨hslots, hslots', hinit⟩ := createPair_spec hm hcreate
  constructor
  · intro hsafe
    by_contra hlt
    have htwice := two_mul_numSlots_le (adfVerifyRingSize_mem 32 num).1 (adfVerifyRingSize_mem m num).1 hm (by omega)
    obtain ⟨es, p, hrun, hdelivered, hfirst, -, hmem⟩ := hinit.overrun
      (by omega) (by omega) (by omega) ⟨0, []⟩ ⟨1, []⟩ (by decide) (by decide)
    exact not_safe_of_overwritten hdelivered hfirst hmem (by decide) (hsafe es p hrun)
  · intro hle es p hrun
    have hpos : 0 < numSlots (adfVerifyRingSize m num) m := by omega
    obtain ⟨pending, handled, waiting, hinv⟩ := hrun.invariant
      (fun _ _ _ hI hstep => pairStep_inv hpos hle hI hstep) ⟨[], [], [], hinit.inv⟩
    exact hinv.safe hpos hle

/-- A pair for 512 requests of 128 bytes is safe. -/
theorem ringPair_safe_512 : ∃ p₀, createPair 128 512 = some p₀ ∧ ∀ es p, Run (ofFun pairStep) p₀ es p → p.Safe := by
  have hcreate : createPair 128 512 = some _ := rfl
  exact ⟨_, hcreate, (ringPair_safe_iff (Or.inr (Or.inr rfl)) hcreate).mpr (by decide)⟩

/-- For `2 ^ 25 + 2 ^ 10` messages of 128 bytes the product wraps to 1024 slots, while the responses get the
default of 512. -/
theorem ringPair_wrapped_overruns :
    ∃ p₀ es p r r', createPair 128 (2 ^ 25 + 2 ^ 10) = some p₀ ∧ Run (ofFun pairStep) p₀ es p ∧
      p.delivered = [] ∧ p.responses[0]? = some r ∧ p.rx.mem p.rx.head = r' ∧ r ≠ r' ∧ ¬ p.Safe := by
  have hcreate : createPair 128 (2 ^ 25 + 2 ^ 10) = some _ := rfl
  obtain ⟨-, -, hinit⟩ := createPair_spec (Or.inr (Or.inr rfl)) hcreate
  obtain ⟨es, p, hrun, hdelivered, hfirst, hhead, hmem⟩ := hinit.overrun
    (by decide) (by decide) (by decide) ⟨0, []⟩ ⟨1, []⟩ (by decide) (by decide)
  exact ⟨_, es, p, _, _, hcreate, hrun, hdelivered, hfirst, by rw [hhead, hmem], by decide,
    not_safe_of_overwritten hdelivered hfirst hmem (by decide)⟩

end QuickAssist.Transport
