import Mathlib.Data.Int.Notation
import Mathlib.Data.List.Basic
import QuickAssist.Lib.Words

/-!
# The request queue of a symmetric session

A session sends its requests to the request ring directly, unless an operation is in progress that later requests have
to wait for: a partial packet, or the precomputation of a hash state. `nonBlockingOpsInProgress` is cleared while there
is one, and requests are appended to a queue of the session. The completion of the operation empties the queue, up to
the next partial packet.

`LacSymQueue_RequestSend` is in two steps. `requestSend` is the decision between the queue and the ring. It starts with
two loads, of the flag and of the queue's tail, that are made without the lock and of which each may be out of date when
the request is cleared to send, so what they have said is an input of the step. If they have said that the request is to
be queued, both are looked at again under the lock. `requestPut` is the put on the ring and what follows it, for which
no lock is held. Other calls may come in between. Emptying the queue is one step here, since it holds the lock;
`SymSession/Order.lean` cuts both at every load and store of the flag and the tail.

Whether a put is accepted by the ring is decided outside: each function that puts takes the outcomes of its attempts.
The fields from `sending` on are not in the session descriptor; they record who is in the middle of what.
-/

namespace QuickAssist.SymSession

open List

/-! ## Sessions -/

inductive PacketType
  | full
  | midPartial
  | lastPartial
  deriving DecidableEq

/-- What the queue reads of a request.
Source: `lac_sym_bulk_cookie_t`. -/
structure Request where
  id : ℕ
  packetType : PacketType
  updateSessionIvOnSend : Bool
  iv : Octets
  earlier : List ℕ
  deriving DecidableEq

def Request.Blocking (r : Request) : Prop := r.packetType ≠ .full
  deriving Decidable

/-- A session.
Source: `lac_session_desc_t`. -/
structure Session where
  nonBlockingOpsInProgress : Bool
  /-- The requests from `pRequestQueueHead` to `pRequestQueueTail`. Both pointers are null if there
  is none. -/
  queue : List Request
  cipherPartialOpState : Octets
  /-- `cipherARC4InitialState`, if the session's cipher is ARC4. -/
  arc4InitialState : Option Octets
  pendingCbCount : ℤ
  sending : List Request
  inFlight : List Request
  precomputes : ℕ
  nextId : ℕ
  accepted : List ℕ
  putLog : List Request

def sessionInit (arc4InitialState : Option Octets) (cipherPartialOpState : Octets) : Session where
  nonBlockingOpsInProgress := true
  queue := []
  cipherPartialOpState := cipherPartialOpState
  arc4InitialState := arc4InitialState
  pendingCbCount := 0
  sending := []
  inFlight := []
  precomputes := 0
  nextId := 0
  accepted := []
  putLog := []

def memcpy (dst src : Octets) : Octets := src ++ dst.drop src.length

/-- What is done before a request is put: a partial packet clears the flag, and the cipher state is set if the
request asks for it. -/
def Session.clearToSend (s : Session) (r : Request) : Session :=
  { s with
    nonBlockingOpsInProgress := if r.Blocking then false else s.nonBlockingOpsInProgress
    cipherPartialOpState :=
      if r.updateSessionIvOnSend then
        memcpy s.cipherPartialOpState (s.arc4InitialState.getD r.iv)
      else s.cipherPartialOpState }

def Session.onRing (s : Session) (r : Request) : Session :=
  { s with inFlight := s.inFlight ++ [r], putLog := s.putLog ++ [r] }

/-! ## Submitting -/

/-- The decision between the queue and the ring, for a request that was counted. `direct` is what the two loads without
the lock have said of the flag and the queue, which may be out of date; the loads under the lock are not.
Source: `LacSymQueue_RequestSend` up to the put. -/
def sendCounted (s : Session) (packetType : PacketType) (updateSessionIvOnSend : Bool)
    (iv : Octets) (direct : Bool) : Session :=
  let r : Request := ⟨s.nextId, packetType, updateSessionIvOnSend, iv, s.accepted⟩
  let s := { s with nextId := s.nextId + 1 }
  if direct = false ∧ (s.nonBlockingOpsInProgress = false ∨ s.queue ≠ []) then
    { s with queue := s.queue ++ [r], accepted := s.accepted ++ [r.id] }
  else { s.clearToSend r with sending := s.sending ++ [r] }

/-- The put of the `i`-th request that goes to the ring directly, up to the lowering of the count if the
ring refuses it. Source: `LacSymQueue_RequestSend` from the put on. -/
def putCounted (s : Session) (i : ℕ) (ok : Bool) : Option Session :=
  s.sending[i]?.map fun r =>
    let s := { s with sending := s.sending.eraseIdx i }
    if ok then { s.onRing r with accepted := s.accepted ++ [r.id] }
    else
      { s with nonBlockingOpsInProgress := if r.Blocking then true else s.nonBlockingOpsInProgress }

def Session.countBy (s : Session) (n : ℤ) : Session := { s with pendingCbCount := s.pendingCbCount + n }

/-- A call is made, its request is counted, and it is decided whether the request is queued.
Source: the end of `LacAlgChain_Perform`. -/
def requestSend (s : Session) (packetType : PacketType) (updateSessionIvOnSend : Bool)
    (iv : Octets) (direct : Bool) : Session :=
  sendCounted (s.countBy 1) packetType updateSessionIvOnSend iv direct

/-- The put, and the end of `LacAlgChain_Perform`. -/
def requestPut (s : Session) (i : ℕ) (ok : Bool) : Option Session :=
  (putCounted s i ok).map fun s => s.countBy (if ok then 0 else -1)

/-! ## Emptying the queue -/

def dequeueMsgputMaxRetries : ℕ := 10000

/-- The loop that puts a request until it is accepted or the retries are used up; `put k` is the outcome of the
attempt after `k` retries. -/
def putLoop (put : ℕ → Bool) : (fuel retries : ℕ) → Bool × ℕ
  | 0, retries => (false, retries)
  | fuel + 1, retries =>
    if put retries then (true, retries + 1)
    else if retries + 1 < dequeueMsgputMaxRetries then putLoop put fuel (retries + 1)
    else (false, retries + 1)

/-- The loop over the queue; `put h` are the outcomes for the `h`-th request. The queue is left as it is when a
request has used up its retries, *whether or not the last was accepted*. -/
def dequeueLoop (put : ℕ → ℕ → Bool) : (queue : List Request) → (h : ℕ) → Session → Bool × Session
  | [], _, s => (true, { s with queue := [] })
  | r :: rest, h, s =>
    if s.nonBlockingOpsInProgress then
      let s := s.clearToSend r
      let (ok, retries) := putLoop (put h) dequeueMsgputMaxRetries 0
      let s := if ok then s.onRing r else s
      if ok = false ∨ dequeueMsgputMaxRetries ≤ retries then (ok, { s with queue := r :: rest })
      else dequeueLoop put rest (h + 1) s
    else (true, { s with queue := r :: rest })

def pendingReqsDequeue (s : Session) (put : ℕ → ℕ → Bool) : Bool × Session :=
  dequeueLoop put s.queue 0 { s with nonBlockingOpsInProgress := true }

/-- The response to the `i`-th request in flight, up to the client's callback. The queue is looked at after a partial
packet *that has succeeded*. Source: `LacSymCb_ProcessCallbackInternal`. -/
def respond (s : Session) (i : ℕ) (qatRespStatusOk : Bool) (put : ℕ → ℕ → Bool) : Option Session :=
  s.inFlight[i]?.map fun r =>
    let s := { s with inFlight := s.inFlight.eraseIdx i }
    if r.Blocking ∧ qatRespStatusOk = true then (pendingReqsDequeue s put).2 else s

/-- The whole response: the client is called back, and the request is no longer counted. -/
def processCallback (s : Session) (i : ℕ) (qatRespStatusOk : Bool) (put : ℕ → ℕ → Bool) : Option Session :=
  (respond s i qatRespStatusOk put).map fun s => s.countBy (-1)

/-! ## Precomputations -/

/-- Session setup or a key update starts hash precomputations: one, or two for a session with an optimised
content descriptor. `created` says which of them could be started. -/
def hashPrecompute (s : Session) (created : List Bool) : Option Session :=
  if s.pendingCbCount > 0 then none
  else
    some { s with nonBlockingOpsInProgress := false, precomputes := s.precomputes + created.count true }

/-- A precomputation completes.
Source: `LacSymAlgChain_HashPrecomputeDoneCb`. -/
def hashPrecomputeDone (s : Session) (put : ℕ → ℕ → Bool) : Option Session :=
  if s.precomputes = 0 then none
  else some (pendingReqsDequeue { s with precomputes := s.precomputes - 1 } put).2

/-! ## Steps -/

inductive SessionEvent
  | submit (packetType : PacketType) (updateSessionIvOnSend : Bool) (iv : Octets) (direct : Bool)
  | put (i : ℕ) (ok : Bool)
  | complete (i : ℕ) (qatRespStatusOk : Bool) (put : ℕ → ℕ → Bool)
  | precompute (created : List Bool)
  | precomputeDone (put : ℕ → ℕ → Bool)

def sessionStep (s : Session) : SessionEvent → Option Session
  | .submit packetType updateIv iv direct => some (requestSend s packetType updateIv iv direct)
  | .put i ok => requestPut s i ok
  | .complete i ok put => processCallback s i ok put
  | .precompute created => hashPrecompute s created
  | .precomputeDone put => hashPrecomputeDone s put

/-! ## What the loops do -/

def InTime (put : ℕ → Bool) : Prop := ∃ k, k + 1 < dequeueMsgputMaxRetries ∧ put k = true

def OnlyLast (put : ℕ → Bool) : Prop :=
  (∀ k, k + 1 < dequeueMsgputMaxRetries → put k = false) ∧ put (dequeueMsgputMaxRetries - 1) = true

lemma onlyLast_last : OnlyLast fun k => decide (9999 ≤ k) := by
  refine ⟨?_, by decide⟩
  intro k hk
  have hlt : k + 1 < 10000 := hk
  exact decide_eq_false (by omega)

lemma putLoop_spec (put : ℕ → Bool) (fuel retries : ℕ)
    (hfuel : fuel + retries = dequeueMsgputMaxRetries) (hpos : 0 < fuel)
    (hrefused : ∀ k, k < retries → put k = false) :
    (∃ k, k < dequeueMsgputMaxRetries ∧ put k = true ∧ (∀ j, j < k → put j = false) ∧
        putLoop put fuel retries = (true, k + 1)) ∨ ((∀ k, k < dequeueMsgputMaxRetries → put k = false) ∧
        putLoop put fuel retries = (false, dequeueMsgputMaxRetries)) := by
  induction fuel generalizing retries with
  | zero => omega
  | succ fuel ih =>
    rw [putLoop]
    by_cases hput : put retries = true
    · rw [if_pos hput]
      exact Or.inl ⟨retries, by omega, hput, hrefused, rfl⟩
    · have hupto : ∀ k, k < retries + 1 → put k = false := by
        intro k hk
        by_cases heq : k = retries
        · rw [heq]
          exact Bool.eq_false_iff.mpr hput
        · exact hrefused k (by omega)
      rw [if_neg hput]
      by_cases hmore : retries + 1 < dequeueMsgputMaxRetries
      · rw [if_pos hmore]
        exact ih (retries + 1) (by omega) (by omega) hupto
      · rw [if_neg hmore]
        have hend : retries + 1 = dequeueMsgputMaxRetries := by omega
        exact Or.inr ⟨fun k hk => hupto k (by omega), by rw [hend]⟩

section PutLoop

variable {put : ℕ → Bool}

lemma putLoop_of_inTime (hput : InTime put) :
    ∃ n, n < dequeueMsgputMaxRetries ∧ putLoop put dequeueMsgputMaxRetries 0 = (true, n) := by
  obtain ⟨k, hk, hok⟩ := hput
  rcases putLoop_spec put dequeueMsgputMaxRetries 0 rfl (by decide) (by omega) with
    ⟨j, hj, -, hfirst, heq⟩ | ⟨hnone, -⟩
  · have hjk : j ≤ k := by
      by_contra hlt
      rw [hfirst k (by omega)] at hok
      cases hok
    exact ⟨j + 1, by omega, heq⟩
  · rw [hnone k (by omega)] at hok
    cases hok

lemma putLoop_of_refused (hput : ∀ k, k < dequeueMsgputMaxRetries → put k = false) :
    putLoop put dequeueMsgputMaxRetries 0 = (false, dequeueMsgputMaxRetries) := by
  rcases putLoop_spec put dequeueMsgputMaxRetries 0 rfl (by decide) (by omega) with ⟨j, hj, hok, -, -⟩ | ⟨-, heq⟩
  · rw [hput j hj] at hok
    cases hok
  · exact heq

lemma putLoop_of_onlyLast (hput : OnlyLast put) :
    putLoop put dequeueMsgputMaxRetries 0 = (true, dequeueMsgputMaxRetries) := by
  rcases putLoop_spec put dequeueMsgputMaxRetries 0 rfl (by decide) (by omega) with
    ⟨j, hj, hok, -, heq⟩ | ⟨hnone, -⟩
  · have hlast : j + 1 = dequeueMsgputMaxRetries := by
      by_contra hne
      rw [hput.1 j (by omega)] at hok
      cases hok
    rw [heq, hlast]
  · have hlast := hput.2
    rw [hnone (dequeueMsgputMaxRetries - 1) (by decide)] at hlast
    cases hlast

end PutLoop

section DequeueLoop

variable {put : ℕ → ℕ → Bool} {r : Request} {rest : List Request} {h : ℕ} {s : Session}

section

variable (hflag : s.nonBlockingOpsInProgress = true)

include hflag

lemma dequeueLoop_of_inTime (hput : InTime (put h)) :
    dequeueLoop put (r :: rest) h s = dequeueLoop put rest (h + 1) ((s.clearToSend r).onRing r) := by
  obtain ⟨n, hn, heq⟩ := putLoop_of_inTime hput
  rw [dequeueLoop, if_pos hflag]
  simp [heq, if_neg (Nat.not_le.2 hn)]

lemma dequeueLoop_of_refused (hput : ∀ k, k < dequeueMsgputMaxRetries → put h k = false) :
    dequeueLoop put (r :: rest) h s = (false, { s.clearToSend r with queue := r :: rest }) := by
  rw [dequeueLoop, if_pos hflag]
  simp [putLoop_of_refused hput]

lemma dequeueLoop_of_onlyLast (hput : OnlyLast (put h)) :
    dequeueLoop put (r :: rest) h s = (true, { (s.clearToSend r).onRing r with queue := r :: rest }) := by
  rw [dequeueLoop, if_pos hflag]
  simp [putLoop_of_onlyLast hput]

end

lemma inTime_or_onlyLast_or_refused (p : ℕ → Bool) :
    InTime p ∨ OnlyLast p ∨ ∀ k, k < dequeueMsgputMaxRetries → p k = false := by
  by_cases hin : InTime p
  · exact Or.inl hin
  · have hbefore : ∀ k, k + 1 < dequeueMsgputMaxRetries → p k = false := by
      intro k hk
      by_contra hput
      exact hin ⟨k, hk, by simpa using hput⟩
    by_cases hlast : p (dequeueMsgputMaxRetries - 1) = true
    · exact Or.inr (Or.inl ⟨hbefore, hlast⟩)
    · refine Or.inr (Or.inr ?_)
      intro k hk
      by_cases heq : k = dequeueMsgputMaxRetries - 1
      · rw [heq]
        exact Bool.eq_false_iff.mpr hlast
      · exact hbefore k (by omega)

end DequeueLoop

/-- What emptying the queue changes, if it has put the requests `new`. -/
structure Dequeued (s s' : Session) (new : List Request) : Prop where
  inFlight : s'.inFlight = s.inFlight ++ new
  putLog : s'.putLog = s.putLog ++ new
  sending : s'.sending = s.sending
  nextId : s'.nextId = s.nextId
  accepted : s'.accepted = s.accepted
  pendingCbCount : s'.pendingCbCount = s.pendingCbCount

lemma Dequeued.cons {s s' : Session} {r : Request} {new : List Request}
    (hd : Dequeued ((s.clearToSend r).onRing r) s' new) : Dequeued s s' (r :: new) :=
  { hd with
    inFlight := by rw [hd.inFlight, Session.onRing, append_assoc]; rfl
    putLog := by rw [hd.putLog, Session.onRing, append_assoc]; rfl }

lemma Dequeued.nil (s : Session) (queue : List Request) : Dequeued s { s with queue := queue } [] :=
  ⟨(append_nil _).symm, (append_nil _).symm, rfl, rfl, rfl, rfl⟩

section

variable (put : ℕ → ℕ → Bool) (queue : List Request) (h : ℕ) (s : Session)

include put queue h s

lemma dequeueLoop_dequeued : ∃ new, Dequeued s (dequeueLoop put queue h s).2 new := by
  induction queue generalizing h s with
  | nil => exact ⟨[], Dequeued.nil s []⟩
  | cons r rest ih =>
    by_cases hflag : s.nonBlockingOpsInProgress = true
    · rcases inTime_or_onlyLast_or_refused (put h) with hin | hlast | hnone
      · rw [dequeueLoop_of_inTime hflag hin]
        obtain ⟨new, hd⟩ := ih (h + 1) ((s.clearToSend r).onRing r)
        exact ⟨r :: new, hd.cons⟩
      · rw [dequeueLoop_of_onlyLast hflag hlast]
        exact ⟨[r], (Dequeued.nil _ (r :: rest)).cons⟩
      · rw [dequeueLoop_of_refused hflag hnone]
        exact ⟨[], { Dequeued.nil (s.clearToSend r) (r :: rest) with }⟩
    · rw [dequeueLoop, if_neg hflag]
      exact ⟨[], Dequeued.nil s (r :: rest)⟩

lemma dequeueLoop_empties
    (hflag : s.nonBlockingOpsInProgress = true) (hput : ∀ k, k < queue.length → InTime (put (h + k))) :
    ((dequeueLoop put queue h s).2.queue = [] ∧ (dequeueLoop put queue h s).2.nonBlockingOpsInProgress = true) ∨
      ∃ r ∈ (dequeueLoop put queue h s).2.inFlight, r.Blocking := by
  induction queue generalizing h s with
  | nil => exact Or.inl ⟨rfl, hflag⟩
  | cons r rest ih =>
    have hfirst : InTime (put h) := hput 0 (by simp)
    rw [dequeueLoop_of_inTime hflag hfirst]
    by_cases hr : r.Blocking
    · obtain ⟨new, hd⟩ := dequeueLoop_dequeued put rest (h + 1) ((s.clearToSend r).onRing r)
      refine Or.inr ⟨r, ?_, hr⟩
      rw [hd.inFlight, Session.onRing]
      simp
    · refine ih (h + 1) _ ?_ ?_
      · rw [Session.onRing, Session.clearToSend]
        simp only [if_neg hr, hflag]
      · intro k hk
        have hnext := hput (k + 1) (by simpa using hk)
        rwa [show h + 1 + k = h + (k + 1) by omega]

lemma dequeueLoop_moves (hput : ∀ k, k < queue.length → ¬ OnlyLast (put (h + k))) :
    (dequeueLoop put queue h s).2.putLog ++ (dequeueLoop put queue h s).2.queue = s.putLog ++ queue := by
  induction queue generalizing h s with
  | nil => rfl
  | cons r rest ih =>
    by_cases hflag : s.nonBlockingOpsInProgress = true
    · rcases inTime_or_onlyLast_or_refused (put h) with hin | hlast | hnone
      · rw [dequeueLoop_of_inTime hflag hin, ih (h + 1)]
        · rw [Session.onRing, append_assoc]
          rfl
        · intro k hk
          have hnext := hput (k + 1) (by simpa using hk)
          rwa [show h + 1 + k = h + (k + 1) by omega]
      · exact absurd hlast (hput 0 (by simp))
      · rw [dequeueLoop_of_refused hflag hnone]
        rfl
    · rw [dequeueLoop, if_neg hflag]

end

/-- A request other than the one at an index is still there when that one is removed. -/
lemma mem_eraseIdx_of_ne {l : List Request} {i : ℕ} {r q : Request} (hi : l[i]? = some r)
    (hq : q ∈ l) (hne : q ≠ r) : q ∈ l.eraseIdx i := by
  obtain ⟨j, hj⟩ := mem_iff_getElem?.mp hq
  refine mem_eraseIdx_iff_getElem?.mpr ⟨j, ?_, hj⟩
  rintro rfl
  rw [hi] at hj
  exact hne (Option.some.inj hj).symm

end QuickAssist.SymSession
