import QuickAssist.Lib.Run
import QuickAssist.SymSession.Queue
import Mathlib.Data.List.Nodup
import Mathlib.Data.List.Perm.Basic

/-!
# In which order requests are put

A request is to be put on the ring once, after every request whose call had succeeded before its own was made, and
while no other partial packet of its session is in flight.

Whether the code sees to this depends on who looks at the flag when, so this module cuts
`LacSymQueue_RequestSend` and `LacSymCb_PendingReqsDequeue` at every load and store of the flag and the tail. A call
loads the flag, and if it is set the tail; both without the lock. Only if one of them says so it takes the lock and
looks again. Then it clears the flag, if its packet is a partial one, and puts the request. Whoever empties the queue
holds the lock all the time, but sets the flag first and clears it again when it comes to a partial packet, and calls
go on looking at the flag meanwhile. The tail is reset at the end.

**The defects.** `PutsOnce` has three conditions:

* no queued request is accepted by the *last* attempt only. The loop that empties the queue takes reaching the maximum
  of retries for a failure, also when the last attempt was accepted, and leaves the request at the head of the queue.
  It is put again when the queue is emptied the next time, and by then its first answer has released its memory;
* a partial packet finds the flag still set when it clears it. A call can find it set while the queue is emptied, and
  the tail reset when that is over, with a partial packet from the queue on the ring in between. The source has no
  critical section here, *because partial packets are not issued concurrently*, and they are not: the one from the
  queue was issued long before;
* no precomputation empties the queue while a partial packet is in flight. It sets the flag, whatever else is in
  progress; a session setup that starts two precomputations may send partial packets after the first of them.
-/

namespace QuickAssist.SymSession

open Lib List Option

/-! ## Calls and the lock -/

/-- How far a call of `LacSymQueue_RequestSend` has come. -/
inductive Stage
  /-- It has found the flag set, and loads the tail next. -/
  | looking
  /-- It has found that its request may have to be queued, and goes for the lock. -/
  | waiting
  /-- It holds the lock, and has found again that its request is to be queued. -/
  | queueing
  /-- It has found that its request can be sent. -/
  | clear
  /-- It has cleared the flag if need be, and puts its request. -/
  | sending
  deriving DecidableEq

/-- A call that has not returned. -/
structure Call where
  request : Request
  stage : Stage

/-- Who holds `requestQueueLock`. `LacSymCb_PendingReqsDequeue` is called by a response or by a precomputation. -/
inductive QueueLock
  | free
  | call
  /-- At the head of the loop over the queue. -/
  | dequeue (response : Bool)
  /-- There is a request, and the flag was set. -/
  | found (response : Bool)
  /-- The flag is cleared if need be, and the request at the head is being put. -/
  | putting (response : Bool)
  deriving DecidableEq

/-- A session with those who are in the middle of something; `calls` takes the place of the session's `sending`. -/
structure Threads where
  session : Session
  /-- `pRequestQueueTail` is not null. -/
  tail : Bool
  lock : QueueLock
  calls : List Call
  /-- Successful responses to partial packets that are about to empty the queue. -/
  answered : ℕ
  /-- Precomputations that have completed and are about to empty the queue. -/
  precomputed : ℕ

def threadsInit (arc4InitialState : Option Octets) (cipherPartialOpState : Octets) : Threads where
  session := sessionInit arc4InitialState cipherPartialOpState
  tail := false
  lock := .free
  calls := []
  answered := 0
  precomputed := 0

/-- The request of the `i`-th call, if the call is at the given stage. -/
def Threads.callAt (t : Threads) (i : ℕ) (stage : Stage) : Option Request :=
  t.calls[i]?.bind fun c => if c.stage = stage then some c.request else none

def Threads.move (t : Threads) (i : ℕ) (r : Request) (stage : Stage) : Threads :=
  { t with calls := t.calls.set i ⟨r, stage⟩ }

/-- Whoever has emptied the queue gives the lock back; after a response the request is no longer counted. -/
def Threads.release (t : Threads) (response : Bool) : Threads :=
  { t with
    session := { t.session with pendingCbCount := t.session.pendingCbCount - if response then 1 else 0 }
    lock := .free }

inductive ThreadEvent
  /-- A call is made, and loads the flag. -/
  | call (packetType : PacketType) (updateSessionIvOnSend : Bool) (iv : Octets)
  | loadTail (i : ℕ)
  /-- A call takes the lock and looks at the flag and the tail again. -/
  | lock (i : ℕ)
  | enqueue (i : ℕ)
  | clear (i : ℕ)
  /-- A call puts its request; the flag is set again if a partial packet is refused. -/
  | put (i : ℕ) (ok : Bool)
  | complete (i : ℕ) (qatRespStatusOk : Bool)
  | precompute (created : List Bool)
  | precomputeDone
  /-- `LacSymCb_PendingReqsDequeue` takes the lock and sets the flag. -/
  | dequeue (response : Bool)
  | next
  | clearHead
  | putHead (put : ℕ → Bool)
  | leave

def threadStep (t : Threads) : ThreadEvent → Option Threads
  | .call packetType updateIv iv =>
    let r : Request := ⟨t.session.nextId, packetType, updateIv, iv, t.session.accepted⟩
    some { t with
      session := { t.session with nextId := t.session.nextId + 1, pendingCbCount := t.session.pendingCbCount + 1 }
      calls := t.calls ++ [⟨r, if t.session.nonBlockingOpsInProgress then .looking else .waiting⟩] }
  | .loadTail i => (t.callAt i .looking).map fun r => t.move i r (if t.tail then .waiting else .clear)
  | .lock i =>
    if t.lock = .free then
      (t.callAt i .waiting).map fun r =>
        if t.session.nonBlockingOpsInProgress = false ∨ t.tail = true then
          { t.move i r .queueing with lock := .call }
        else t.move i r .clear
    else none
  | .enqueue i =>
    (t.callAt i .queueing).map fun r =>
      { t with
        session := { t.session with queue := t.session.queue ++ [r], accepted := t.session.accepted ++ [r.id] }
        tail := true
        lock := .free
        calls := t.calls.eraseIdx i }
  | .clear i => (t.callAt i .clear).map fun r => { t.move i r .sending with session := t.session.clearToSend r }
  | .put i ok =>
    (t.callAt i .sending).map fun r =>
      { t with
        session :=
          if ok then { t.session.onRing r with accepted := t.session.accepted ++ [r.id] }
          else { t.session with
            nonBlockingOpsInProgress := if r.Blocking then true else t.session.nonBlockingOpsInProgress
            pendingCbCount := t.session.pendingCbCount - 1 }
        calls := t.calls.eraseIdx i }
  | .complete i ok =>
    t.session.inFlight[i]?.map fun r =>
      let s := { t.session with inFlight := t.session.inFlight.eraseIdx i }
      if r.Blocking ∧ ok = true then { t with session := s, answered := t.answered + 1 }
      else { t with session := { s with pendingCbCount := s.pendingCbCount - 1 } }
  | .precompute created => (hashPrecompute t.session created).map fun s => { t with session := s }
  | .precomputeDone =>
    if t.session.precomputes = 0 then none
    else some { t with
      session := { t.session with precomputes := t.session.precomputes - 1 }
      precomputed := t.precomputed + 1 }
  | .dequeue response =>
    let waiting := if response then t.answered else t.precomputed
    if t.lock ≠ .free ∨ waiting = 0 then none
    else some { t with
      session := { t.session with nonBlockingOpsInProgress := true }
      lock := .dequeue response
      answered := if response then t.answered - 1 else t.answered
      precomputed := if response then t.precomputed else t.precomputed - 1 }
  | .next =>
    match t.lock with
    | .dequeue response =>
      if t.session.queue ≠ [] ∧ t.session.nonBlockingOpsInProgress = true then some { t with lock := .found response }
      else none
    | _ => none
  | .clearHead =>
    match t.lock, t.session.queue with
    | .found response, r :: _ => some { t with session := t.session.clearToSend r, lock := .putting response }
    | _, _ => none
  | .putHead put =>
    match t.lock, t.session.queue with
    | .putting response, r :: rest =>
      let (ok, retries) := putLoop put dequeueMsgputMaxRetries 0
      let s := if ok then t.session.onRing r else t.session
      if ok = false ∨ dequeueMsgputMaxRetries ≤ retries then some ({ t with session := s }.release response)
      else some { t with session := { s with queue := rest }, lock := .dequeue response }
    | _, _ => none
  | .leave =>
    match t.lock with
    | .dequeue response =>
      if t.session.queue = [] then some ({ t with tail := false }.release response)
      else if t.session.nonBlockingOpsInProgress then none
      else some (t.release response)
    | _ => none

/-! ## The property -/

structure Session.Ordered (s : Session) : Prop where
  once : (s.putLog.map Request.id).Nodup
  /-- A request is put after all that were accepted before its call was made. -/
  inOrder : ∀ l r l', s.putLog = l ++ r :: l' → ∀ a ∈ r.earlier, a ∈ l.map Request.id
  single : (s.inFlight.filter fun r => r.Blocking).length ≤ 1

/-- A partial packet is on its way to the ring. -/
def Call.Sent (c : Call) : Prop := c.stage = .sending ∧ c.request.Blocking
  deriving Decidable

/-- The number of partial packets that whoever empties the queue is putting. -/
def Threads.puttingPartial (t : Threads) : ℕ :=
  match t.lock, t.session.queue with
  | .putting _, r :: _ => if r.Blocking then 1 else 0
  | _, _ => 0

/-- The number of partial packets that are in flight or on their way, or whose response has not yet taken the lock. -/
def Threads.partials (t : Threads) : ℕ :=
  t.session.inFlight.countP (fun r => r.Blocking) + t.calls.countP (fun c => c.Sent) + t.puttingPartial + t.answered

def PutsOnce (t : Threads) : ThreadEvent → Prop
  | .clear i => ∀ r, t.callAt i .clear = some r → r.Blocking → t.session.nonBlockingOpsInProgress = true
  | .clearHead => ∀ r ∈ t.session.queue.head?, r.Blocking → t.session.nonBlockingOpsInProgress = true
  | .putHead put => ¬ OnlyLast put
  | .dequeue false => t.partials = 0
  | _ => True

/-! ## Logs in order -/

/-- Every request of the log comes after those accepted before its call, given that the requests
`seen` come before the log. -/
def InOrder (seen : List ℕ) : List Request → Prop
  | [] => True
  | r :: rest => (∀ a ∈ r.earlier, a ∈ seen) ∧ InOrder (seen ++ [r.id]) rest

lemma InOrder.mono {seen seen' : List ℕ} {log : List Request} (h : InOrder seen log)
    (hsub : ∀ a ∈ seen, a ∈ seen') : InOrder seen' log := by
  induction log generalizing seen seen' with
  | nil => trivial
  | cons r rest ih =>
    refine ⟨fun a ha => hsub a (h.1 a ha), ih h.2 ?_⟩
    intro a ha
    rcases mem_append.mp ha with hseen | hr
    · exact mem_append_left _ (hsub a hseen)
    · exact mem_append_right _ hr

lemma inOrder_append {seen : List ℕ} {p q : List Request} :
    InOrder seen (p ++ q) ↔ InOrder seen p ∧ InOrder (seen ++ p.map Request.id) q := by
  induction p generalizing seen with
  | nil => simp [InOrder]
  | cons r rest ih =>
    rw [cons_append, InOrder, InOrder, ih, map_cons, and_assoc, append_assoc]
    rfl

lemma InOrder.insert {p q : List Request} {r : Request} (h : InOrder [] (p ++ q))
    (hr : ∀ a ∈ r.earlier, a ∈ p.map Request.id) : InOrder [] (p ++ r :: q) := by
  obtain ⟨hp, hq⟩ := inOrder_append.mp h
  refine inOrder_append.mpr ⟨hp, ?_, ?_⟩
  · simpa using hr
  · exact hq.mono fun a ha => mem_append_left _ ha

/-! ## The invariant -/

/-- What has been put or accepted when a call is at a stage: all that its request has to come after is among it. -/
def Threads.before (t : Threads) : Stage → List ℕ
  | .clear | .sending => t.session.putLog.map Request.id
  | _ => t.session.accepted

/-- The requests of the log, of the queue and of the calls are different and in order. -/
structure Listed (t : Threads) : Prop where
  nodup : ((t.session.putLog ++ t.session.queue ++ t.calls.map Call.request).map Request.id).Nodup
  lt : ∀ r ∈ t.session.putLog ++ t.session.queue ++ t.calls.map Call.request, r.id < t.session.nextId
  accepted : ∀ a ∈ t.session.accepted, a ∈ (t.session.putLog ++ t.session.queue).map Request.id
  inOrder : InOrder [] (t.session.putLog ++ t.session.queue)
  earlier : ∀ c ∈ t.calls, ∀ a ∈ c.request.earlier, a ∈ t.before c.stage
  tail : t.tail = false → t.session.queue = []

/-- There is one partial packet, or the flag that lets one in. -/
def OneTurn (t : Threads) : Prop := t.partials + t.session.nonBlockingOpsInProgress.toNat ≤ 1

lemma perm_cons_eraseIdx {α : Type*} {l : List α} {i : ℕ} {x : α} (hi : l[i]? = some x) :
    l.Perm (x :: l.eraseIdx i) := by
  obtain ⟨hlt, rfl⟩ := List.getElem?_eq_some_iff.mp hi
  exact (getElem_cons_eraseIdx_perm hlt).symm

section Steps

variable {t t' : Threads} {e : ThreadEvent} {i : ℕ} {r : Request} {stage stage' : Stage}

lemma callAt_perm (hi : t.callAt i stage = some r) :
    t.calls.Perm (⟨r, stage⟩ :: t.calls.eraseIdx i) ∧ ∀ c, (t.calls.set i c).Perm (c :: t.calls.eraseIdx i) := by
  simp only [Threads.callAt, bind_eq_some_iff, ite_none_right_eq_some, Option.some.injEq] at hi
  obtain ⟨c, hc, rfl, rfl⟩ := hi
  obtain ⟨hlt, -⟩ := List.getElem?_eq_some_iff.mp hc
  exact ⟨perm_cons_eraseIdx hc, set_perm_cons_eraseIdx hlt⟩

lemma callAt_countP (hi : t.callAt i stage = some r) : t.calls.countP (fun c => c.Sent) =
        (t.calls.eraseIdx i).countP (fun c => c.Sent) + (if Call.Sent ⟨r, stage⟩ then 1 else 0) ∧
      ∀ c : Call, (t.calls.set i c).countP (fun c => c.Sent) =
        (t.calls.eraseIdx i).countP (fun c => c.Sent) + if c.Sent then 1 else 0 := by
  obtain ⟨hcalls, hset⟩ := callAt_perm hi
  refine ⟨?_, fun c => ?_⟩
  · simp [hcalls.countP_eq, countP_cons]
  · simp [(hset c).countP_eq, countP_cons]

/-- **One turn.** -/
theorem OneTurn.step (h : OneTurn t) (hG : PutsOnce t e) (hstep : threadStep t e = some t') : OneTurn t' := by
  simp only [OneTurn, Threads.partials] at h ⊢
  cases e with
  | call packetType updateIv iv =>
    cases hstep
    have hnot : ∀ r, ¬ Call.Sent ⟨r, if t.session.nonBlockingOpsInProgress then .looking else .waiting⟩ := by
      rintro r ⟨hsent, -⟩
      split_ifs at hsent
    simpa [countP_append, hnot, Threads.puttingPartial] using h
  | loadTail i =>
    obtain ⟨r, hi, rfl⟩ := map_eq_some_iff.mp hstep
    obtain ⟨hcalls, hset⟩ := callAt_countP hi
    grind [Threads.move, Threads.puttingPartial, Call.Sent]
  | lock i =>
    simp only [threadStep, ite_none_right_eq_some] at hstep
    obtain ⟨hfree, hstep⟩ := hstep
    obtain ⟨r, hi, rfl⟩ := map_eq_some_iff.mp hstep
    obtain ⟨hcalls, hset⟩ := callAt_countP hi
    grind [Threads.move, Threads.puttingPartial, Call.Sent]
  | enqueue i =>
    obtain ⟨r, hi, rfl⟩ := map_eq_some_iff.mp hstep
    obtain ⟨hcalls, -⟩ := callAt_countP hi
    grind [Threads.puttingPartial, Call.Sent]
  | clear i =>
    obtain ⟨r, hi, rfl⟩ := map_eq_some_iff.mp hstep
    obtain ⟨hcalls, hset⟩ := callAt_countP hi
    have hflag := hG r hi
    grind [Threads.move, Threads.puttingPartial, Session.clearToSend, Call.Sent]
  | put i ok =>
    obtain ⟨r, hi, rfl⟩ := map_eq_some_iff.mp hstep
    obtain ⟨hcalls, -⟩ := callAt_countP hi
    grind [Threads.puttingPartial, Session.onRing, Call.Sent]
  | complete i ok =>
    obtain ⟨r, hi, rfl⟩ := map_eq_some_iff.mp hstep
    have hflight := (perm_cons_eraseIdx hi).countP_eq (fun r => decide r.Blocking)
    grind [Threads.puttingPartial]
  | precompute created =>
    obtain ⟨s, hs, rfl⟩ := map_eq_some_iff.mp hstep
    grind [hashPrecompute, Threads.puttingPartial]
  | precomputeDone => grind [threadStep, Threads.puttingPartial]
  | dequeue response => grind [threadStep, PutsOnce, Threads.partials, Threads.puttingPartial]
  | next => grind [threadStep, Threads.puttingPartial]
  | clearHead => grind [threadStep, PutsOnce, Threads.puttingPartial, Session.clearToSend]
  | putHead put =>
    rcases inTime_or_onlyLast_or_refused put with hin | hlast | hnone
    · obtain ⟨n, hn, heq⟩ := putLoop_of_inTime hin
      grind [threadStep, Threads.puttingPartial, Session.onRing]
    · exact absurd hlast hG
    · have heq := putLoop_of_refused hnone
      grind [threadStep, Threads.puttingPartial, Threads.release]
  | leave => grind [threadStep, Threads.puttingPartial, Threads.release]

/-- The order of the calls does not matter. -/
lemma Listed.of_perm {calls : List Call} (h : Listed { t with calls := calls }) (hperm : t.calls.Perm calls) :
    Listed t := by
  have hlists := (hperm.map Call.request).append_left (t.session.putLog ++ t.session.queue)
  exact
    { h with
      nodup := (hlists.map Request.id).nodup_iff.mpr h.nodup
      lt := fun r hr => h.lt r (hlists.mem_iff.mp hr)
      earlier := fun c hc => h.earlier c (hperm.mem_iff.mp hc) }

namespace Listed

variable (h : Listed t)

include h

lemma ordered (hturn : OneTurn t) : t.session.Ordered where
  once := by
    have hnodup := h.nodup
    rw [append_assoc, map_append] at hnodup
    exact hnodup.of_append_left
  inOrder l r l' heq a ha := by
    have hlog := (inOrder_append.mp h.inOrder).1
    rw [heq] at hlog
    simpa using (inOrder_append.mp hlog).2.1 a ha
  single := by
    rw [← countP_eq_length_filter]
    unfold OneTurn Threads.partials at hturn
    omega

lemma callAt (hi : t.callAt i stage = some r) : Listed { t with calls := ⟨r, stage⟩ :: t.calls.eraseIdx i } := by
  apply of_perm _ (callAt_perm hi).1.symm
  exact h

lemma earlier_put (hi : t.callAt i stage = some r) (hempty : t.session.queue = []) :
    ∀ a ∈ r.earlier, a ∈ t.session.putLog.map Request.id := by
  intro a ha
  have haccepted := h.accepted a
  rw [hempty, append_nil] at haccepted
  have hold := (h.callAt hi).earlier _ mem_cons_self a ha
  cases stage <;> first | exact hold | exact haccepted hold

lemma move (hi : t.callAt i stage = some r) (stage' : Stage) (hbefore : ∀ a ∈ r.earlier, a ∈ t.before stage') :
    Listed (t.move i r stage') := by
  apply of_perm _ ((callAt_perm hi).2 ⟨r, stage'⟩)
  refine { h.callAt hi with earlier := ?_ }
  intro c hc
  rcases mem_cons.mp hc with rfl | hold
  · exact hbefore
  · exact (h.callAt hi).earlier c (mem_cons_of_mem _ hold)

lemma call {packetType : PacketType} {updateIv : Bool} {iv : Octets}
    (hstep : threadStep t (.call packetType updateIv iv) = some t') : Listed t' := by
  cases hstep
  apply of_perm _ (perm_append_singleton _ t.calls)
  have hlists := @perm_middle _ (⟨t.session.nextId, packetType, updateIv, iv, t.session.accepted⟩ : Request)
  refine { h with nodup := ?_, lt := ?_, earlier := ?_ }
  · -- the number of the call is new
    refine (hlists.map Request.id).nodup_iff.mpr (nodup_cons.mpr ⟨?_, h.nodup⟩)
    intro hmem
    obtain ⟨q, hq, hid⟩ := mem_map.mp hmem
    exact Nat.lt_irrefl _ (hid ▸ h.lt q hq)
  · intro q hq
    rcases mem_cons.mp (hlists.mem_iff.mp hq) with rfl | hold
    · exact Nat.lt_succ_self _
    · exact Nat.lt_succ_of_lt (h.lt q hold)
  · intro c hc
    rcases mem_cons.mp hc with rfl | hold
    · intro a ha
      split_ifs <;> exact ha
    · exact h.earlier c hold

lemma enqueue (hstep : threadStep t (.enqueue i) = some t') : Listed t' := by
  obtain ⟨r, hi, rfl⟩ := map_eq_some_iff.mp hstep
  have h' := h.callAt hi
  have hlists : t.session.putLog ++ (t.session.queue ++ [r]) ++ (t.calls.eraseIdx i).map Call.request =
      t.session.putLog ++ t.session.queue ++ r :: (t.calls.eraseIdx i).map Call.request := by
    simp
  have hearlier : ∀ a ∈ r.earlier, a ∈ t.session.accepted := h'.earlier _ mem_cons_self
  refine ⟨hlists ▸ h'.nodup, hlists ▸ h'.lt, ?_, ?_, ?_, nofun⟩
  · intro a ha
    rw [← append_assoc, map_append]
    exact mem_append.mpr ((mem_append.mp ha).imp_left (h.accepted a))
  · rw [← append_assoc]
    exact InOrder.insert (q := []) (by rw [append_nil]; exact h.inOrder) fun a ha => h.accepted a (hearlier a ha)
  · intro c hc a ha
    have hold := h'.earlier c (mem_cons_of_mem _ hc) a ha
    cases hstage : c.stage <;> simp_all [Threads.before]

lemma put {ok : Bool} (hstep : threadStep t (.put i ok) = some t') : Listed t' := by
  obtain ⟨r, hi, rfl⟩ := map_eq_some_iff.mp hstep
  have h' := h.callAt hi
  have hearlier : ∀ a ∈ r.earlier, a ∈ t.session.putLog.map Request.id := h'.earlier _ mem_cons_self
  split_ifs
  · have hlists : (t.session.putLog ++ [r] ++ t.session.queue ++ (t.calls.eraseIdx i).map Call.request).Perm
        (t.session.putLog ++ t.session.queue ++ r :: (t.calls.eraseIdx i).map Call.request) := by
      refine List.Perm.trans ?_ perm_middle.symm
      simp only [append_assoc, singleton_append]
      exact perm_middle
    refine ⟨(hlists.map _).nodup_iff.mpr h'.nodup, fun q hq => h'.lt q (hlists.mem_iff.mp hq), ?_, ?_, ?_, h'.tail⟩
    · intro a ha
      have hold := h.accepted a
      simp only [Session.onRing, map_append, mem_append] at ha hold ⊢
      rcases ha with haccepted | hnew
      · exact (hold haccepted).imp_left Or.inl
      · exact Or.inl (Or.inr hnew)
    · simp only [Session.onRing, append_assoc, singleton_append]
      exact h.inOrder.insert hearlier
    · intro c hc a ha
      have hold := h'.earlier c (mem_cons_of_mem _ hc) a ha
      cases hstage : c.stage <;> simp_all [Threads.before, Session.onRing]
  all_goals
    have hrest := (sublist_cons_self r ((t.calls.eraseIdx i).map Call.request)).append_left
      (t.session.putLog ++ t.session.queue)
    exact { h' with
      nodup := h'.nodup.sublist (hrest.map _)
      lt := fun q hq => h'.lt q (hrest.subset hq)
      earlier := fun c hc => h'.earlier c (mem_cons_of_mem _ hc) }

lemma putHead {put : ℕ → Bool} (hG : ¬ OnlyLast put) (hstep : threadStep t (.putHead put) = some t') : Listed t' := by
  simp only [threadStep] at hstep
  split at hstep
  next response r rest hlock hqueue =>
    rcases inTime_or_onlyLast_or_refused put with hin | hlast | hnone
    · obtain ⟨n, hn, heq⟩ := putLoop_of_inTime hin
      simp only [heq, if_true, reduceCtorEq, false_or, if_neg (Nat.not_le.2 hn)] at hstep
      cases hstep
      have hlists : t.session.putLog ++ [r] ++ rest = t.session.putLog ++ t.session.queue := by
        rw [hqueue, append_assoc, singleton_append]
      refine ⟨?_, ?_, ?_, ?_, ?_, ?_⟩ <;> simp only [Session.onRing, hlists]
      · exact h.nodup
      · exact h.lt
      · exact h.accepted
      · exact h.inOrder
      · intro c hc a ha
        have hold := h.earlier c hc a ha
        cases hstage : c.stage <;> simp_all [Threads.before]
      · intro htail
        rw [h.tail htail] at hqueue
        cases hqueue
    · exact absurd hlast hG
    · simp only [putLoop_of_refused hnone, true_or, if_true] at hstep
      cases hstep
      exact { h with }
  next => cases hstep

end Listed

lemma Listed.step (h : Listed t) (hG : PutsOnce t e) (hstep : threadStep t e = some t') : Listed t' := by
  cases e with
  | call packetType updateIv iv => exact h.call hstep
  | loadTail i =>
    obtain ⟨r, hi, rfl⟩ := map_eq_some_iff.mp hstep
    apply h.move hi
    split_ifs with htail
    · exact (h.callAt hi).earlier _ mem_cons_self
    · exact h.earlier_put hi (h.tail (by simpa using htail))
  | lock i =>
    simp only [threadStep, ite_none_right_eq_some] at hstep
    obtain ⟨hfree, hstep⟩ := hstep
    obtain ⟨r, hi, rfl⟩ := map_eq_some_iff.mp hstep
    split_ifs with hqueue
    · exact { h.move hi .queueing ((h.callAt hi).earlier _ mem_cons_self) with }
    · exact h.move hi _ (h.earlier_put hi (h.tail (by simpa using (not_or.mp hqueue).2)))
  | enqueue i => exact h.enqueue hstep
  | clear i =>
    obtain ⟨r, hi, rfl⟩ := map_eq_some_iff.mp hstep
    exact { h.move hi .sending ((h.callAt hi).earlier _ mem_cons_self) with }
  | put i ok => exact h.put hstep
  | putHead put => exact h.putHead hG hstep
  | leave =>
    simp only [threadStep] at hstep
    split at hstep
    · split_ifs at hstep with hempty
      all_goals cases hstep
      · exact { h with tail := fun _ => hempty }
      · exact { h with }
    · cases hstep
  | complete i ok =>
    obtain ⟨r, hi, rfl⟩ := map_eq_some_iff.mp hstep
    split_ifs
    all_goals exact { h with }
  | precompute created =>
    obtain ⟨s, hs, rfl⟩ := map_eq_some_iff.mp hstep
    unfold hashPrecompute at hs
    split_ifs at hs
    cases hs
    exact { h with }
  | precomputeDone | dequeue response =>
    simp only [threadStep] at hstep
    split_ifs at hstep
    all_goals
      cases hstep
      exact { h with }
  | next | clearHead =>
    simp only [threadStep] at hstep
    split at hstep
    · first | split_ifs at hstep | skip
      cases hstep
      exact { h with }
    · cases hstep

end Steps

/-! ## Runs -/

/-- **Once, in order, one partial packet at a time**, if no queued request is accepted by its last attempt only, a
partial packet finds the flag still set when it clears it, and no precomputation empties the queue while there is a
partial packet. -/
theorem session_puts_in_order {arc4 : Option Octets} {opState : Octets} {es : List ThreadEvent} {t : Threads}
    (hrun : Run (guarded PutsOnce (ofFun threadStep)) (threadsInit arc4 opState) es t) : t.session.Ordered := by
  have hinit : Listed (threadsInit arc4 opState) := ⟨nodup_nil, nofun, nofun, trivial, nofun, fun _ => rfl⟩
  obtain ⟨hlisted, hturn⟩ : Listed t ∧ OneTurn t := hrun.invariant (I := fun t => Listed t ∧ OneTurn t)
    (fun _ _ _ h hstep => ⟨h.1.step hstep.1 hstep.2, h.2.step hstep.1 hstep.2⟩) ⟨hinit, Nat.le_refl 1⟩
  exact hlisted.ordered hturn

/-- A call that is not disturbed, to the end of its loads. -/
def sendDirectly (packetType : PacketType) : List ThreadEvent :=
  [.call packetType false [], .loadTail 0, .clear 0, .put 0 true]

def queueUp (packetType : PacketType) : List ThreadEvent := [.call packetType false [], .lock 0, .enqueue 0]

def putNext (put : ℕ → Bool) : List ThreadEvent := [.next, .clearHead, .putHead put]

/-- A full and a partial packet behind a partial packet are put in this order. -/
theorem queued_behind_partial_ordered : ∃ t, Run (guarded PutsOnce (ofFun threadStep)) (threadsInit none [])
        (sendDirectly .midPartial ++ queueUp .full ++ queueUp .lastPartial ++ [.complete 0 true, .dequeue true] ++
          putNext (fun _ => true) ++ putNext (fun _ => true) ++ [.leave]) t ∧
      t.session.putLog.map Request.id = [0, 1, 2] ∧ t.session.Ordered := by
  have hall : ¬ OnlyLast fun _ => true := fun h => nomatch h.1 0 (by decide)
  apply Run.exists_and
  · iterate 19 apply Run.cons ⟨by first | trivial | exact hall | exact fun _ _ _ => rfl, rfl⟩
    exact Run.nil _
  · exact fun hrun => ⟨rfl, session_puts_in_order hrun⟩

/-! ## The defects -/

lemma threadStep_putHead_onlyLast {t : Threads} {response : Bool} {r : Request} {rest : List Request} {put : ℕ → Bool}
    (hlock : t.lock = .putting response) (hqueue : t.session.queue = r :: rest) (hput : OnlyLast put) :
    threadStep t (.putHead put) = some ({ t with session := t.session.onRing r }.release response) := by
  simp [threadStep, hlock, hqueue, putLoop_of_onlyLast hput]

/-- **Put twice, and put together.** The ring refuses the queued packet 9999 times and accepts it then; it is answered,
and put again. And a call finds the flag set while the queue is emptied, and the tail reset when its partial packet is
on the ring. -/
theorem puts_twice_and_together : (∃ t, Run (ofFun threadStep) (threadsInit none [])
        (sendDirectly .midPartial ++ queueUp .lastPartial ++ [.complete 0 true, .dequeue true] ++
          putNext (fun k => decide (9999 ≤ k)) ++ [.complete 0 true, .dequeue true] ++ putNext (fun _ => true)) t ∧
      t.session.putLog.map Request.id = [0, 1, 1] ∧ ¬ t.session.Ordered) ∧
    ∃ t, Run (ofFun threadStep) (threadsInit none [])
        (sendDirectly .midPartial ++ queueUp .midPartial ++ [.complete 0 true, .dequeue true,
          .call .lastPartial false []] ++ putNext (fun _ => true) ++ [.leave, .loadTail 0, .clear 0, .put 0 true]) t ∧
      t.session.inFlight.map Request.id = [1, 2] ∧ ¬ t.session.Ordered := by
  have hbefore : Run (ofFun threadStep) (threadsInit none []) (sendDirectly .midPartial ++ queueUp .lastPartial ++
      [.complete 0 true, .dequeue true, .next, .clearHead]) _ := exec_run rfl
  refine ⟨⟨_, hbefore.append (.cons (threadStep_putHead_onlyLast rfl rfl onlyLast_last) (exec_run rfl)), rfl, ?_⟩,
    ⟨_, exec_run rfl, rfl, ?_⟩⟩
  · exact fun hordered => absurd hordered.once (by decide)
  · exact fun hordered => absurd hordered.single (by decide)

end QuickAssist.SymSession
