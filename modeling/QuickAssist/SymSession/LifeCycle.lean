import QuickAssist.SymSession.Order

/-!
# The life cycle of a session

A session counts its requests in `pendingCbCount`, and is not to be updated or removed while there are any. The calls
of the clients, the responses, updates and removals run in threads of their own, so this module cuts them where another
thread can come in between. A call of `LacAlgChain_Perform` enters as a reader, passes its checks and is counted,
leaves as a reader, and then sends its request. A response is processed, the client is called back, and then the count
is lowered, as it is for a request the ring has refused. An update holds the session's lock. A removal looks at the
count and then tears the session down.

**Outside.** Mutexes can be taken when they are free. What an update does to the session besides starting
precomputations, and the checks in which it fails before it takes the lock, do not touch the count.
-/

namespace QuickAssist.SymSession

open Lib List

/-! ## The steps in between -/

structure Life where
  session : Session
  accessReaders : ℕ
  accessLock : Bool
  checking : ℕ
  counted : ℕ
  unsent : ℕ
  calling : List ℕ
  calledBack : List ℕ
  lowering : ℕ
  removing : Bool
  removed : Bool

/-- A new session. Source: `LacAlgChain_SessionInit`. -/
def lifeInit (arc4InitialState : Option Octets) (cipherPartialOpState : Octets) : Life where
  session := sessionInit arc4InitialState cipherPartialOpState
  accessReaders := 0
  accessLock := false
  checking := 0
  counted := 0
  unsent := 0
  calling := []
  calledBack := []
  lowering := 0
  removing := false
  removed := false

inductive LifeEvent
  /-- A call enters. Source: `LacAlgChain_LockSessionReader`. -/
  | enter
  | giveUp
  /-- A call has passed its checks. Source: `osalAtomicInc` in `LacAlgChain_Perform`. -/
  | count
  /-- A call that was counted leaves. Source: `LacAlgChain_UnlockSessionReader`. -/
  | leave
  | send (packetType : PacketType) (updateSessionIvOnSend : Bool) (iv : Octets) (direct : Bool)
  | put (i : ℕ) (ok : Bool)
  | respond (i : ℕ) (qatRespStatusOk : Bool) (put : ℕ → ℕ → Bool)
  | callBack (i : ℕ)
  | lower
  /-- An update takes the lock. Source: `LacAlgChain_LockSessionWriter`. -/
  | lockWriter
  /-- It changes the session, and may start precomputations. Source: `LacAlgChain_SessionUpdate`. -/
  | update (created : Option (List Bool))
  /-- It gives the lock back. Source: `LacAlgChain_UnlockSessionWriter`. -/
  | unlockWriter
  | precomputeDone (put : ℕ → ℕ → Bool)
  /-- A removal looks at the count. Source: `cpaCySymRemoveSession`. -/
  | checkPending
  | destroy

def liveStep (w : Life) : LifeEvent → Option Life
  | .enter =>
    if w.accessLock then none
    else some { w with accessReaders := w.accessReaders + 1, checking := w.checking + 1 }
  | .giveUp =>
    if w.accessLock ∨ w.checking = 0 then none
    else some { w with accessReaders := w.accessReaders - 1, checking := w.checking - 1 }
  | .count =>
    if w.checking = 0 then none
    else some { w with
      session := { w.session with pendingCbCount := w.session.pendingCbCount + 1 }
      checking := w.checking - 1
      counted := w.counted + 1 }
  | .leave =>
    if w.accessLock ∨ w.counted = 0 then none
    else some { w with accessReaders := w.accessReaders - 1, counted := w.counted - 1, unsent := w.unsent + 1 }
  | .send packetType updateIv iv direct =>
    if w.unsent = 0 then none
    else some { w with session := sendCounted w.session packetType updateIv iv direct, unsent := w.unsent - 1 }
  | .put i ok =>
    (putCounted w.session i ok).map fun s => { w with session := s, lowering := w.lowering + if ok then 0 else 1 }
  | .respond i ok put => do
      let r ← w.session.inFlight[i]?
      let s ← respond w.session i ok put
      return { w with session := s, calling := w.calling ++ [r.id] }
  | .callBack i =>
    w.calling[i]?.map fun a =>
      { w with calling := w.calling.eraseIdx i, calledBack := w.calledBack ++ [a], lowering := w.lowering + 1 }
  | .lower =>
    if w.lowering = 0 then none
    else some { w with
      session := { w.session with pendingCbCount := w.session.pendingCbCount - 1 }
      lowering := w.lowering - 1 }
  | .lockWriter =>
    if w.accessLock ∨ w.accessReaders ≠ 0 ∨ w.session.pendingCbCount > 0 then none
    else some { w with accessLock := true }
  | .update none => if w.accessLock then some w else none
  | .update (some created) =>
    if w.accessLock then (hashPrecompute w.session created).map fun s => { w with session := s }
    else none
  | .unlockWriter => if w.accessLock then some { w with accessLock := false } else none
  | .precomputeDone put => (hashPrecomputeDone w.session put).map fun s => { w with session := s }
  | .checkPending => if w.session.pendingCbCount = 0 then some { w with removing := true } else some w
  | .destroy => if w.removing then some { w with removed := true } else none

def lifeStep (w : Life) (e : LifeEvent) : Option Life := if w.removed then none else liveStep w e

/-! ## The property -/

def Life.outstanding (w : Life) : ℕ := (w.session.accepted.filter fun a => decide (a ∉ w.calledBack)).length

/-- The number of requests that are counted already or still, because a thread has counted one and has not
got it accepted, or has not lowered the count yet. -/
def Life.inBetween (w : Life) : ℕ := w.counted + w.unsent + w.session.sending.length + w.lowering

/-- The condition on a step: what is put from the queue is not put by the last attempt only, and no call is
counted after a removal has found the count at zero. -/
def Minded (w : Life) : LifeEvent → Prop
  | .respond i ok put => ∀ r, w.session.inFlight[i]? = some r → r.Blocking → ok = true →
      ∀ h, h < w.session.queue.length → ¬ OnlyLast (put h)
  | .precomputeDone put => ∀ h, h < w.session.queue.length → ¬ OnlyLast (put h)
  | .count => w.removing = false
  | _ => True

structure LifeInv (w : Life) : Prop where
  readers : w.accessReaders = w.checking + w.counted
  count : w.session.pendingCbCount =
    ((w.session.inFlight ++ w.session.queue).length + w.calling.length + w.inBetween : ℕ)
  nodup : (w.session.accepted ++ w.session.sending.map Request.id).Nodup
  lt : ∀ a ∈ w.session.accepted ++ w.session.sending.map Request.id, a < w.session.nextId
  accepted : w.session.accepted.Perm
    (w.calledBack ++ (w.calling ++ (w.session.inFlight ++ w.session.queue).map Request.id))
  /-- While an update holds the lock, there are no readers and nothing is counted. -/
  lock : w.accessLock = true → w.accessReaders = 0 ∧ w.session.pendingCbCount = 0
  removing : w.removing = true → w.session.pendingCbCount = 0
  removed : w.removed = true → w.removing = true

lemma lifeInv_lifeInit (arc4 : Option Octets) (opState : Octets) : LifeInv (lifeInit arc4 opState) := by
  constructor <;> simp [lifeInit, sessionInit, Life.inBetween]

/-- **Where the outstanding requests are**: in flight, queued, or answered and not called back. -/
theorem LifeInv.outstanding_eq {w : Life} (h : LifeInv w) :
    w.outstanding = (w.session.inFlight ++ w.session.queue).length + w.calling.length := by
  have hnodup := (h.accepted.nodup_iff.1 (List.Nodup.of_append_left h.nodup))
  have hdisjoint := (nodup_append.1 hnodup).2.2
  have hperm := h.accepted.filter fun a => decide (a ∉ w.calledBack)
  have hcalled : w.calledBack.filter (fun a => decide (a ∉ w.calledBack)) = [] := by
    apply filter_eq_nil_iff.2
    intro a ha
    simp [ha]
  have hrest : ∀ a ∈ w.calling ++ (w.session.inFlight ++ w.session.queue).map Request.id,
      decide (a ∉ w.calledBack) = true := by
    intro a ha
    apply decide_eq_true
    intro hmem
    exact hdisjoint a hmem a ha rfl
  rw [filter_append, hcalled, filter_eq_self.2 hrest, nil_append] at hperm
  rw [Life.outstanding, hperm.length_eq, length_append, length_map]
  exact Nat.add_comm ..

lemma LifeInv.count_eq {w : Life} (h : LifeInv w) : w.session.pendingCbCount = (w.outstanding + w.inBetween : ℕ) := by
  rw [h.outstanding_eq]
  exact h.count

end QuickAssist.SymSession
