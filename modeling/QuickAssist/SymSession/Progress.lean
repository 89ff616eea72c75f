import QuickAssist.Lib.Run
import QuickAssist.SymSession.Queue

/-!
# Who empties the queue

A queued request is sent by the completion of an operation that was in flight when it was queued. So a session whose
queue is not empty must have such an operation in flight, or the request waits for ever; and so must a session whose
flag is clear, since its next request will be queued.

**The defects.** What a step can do instead of handing the queue on (`HandsOn`):

* a partial packet is answered with an error: the queue is not looked at (`failed_partial_strands_queue`);
* a queued request is refused in all its attempts, or accepted by the last one only: the loop over the queue is left;
* a partial packet is refused by the ring *after* another call has found the flag clear and has queued its request;
* no precomputation can be started, with the flag already clear.
-/

namespace QuickAssist.SymSession

open Lib List

/-! ## The property -/

/-- An operation whose completion empties the queue is in flight: a precomputation, or a partial
packet that is on the ring or on its way to it. -/
def Session.Blocked (s : Session) : Prop := 0 < s.precomputes ∨ ∃ r ∈ s.inFlight ++ s.sending, r.Blocking

def Session.Awaited (s : Session) : Prop := s.queue ≠ [] ∨ s.nonBlockingOpsInProgress = false → s.Blocked

def HandsOn (s : Session) : SessionEvent → Prop
  | .submit _ _ _ _ => True
  | .put i ok => ok = true ∨ s.queue = [] ∨ ∀ r, s.sending[i]? = some r → ¬ r.Blocking
  | .complete i ok put => ∀ r, s.inFlight[i]? = some r → r.Blocking →
      ok = true ∧ ∀ h, h < s.queue.length → InTime (put h)
  | .precompute created => true ∈ created ∨ 0 < s.precomputes
  | .precomputeDone put => ∀ h, h < s.queue.length → InTime (put h)

/-! ## Steps -/

section Steps

variable {s s' : Session} {put : ℕ → ℕ → Bool} {ok : Bool}

lemma pendingReqsDequeue_awaited
    (hput : ∀ h, h < s.queue.length → InTime (put h)) : (pendingReqsDequeue s put).2.Awaited := by
  have hempties := dequeueLoop_empties put s.queue 0 { s with nonBlockingOpsInProgress := true } rfl
    (by simpa using hput)
  intro hwait
  rcases hempties with ⟨hqueue, hflag⟩ | ⟨r, hmem, hr⟩
  · rcases hwait with hne | hclear
    · exact absurd hqueue hne
    · rw [pendingReqsDequeue, hflag] at hclear
      cases hclear
  · exact Or.inr ⟨r, mem_append_left _ hmem, hr⟩

lemma sendCounted_awaited (h : s.Awaited) (packetType : PacketType) (updateIv : Bool)
    (iv : Octets) (direct : Bool) : (sendCounted s packetType updateIv iv direct).Awaited := by
  unfold sendCounted
  simp only
  split_ifs with hqueue
  · intro _
    exact h hqueue.2.symm
  · intro hwait
    by_cases hr : packetType = .full
    · -- a full packet leaves the flag and the queue as they are
      have hsame : s.queue ≠ [] ∨ s.nonBlockingOpsInProgress = false := by
        simpa [Session.clearToSend, Request.Blocking, hr] using hwait
      rcases h hsame with hpre | ⟨q, hmem, hq⟩
      · exact Or.inl hpre
      · rw [mem_append] at hmem
        exact Or.inr ⟨q, mem_append.2 (hmem.imp_right (mem_append_left _)), hq⟩
    · exact Or.inr ⟨_, mem_append_right _ (mem_append_right _ mem_cons_self), hr⟩

lemma putCounted_awaited (h : s.Awaited) {i : ℕ} (hG : HandsOn s (.put i ok))
    (hstep : putCounted s i ok = some s') : s'.Awaited := by
  simp only [putCounted, Option.map_eq_some_iff] at hstep
  obtain ⟨r, hi, rfl⟩ := hstep
  split_ifs with hok hr
  · intro hwait
    rcases h hwait with hpre | ⟨q, hmem, hq⟩
    · exact Or.inl hpre
    · refine Or.inr ⟨q, ?_, hq⟩
      simp only [Session.onRing, mem_append, mem_singleton]
      by_cases hqr : q = r
      · exact Or.inl (Or.inr hqr)
      · rcases mem_append.mp hmem with hfl | hsend
        · exact Or.inl (Or.inl hfl)
        · exact Or.inr (mem_eraseIdx_of_ne hi hsend hqr)
  · intro hwait
    rcases hG with hok' | hempty | hfull
    · exact absurd hok' hok
    · exfalso
      rcases hwait with hne | hclear
      · exact hne hempty
      · cases hclear
    · exact absurd hr (hfull r hi)
  · intro hwait
    rcases h hwait with hpre | ⟨q, hmem, hq⟩
    · exact Or.inl hpre
    · refine Or.inr ⟨q, ?_, hq⟩
      have hqr : q ≠ r := by
        rintro rfl
        exact hr hq
      rcases mem_append.mp hmem with hfl | hsend
      · exact mem_append_left _ hfl
      · exact mem_append_right _ (mem_eraseIdx_of_ne hi hsend hqr)

lemma respond_awaited (h : s.Awaited) {i : ℕ}
    (hG : HandsOn s (.complete i ok put)) (hstep : respond s i ok put = some s') : s'.Awaited := by
  simp only [respond, Option.map_eq_some_iff] at hstep
  obtain ⟨r, hi, rfl⟩ := hstep
  split_ifs with hdone
  · have hput := (hG r hi hdone.1).2
    exact pendingReqsDequeue_awaited (s := { s with inFlight := s.inFlight.eraseIdx i }) hput
  · have hr : ¬ r.Blocking := by
      intro hr
      exact hdone ⟨hr, (hG r hi hr).1⟩
    intro hwait
    rcases h hwait with hpre | ⟨q, hmem, hq⟩
    · exact Or.inl hpre
    · refine Or.inr ⟨q, ?_, hq⟩
      have hqr : q ≠ r := by
        rintro rfl
        exact hr hq
      rcases mem_append.mp hmem with hfl | hsend
      · exact mem_append_left _ (mem_eraseIdx_of_ne hi hfl hqr)
      · exact mem_append_right _ hsend

lemma sessionStep_awaited (h : s.Awaited) {e : SessionEvent} (hG : HandsOn s e)
    (hstep : sessionStep s e = some s') : s'.Awaited := by
  cases e with
  | submit packetType updateIv iv direct =>
    cases hstep
    exact sendCounted_awaited (s := s.countBy 1) h packetType updateIv iv direct
  | put i ok =>
    obtain ⟨s₁, hput, rfl⟩ := Option.map_eq_some_iff.mp hstep
    exact (putCounted_awaited h hG hput : s₁.Awaited)
  | complete i ok put =>
    obtain ⟨s₁, hrespond, rfl⟩ := Option.map_eq_some_iff.mp hstep
    exact (respond_awaited h hG hrespond : s₁.Awaited)
  | precompute created =>
    simp only [sessionStep, hashPrecompute] at hstep
    split_ifs at hstep with hpending
    cases hstep
    intro _
    refine Or.inl ?_
    rcases hG with hcreated | hpos
    · have hcount : 0 < created.count true := count_pos_iff.mpr hcreated
      simp only
      omega
    · simp only
      omega
  | precomputeDone put =>
    simp only [sessionStep, hashPrecomputeDone] at hstep
    split_ifs at hstep with hzero
    cases hstep
    exact pendingReqsDequeue_awaited (s := { s with precomputes := s.precomputes - 1 }) hG

end Steps

/-! ## Runs -/

/-- **Nobody waits for nothing:** a session with nothing in flight has an empty queue. -/
theorem session_blocked_of_queued {arc4 : Option Octets} {opState : Octets} {es : List SessionEvent} {s : Session}
    (hrun : Run (guarded HandsOn (ofFun sessionStep)) (sessionInit arc4 opState) es s) :
    (s.queue ≠ [] ∨ s.nonBlockingOpsInProgress = false → s.Blocked) ∧
      (s.precomputes = 0 → s.inFlight = [] → s.sending = [] → s.queue = []) := by
  have hinit : (sessionInit arc4 opState).Awaited := by
    rintro (hne | hclear)
    · exact absurd rfl hne
    · cases hclear
  have hawaited : s.Awaited := hrun.invariant (I := Session.Awaited)
    (fun _ _ _ hI hstep => sessionStep_awaited hI hstep.1 hstep.2) hinit
  refine ⟨hawaited, ?_⟩
  intro hpre hfl hsend
  by_contra hne
  rcases hawaited (Or.inl hne) with hpos | ⟨r, hmem, -⟩
  · omega
  · rw [hfl, hsend] at hmem
    cases hmem

/-- A full packet that is submitted behind a partial packet is queued, and the partial packet is in
flight. -/
theorem queued_behind_partial_blocked : ∃ s, Run (guarded HandsOn (ofFun sessionStep)) (sessionInit none [])
        [.submit .midPartial false [] true, .put 0 true, .submit .full false [] false] s ∧ s.queue ≠ [] ∧ s.Blocked := by
  apply Run.exists_and (.cons ⟨trivial, rfl⟩ (.cons ⟨Or.inl rfl, rfl⟩ (.single ⟨trivial, rfl⟩)))
  exact fun hrun => ⟨by decide, (session_blocked_of_queued hrun).1 (Or.inl (by decide))⟩

/-- **A queue that nobody empties:** the partial packet before it is answered with an error, as it is when the
digest does not verify. -/
theorem failed_partial_strands_queue : ∃ s, Run (ofFun sessionStep) (sessionInit none [])
        [.submit .lastPartial false [] true, .put 0 true, .submit .full false [] false,
          .complete 0 false fun _ _ => true] s ∧
      s.accepted = [0, 1] ∧ s.queue.map Request.id = [1] ∧ s.nonBlockingOpsInProgress = false ∧
      s.precomputes = 0 ∧ s.inFlight = [] ∧ s.sending = [] ∧ ¬ s.Blocked := by
  refine ⟨_, exec_run rfl, rfl, rfl, rfl, rfl, rfl, rfl, ?_⟩
  rintro (hpos | ⟨r, hmem, -⟩)
  · exact absurd hpos (Nat.lt_irrefl 0)
  · cases hmem

end QuickAssist.SymSession
