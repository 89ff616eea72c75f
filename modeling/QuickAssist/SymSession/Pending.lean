import QuickAssist.SymSession.LifeCycle

/-!
# What a session counts

`pendingCbCount` followed through every interleaving of calls, responses, updates and removals: it is the number of
requests accepted and not called back, and of those that are counted already or still, because a thread is between the
two. `pending_count_wrong` has a run for each of two slips, which `Minded` excludes:

* the request that is accepted by the ring at the last attempt only, which stays queued and is put again. It is
  answered twice, and the count lowered twice;
* a removal looks at the count without the lock that an update takes, and without a look at the readers. A call that is
  under way can be counted, and its request be sent, before the session is torn down.
-/

namespace QuickAssist.SymSession

open Lib List

/-! ## Emptying the queue -/

/-- What emptying the queue means for the count: requests go from the queue into flight, and nothing
else changes. -/
structure Hands (s s' : Session) : Prop where
  requests : s'.inFlight ++ s'.queue = s.inFlight ++ s.queue
  sending : s'.sending = s.sending
  nextId : s'.nextId = s.nextId
  accepted : s'.accepted = s.accepted
  pendingCbCount : s'.pendingCbCount = s.pendingCbCount

lemma hands_pendingReqsDequeue {s : Session} {put : ℕ → ℕ → Bool}
    (hput : ∀ h, h < s.queue.length → ¬ OnlyLast (put h)) : Hands s (pendingReqsDequeue s put).2 := by
  obtain ⟨new, hd⟩ := dequeueLoop_dequeued put s.queue 0 { s with nonBlockingOpsInProgress := true }
  have hmoves := dequeueLoop_moves put s.queue 0 { s with nonBlockingOpsInProgress := true } (by simpa using hput)
  rw [hd.putLog, append_assoc] at hmoves
  refine ⟨?_, hd.sending, hd.nextId, hd.accepted, hd.pendingCbCount⟩
  rw [pendingReqsDequeue, hd.inFlight, append_assoc]
  exact congrArg _ (append_cancel_left hmoves)

lemma LifeInv.hands {w : Life} (h : LifeInv w) {s' : Session} (hs : Hands w.session s') :
    LifeInv { w with session := s' } where
  readers := h.readers
  count := by
    simp only [Life.inBetween]
    rw [hs.requests, hs.sending, hs.pendingCbCount]
    exact h.count
  nodup := by
    rw [hs.sending, hs.accepted]
    exact h.nodup
  lt := by
    rw [hs.sending, hs.accepted, hs.nextId]
    exact h.lt
  accepted := by
    rw [hs.requests, hs.accepted]
    exact h.accepted
  lock hlock := by
    rw [hs.pendingCbCount]
    exact h.lock hlock
  removing hremoving := by
    rw [hs.pendingCbCount]
    exact h.removing hremoving
  removed := h.removed

/-! ## Steps keep the invariant -/

namespace LifeInv

variable {w w' : Life}

section

variable (h : LifeInv w) {i : ℕ} {ok : Bool}

include h

lemma of_count_zero (hzero : w.session.pendingCbCount = 0) :
    w.session.inFlight = [] ∧ w.session.queue = [] ∧ w.calling = [] ∧ w.inBetween = 0 := by
  have hcount := h.count
  have hsum : (w.session.inFlight ++ w.session.queue).length + w.calling.length + w.inBetween = 0 := by
    omega
  obtain ⟨hsum, hbetween⟩ := Nat.add_eq_zero_iff.1 hsum
  obtain ⟨hrequests, hcalling⟩ := Nat.add_eq_zero_iff.1 hsum
  obtain ⟨hflight, hqueue⟩ := append_eq_nil_iff.1 (length_eq_zero_iff.1 hrequests)
  exact ⟨hflight, hqueue, length_eq_zero_iff.1 hcalling, hbetween⟩

lemma enter (hstep : liveStep w .enter = some w') : LifeInv w' := by
  simp only [liveStep] at hstep
  split_ifs at hstep with hlock
  cases hstep
  have hreaders := h.readers
  exact { h with
    readers := by simp only; omega
    lock := fun hheld => absurd hheld hlock }

lemma giveUp (hstep : liveStep w .giveUp = some w') : LifeInv w' := by
  simp only [liveStep] at hstep
  split_ifs at hstep with hheld
  obtain ⟨hlock, hchecking⟩ := not_or.1 hheld
  cases hstep
  have hreaders := h.readers
  exact { h with
    readers := by simp only; omega
    lock := fun hheld => absurd hheld hlock }

lemma counting (hminded : Minded w .count) (hstep : liveStep w .count = some w') : LifeInv w' := by
  simp only [liveStep] at hstep
  split_ifs at hstep with hchecking
  cases hstep
  have hreaders := h.readers
  have hcount := h.count
  exact { h with
    readers := by simp only; omega
    count := by
      simp only [Life.inBetween] at hcount ⊢
      omega
    lock := fun hheld => by
      -- a call that is being counted is a reader
      have := (h.lock hheld).1
      omega
    removing := fun hremoving => by
      rw [hminded] at hremoving
      cases hremoving }

lemma leave (hstep : liveStep w .leave = some w') : LifeInv w' := by
  simp only [liveStep] at hstep
  split_ifs at hstep with hheld
  obtain ⟨hlock, hcounted⟩ := not_or.1 hheld
  cases hstep
  have hreaders := h.readers
  have hcount := h.count
  exact { h with
    readers := by simp only; omega
    count := by
      simp only [Life.inBetween] at hcount ⊢
      omega
    lock := fun hheld => absurd hheld hlock }

lemma lower (hstep : liveStep w .lower = some w') : LifeInv w' := by
  simp only [liveStep] at hstep
  split_ifs at hstep with hlowering
  cases hstep
  have hcount := h.count
  have hpositive : w.session.pendingCbCount ≠ 0 := by
    intro hzero
    have hbetween := (h.of_count_zero hzero).2.2.2
    simp only [Life.inBetween] at hbetween
    omega
  exact { h with
    count := by
      simp only [Life.inBetween] at hcount ⊢
      omega
    lock := fun hheld => absurd (h.lock hheld).2 hpositive
    removing := fun hremoving => absurd (h.removing hremoving) hpositive }

lemma send {packetType : PacketType} {updateIv direct : Bool} {iv : Octets}
    (hstep : liveStep w (.send packetType updateIv iv direct) = some w') : LifeInv w' := by
  simp only [liveStep] at hstep
  split_ifs at hstep with hunsent
  cases hstep
  have hcount := h.count
  -- the number of the call is new
  have hnew : w.session.nextId ∉ w.session.accepted ++ w.session.sending.map Request.id :=
    fun hmem => Nat.lt_irrefl _ (h.lt _ hmem)
  have hlt : ∀ a, a = w.session.nextId ∨
      a ∈ w.session.accepted ++ w.session.sending.map Request.id → a < w.session.nextId + 1 := by
    rintro a (rfl | ha)
    · exact Nat.lt_succ_self _
    · exact Nat.lt_succ_of_lt (h.lt a ha)
  by_cases hqueue : direct = false ∧ (w.session.nonBlockingOpsInProgress = false ∨ w.session.queue ≠ [])
  · simp only [sendCounted, if_pos hqueue]
    exact { h with
      count := by
        simp only [Life.inBetween, length_append, length_singleton] at hcount ⊢
        omega
      nodup := by
        rw [append_assoc]
        exact perm_middle.nodup_iff.2 (nodup_cons.2 ⟨hnew, h.nodup⟩)
      lt := by
        intro a ha
        apply hlt a
        simpa [append_assoc, or_comm, or_left_comm] using ha
      accepted := by
        simp only [map_append, map_cons, map_nil, ← append_assoc]
        apply List.Perm.append_right
        simpa only [map_append, append_assoc] using h.accepted }
  · simp only [sendCounted, if_neg hqueue]
    exact { h with
      count := by
        simp only [Life.inBetween, length_append, length_singleton, Session.clearToSend] at hcount ⊢
        omega
      nodup := by
        rw [map_append, ← append_assoc]
        exact (perm_append_singleton _ _).nodup_iff.2 (nodup_cons.2 ⟨hnew, h.nodup⟩)
      lt := by
        intro a ha
        apply hlt a
        simpa [Session.clearToSend, or_comm, or_left_comm, or_assoc] using ha }

lemma put (hstep : liveStep w (.put i ok) = some w') : LifeInv w' := by
  simp only [liveStep, putCounted, Option.map_map, Option.map_eq_some_iff] at hstep
  obtain ⟨r, hi, rfl⟩ := hstep
  have hcount := h.count
  have hperm := perm_cons_eraseIdx hi
  have hlength := hperm.length_eq
  have hids := hperm.map Request.id
  simp only [length_cons, map_cons] at hlength hids
  cases ok with
  | false =>
    have hsub : (w.session.accepted ++ (w.session.sending.eraseIdx i).map Request.id).Sublist
        (w.session.accepted ++ w.session.sending.map Request.id) :=
      ((eraseIdx_sublist ..).map _).append_left _
    exact { h with
      count := by
        simp only [Life.inBetween, Function.comp_apply, Bool.false_eq_true, if_false] at hcount ⊢
        omega
      nodup := h.nodup.sublist hsub
      lt := fun a ha => h.lt a (hsub.subset ha) }
  | true =>
    have hmoved : (w.session.accepted ++ w.session.sending.map Request.id).Perm
        ((w.session.accepted ++ [r.id]) ++ (w.session.sending.eraseIdx i).map Request.id) := by
      rw [append_assoc]
      exact hids.append_left _
    exact { h with
      count := by
        simp only [Life.inBetween, Function.comp_apply, if_true, Session.onRing,
          length_append, length_singleton] at hcount ⊢
        omega
      nodup := hmoved.nodup_iff.1 h.nodup
      lt := fun a ha => h.lt a (hmoved.mem_iff.2 ha)
      accepted := by
        simp only [Function.comp_apply, if_true, Session.onRing]
        have hlast := h.accepted.append_right [r.id]
        refine hlast.trans ?_
        simp only [map_append, map_cons, map_nil, append_assoc]
        apply List.Perm.append_left
        apply List.Perm.append_left
        apply List.Perm.append_left
        exact perm_append_comm }

lemma answered {r : Request} (hi : w.session.inFlight[i]? = some r) : LifeInv { w with
      session := { w.session with inFlight := w.session.inFlight.eraseIdx i }
      calling := w.calling ++ [r.id] } := by
  have hcount := h.count
  have hperm := perm_cons_eraseIdx hi
  have hlength := hperm.length_eq
  rw [length_cons] at hlength
  exact { h with
    count := by
      simp only [Life.inBetween, length_append, length_singleton] at hcount ⊢
      omega
    accepted := by
      refine h.accepted.trans ?_
      rw [append_assoc]
      apply List.Perm.append_left
      apply List.Perm.append_left
      exact (hperm.append_right w.session.queue).map Request.id }

lemma respond {put : ℕ → ℕ → Bool} (hminded : Minded w (.respond i ok put))
    (hstep : liveStep w (.respond i ok put) = some w') : LifeInv w' := by
  obtain ⟨r, hi, hstep⟩ := Option.bind_eq_some_iff.1 hstep
  obtain ⟨s, hs, hstep⟩ := Option.bind_eq_some_iff.1 hstep
  cases hstep
  simp only [SymSession.respond, hi, Option.map_some, Option.some.injEq] at hs
  split at hs
  next hdequeue =>
    have hhands := @hands_pendingReqsDequeue { w.session with inFlight := w.session.inFlight.eraseIdx i } put
      (hminded r hi hdequeue.1 hdequeue.2)
    rw [hs] at hhands
    exact (h.answered hi).hands hhands
  next =>
    rw [← hs]
    exact h.answered hi

lemma callBack (hstep : liveStep w (.callBack i) = some w') : LifeInv w' := by
  obtain ⟨a, hi, rfl⟩ := Option.map_eq_some_iff.1 hstep
  have hcount := h.count
  have hperm := perm_cons_eraseIdx hi
  have hlength := hperm.length_eq
  rw [length_cons] at hlength
  exact { h with
    count := by
      simp only [Life.inBetween] at hcount ⊢
      omega
    accepted := by
      refine h.accepted.trans ?_
      rw [append_assoc]
      apply List.Perm.append_left
      exact hperm.append_right _ }

lemma lockWriter (hstep : liveStep w .lockWriter = some w') : LifeInv w' := by
  simp only [liveStep] at hstep
  split_ifs at hstep with hfree
  cases hstep
  have hcount := h.count
  exact { h with
    lock := by
      intro _
      simp only
      omega }

lemma update {created : List Bool} (hstep : liveStep w (.update (some created)) = some w') : LifeInv w' := by
  simp only [liveStep] at hstep
  split_ifs at hstep
  obtain ⟨s, hs, rfl⟩ := Option.map_eq_some_iff.1 hstep
  simp only [hashPrecompute] at hs
  split_ifs at hs
  cases hs
  exact h.hands ⟨rfl, rfl, rfl, rfl, rfl⟩

lemma precomputeDone {put : ℕ → ℕ → Bool} (hminded : Minded w (.precomputeDone put))
    (hstep : liveStep w (.precomputeDone put) = some w') : LifeInv w' := by
  obtain ⟨s, hs, rfl⟩ := Option.map_eq_some_iff.1 hstep
  simp only [hashPrecomputeDone] at hs
  split_ifs at hs
  cases hs
  have hhands := @hands_pendingReqsDequeue { w.session with precomputes := w.session.precomputes - 1 } put hminded
  exact h.hands { hhands with }

/-- **Every step keeps the invariant.** -/
theorem step {e : LifeEvent} (hminded : Minded w e) (hstep : lifeStep w e = some w') : LifeInv w' := by
  simp only [lifeStep] at hstep
  split_ifs at hstep with hlive
  cases e with
  | enter => exact h.enter hstep
  | giveUp => exact h.giveUp hstep
  | count => exact h.counting hminded hstep
  | leave => exact h.leave hstep
  | send packetType updateIv iv direct => exact h.send hstep
  | put i ok => exact h.put hstep
  | respond i ok put => exact h.respond hminded hstep
  | callBack i => exact h.callBack hstep
  | lower => exact h.lower hstep
  | lockWriter => exact h.lockWriter hstep
  | update created =>
    cases created with
    | none =>
      simp only [liveStep] at hstep
      split_ifs at hstep
      cases hstep
      exact h
    | some created => exact h.update hstep
  | unlockWriter =>
    simp only [liveStep] at hstep
    split_ifs at hstep
    cases hstep
    exact { h with lock := fun hheld => nomatch hheld }
  | precomputeDone put => exact h.precomputeDone hminded hstep
  | checkPending =>
    simp only [liveStep] at hstep
    split at hstep
    next hzero =>
      cases hstep
      exact { h with removing := fun _ => hzero, removed := fun _ => rfl }
    · cases hstep
      exact h
  | destroy =>
    simp only [liveStep] at hstep
    split_ifs at hstep with hremoving
    cases hstep
    exact { h with removed := fun _ => hremoving }

end

end LifeInv

/-! ## The result -/

lemma LifeInv.none_outstanding {w : Life} (h : LifeInv w) (hzero : w.session.pendingCbCount = 0) :
    w.outstanding = 0 ∧ w.inBetween = 0 := by
  have hcount := h.count_eq
  omega

/-- **The life cycle of a session.** The count is that of the requests accepted and not called back, and of
those in between; the lock and the removal find none. -/
theorem session_life_cycle {arc4 : Option Octets} {opState : Octets}
    {es : List LifeEvent} {w : Life} (hrun : Run (guarded Minded (ofFun lifeStep)) (lifeInit arc4 opState) es w) :
    w.session.pendingCbCount = (w.outstanding + w.inBetween : ℕ) ∧
      (w.accessLock = true → w.outstanding = 0 ∧ w.inBetween = 0) ∧
      (w.removed = true → w.outstanding = 0 ∧ w.inBetween = 0) := by
  have h : LifeInv w := hrun.invariant (fun _ _ _ hs hstep => hs.step hstep.1 hstep.2) (lifeInv_lifeInit arc4 opState)
  refine ⟨h.count_eq, ?_, ?_⟩
  · exact fun hlock => h.none_outstanding (h.lock hlock).2
  · exact fun hremoved => h.none_outstanding (h.removing (h.removed hremoved))

def submission (packetType : PacketType) : List LifeEvent := [.enter, .count, .leave, .send packetType false [] false]

/-- A request is sent, answered and called back, the session is updated and then removed. -/
theorem one_request_life_cycle : ∃ w, Run (guarded Minded (ofFun lifeStep)) (lifeInit none [])
      (submission .full ++ [.put 0 true, .respond 0 true fun _ _ => true, .callBack 0, .lower,
        .lockWriter, .update none, .unlockWriter, .checkPending, .destroy]) w ∧
    w.session.accepted = [0] ∧ w.calledBack = [0] ∧ w.removed = true ∧ w.outstanding = 0 := by
  have hfull : ∀ r, some (⟨0, .full, false, [], []⟩ : Request) = some r → ¬ r.Blocking := by
    rintro r ⟨⟩ hr
    exact hr rfl
  apply Run.exists_and
  · apply Run.cons ⟨trivial, rfl⟩
    apply Run.cons ⟨rfl, rfl⟩
    iterate 3 apply Run.cons ⟨trivial, rfl⟩
    apply Run.cons ⟨fun r hr hb => absurd hb (hfull r hr), rfl⟩
    iterate 6 apply Run.cons ⟨trivial, rfl⟩
    exact Run.single ⟨trivial, rfl⟩
  · exact fun hrun => ⟨rfl, rfl, rfl, ((session_life_cycle hrun).2.2 rfl).1⟩

/-! ## The defects -/

def twoParts : Life :=
  { lifeInit none [] with
    session :=
      { sessionInit none [] with
        nonBlockingOpsInProgress := false
        queue := [⟨1, .lastPartial, false, [], [0]⟩]
        pendingCbCount := 2
        inFlight := [⟨0, .midPartial, false, [], []⟩]
        nextId := 2
        accepted := [0, 1]
        putLog := [⟨0, .midPartial, false, [], []⟩] } }

def putAtLast : Life :=
  { twoParts with
    session :=
      { twoParts.session with
        inFlight := [⟨1, .lastPartial, false, [], [0]⟩]
        putLog := [⟨0, .midPartial, false, [], []⟩, ⟨1, .lastPartial, false, [], [0]⟩] }
    calling := [0] }

lemma twoParts_respond {put : ℕ → ℕ → Bool} (hput : OnlyLast (put 0)) :
    lifeStep twoParts (.respond 0 true put) = some putAtLast := by
  have hloop : dequeueLoop put twoParts.session.queue 0
      { twoParts.session with nonBlockingOpsInProgress := true, inFlight := [] } = (true, putAtLast.session) :=
    dequeueLoop_of_onlyLast rfl hput
  have hrespond : respond twoParts.session 0 true put = some putAtLast.session :=
    congrArg (fun p : Bool × Session => some p.2) hloop
  simp only [lifeStep, liveStep, hrespond]
  rfl

/-- **Counts that are wrong:** a partial packet that is put again ends at -1, and a session is torn down under a
call that was not yet counted. -/
theorem pending_count_wrong : (∃ w, Run (ofFun lifeStep) (lifeInit none [])
        (submission .midPartial ++ [.put 0 true] ++ submission .lastPartial ++
          [.respond 0 true fun _ k => decide (9999 ≤ k), .callBack 0, .lower,
            .respond 0 true fun _ _ => true, .callBack 0, .lower,
            .respond 0 true fun _ _ => true, .callBack 0, .lower]) w ∧
      w.session.pendingCbCount = -1 ∧ w.outstanding = 0 ∧ w.inBetween = 0) ∧
    ∃ w, Run (ofFun lifeStep) (lifeInit none [])
        [.enter, .checkPending, .count, .leave, .send .full false [] false, .put 0 true, .destroy] w ∧
      w.removed = true ∧ w.session.pendingCbCount = 1 ∧ w.outstanding = 1 := by
  refine ⟨⟨_, Run.append (exec_run (t := twoParts) rfl)
    (Run.cons (twoParts_respond onlyLast_last) (exec_run rfl)), rfl, rfl, rfl⟩, ?_⟩
  exact ⟨_, exec_run rfl, rfl, rfl, rfl⟩

end QuickAssist.SymSession
