import QuickAssist.Dc.Packets

/-!
# A session that was reset

What can be seen of a session are the statuses its calls return, the messages it sends, the state registers it gives
the device, the checksums of requests without data, the requests that responses are taken to answer, and the total
that `cpaDcGenerateFooter` writes. `reset_as_fresh` says when all of this is after a reset as if the session were new.

**The defects.** The flags `isSopForCompressionProcessed` and `isSopForDecompressionProcessed` are not reset, and so
the first request of a second direction does not start a packet. A session of the data-plane interface keeps its
total.
-/

namespace QuickAssist.Dc

open Lib List Option

variable {svc : Service} {s t : Session} {P : Prop} {dir : RequestDir} {state : ServiceState} {r : Request}

/-! ## What can be seen -/

/-- What can be seen of one step. -/
structure Output where
  status : Option Status := none
  checksum : Option U32 := none
  message : Option Message := none
  /-- The registers that the message of a stateful session has the address of. -/
  stateRegisters : Option Octets := none
  /-- What is answered; the results are made from this, the response and the setup. -/
  answered : Option Request := none

/-- What a call shows when it returns. -/
def Entry.output (s : Session) : Entry → Output
  | .returned status _ =>
    { status := status
      checksum :=
        if s.desc.sessState = .stateful then
          some (if s.requestType = .first then s.desc.initialChecksum else s.previousChecksum)
        else none }
  | .admitted _ _ => { }

def enqueueStatus : Except Status Session → Status
  | .error status => status
  | .ok _ => .success

/-- What an event shows. -/
def output (svc : Service) (w : Flow) : Event → Output
  | .compressData state op => (cpaDcCompressData svc state w.session op).output w.session
  | .compressData2 state op => (cpaDcCompressData2 svc state w.session op).output w.session
  | .decompressData state op => (cpaDcDecompressData svc state w.session op).output w.session
  | .prepare i res =>
    let r := made svc w.toState (.prepare i res)
    { status := w.admitted[i]?.map fun r => (prepare svc w.session r res).1
      message := r.map (requestMessage w.session w.sopProcessed)
      stateRegisters :=
        if w.session.desc.sessState = .stateful then r.map fun r => w.session.stateRegisters r.compDecomp
        else none }
  | .send _ put => { status := put }
  | .enqueueOp state op room => { status := enqueueStatus (cpaDcDpEnqueueOp svc state w.session op room) }
  | .enqueueOpBatch state ops room => { status := enqueueStatus (cpaDcDpEnqueueOpBatch svc state w.session ops room) }
  | .respond i _ => { answered := w.inFlight[i]? }
  | .reset state q => { status := (cpaDcResetSession state q w.session).1 }
  | .remove state q => { status := (cpaDcRemoveSession state q w.session).1 }

/-- What can be seen of some steps, with the total after them. An event about a request that does not exist is
no step. -/
def observe (svc : Service) : Flow → List Event → List Output × U64
  | w, [] => ([], w.session.cumulativeConsumedBytes)
  | w, e :: es =>
    match flowStep svc w e with
    | none => observe svc w es
    | some w' => (output svc w e :: (observe svc w' es).1, (observe svc w' es).2)

/-! ## Sessions that look alike -/

/-- Nothing that can be seen tells the sessions apart; `P` says that the previous type may be put back. -/
inductive Session.Alike (P : Prop) (s : Session) : Session → Prop
  | intro {type previous : RequestType} {checksum : U32} {registers : RequestDir → Octets}
      {lock : Bool} :
      (s.desc.isDcDp = false → type = s.requestType ∧ checksum = s.previousChecksum) →
      (s.desc.sessState = .stateful → registers = s.stateRegisters) →
      (P → s.desc.sessState = .stateful → previous = s.previousRequestType) →
      Alike P s
        { s with
          requestType := type, previousRequestType := previous, previousChecksum := checksum
          stateRegisters := registers, sessionLock := lock }

section

variable (h : s.Alike P t)

include h

lemma Session.Alike.mono {Q : Prop} (hQ : Q → P) : s.Alike Q t := by
  obtain ⟨htype, hregs, hprev⟩ := h
  exact .intro htype hregs fun hq => hprev (hQ hq)

lemma Session.Alike.type (hdp : s.desc.isDcDp = false) : t.requestType = s.requestType := by
  obtain ⟨htype, -, -⟩ := h
  exact (htype hdp).1

lemma Session.Alike.registers (hstate : s.desc.sessState = .stateful) : t.stateRegisters = s.stateRegisters := by
  obtain ⟨-, hregs, -⟩ := h
  exact hregs hstate

lemma Session.Alike.consumed : t.cumulativeConsumedBytes = s.cumulativeConsumedBytes := by
  cases h
  rfl

lemma Session.Alike.desc : t.desc = s.desc := by
  cases h
  rfl

lemma Session.Alike.ite {C : Prop} [Decidable C] {s' t' : Session} (h' : s'.Alike P t') :
    (if C then s else s').Alike P (if C then t else t') := by
  split
  · exact h
  · exact h'

/-- Two outcomes of calls that find sessions alike, the first of which finds `s`. -/
inductive Entry.Alike (P : Prop) (s : Session) : Entry → Entry → Prop
  | returned (status : Status) {s' t' : Session} : s'.Alike P t' → s'.desc = s.desc →
      s'.requestType = s.requestType → Entry.Alike P s (.returned status s') (.returned status t')
  | admitted (r : Request) {s' t' : Session} : s.desc.isDcDp = false → s.desc.Does r.compDecomp →
      s'.Alike P t' → s'.desc = s.desc → s'.requestType = s.requestType →
      Entry.Alike P s (.admitted s' r) (.admitted t' r)

lemma Session.Alike.statefulEntry (hdp : s.desc.isDcDp = false)
    (hdoes : s.desc.Does r.compDecomp) (z : Bool) : Entry.Alike P s (statefulEntry s r z) (statefulEntry t r z) := by
  obtain ⟨htype, hregs, hprev⟩ := h
  obtain ⟨rfl, rfl⟩ := htype hdp
  unfold Dc.statefulEntry dcZeroLengthRequests
  by_cases hstate : s.desc.sessState = .stateful
  · simp only [if_pos hstate]
    split
    · exact .returned _ (.intro htype hregs hprev) rfl rfl
    · cases z
      · exact .admitted _ hdp hdoes (.intro htype hregs hprev) rfl rfl
      · simp only [if_true]
        split_ifs
        · exact .returned _ (.intro htype hregs hprev) rfl rfl
        · exact .returned _ (.intro htype hregs hprev) rfl rfl
        · exact .admitted _ hdp hdoes (.intro htype hregs hprev) rfl rfl
  · simp only [if_neg hstate]
    exact .admitted _ hdp hdoes (.intro htype hregs hprev) rfl rfl

omit h in
lemma Entry.Alike.output_eq {a b : Entry} (he : Entry.Alike P s a b) (h : s.Alike P t) : b.output t = a.output s := by
  obtain ⟨htype, -, -⟩ := h
  cases he with
  | returned status =>
    by_cases hstate : s.desc.sessState = .stateful
    · obtain ⟨rfl, rfl⟩ := htype (isDcDp_of_stateful hstate)
      rfl
    · simp only [Entry.output, if_neg hstate]
  | admitted r => rfl

lemma Session.Alike.errorExit : s.errorExit.Alike P t.errorExit := by
  obtain ⟨htype, hregs, hprev⟩ := h
  unfold Session.errorExit
  split_ifs
  all_goals exact .intro htype hregs hprev

lemma Session.Alike.dcCreateRequest (hdp : s.desc.isDcDp = false) (r : Request) :
    (dcCreateRequest s r).Alike True (dcCreateRequest t r) := by
  obtain ⟨htype, hregs, -⟩ := h
  obtain ⟨rfl, rfl⟩ := htype hdp
  refine .intro (fun _ => ⟨rfl, rfl⟩) hregs fun _ hstate => ?_
  have hstate : s.desc.sessState = .stateful := hstate
  simp only [Dc.dcCreateRequest, if_pos hstate]

end

lemma errorExit_keeps (s : Session) : s.errorExit.desc = s.desc ∧ s.errorExit.requestType = s.requestType := by
  unfold Session.errorExit
  split_ifs <;> exact ⟨rfl, rfl⟩

lemma Session.Alike.prepare (svc : Service) (h : s.Alike P t) (hdp : s.desc.isDcDp = false) (r : Request)
    (res : Resources) : (prepare svc t r res).1 = (prepare svc s r res).1 ∧ (prepare svc s r res).2.desc = s.desc ∧
      ((prepare svc s r res).1 = .success ∧ (prepare svc s r res).2.Alike True (prepare svc t r res).2 ∨
        (prepare svc s r res).1 ≠ .success ∧ (prepare svc s r res).2.Alike P (prepare svc t r res).2 ∧
          (prepare svc s r res).2.requestType = s.requestType) := by
  have hmade := h.dcCreateRequest hdp r
  obtain ⟨hdesc, htype⟩ := errorExit_keeps s
  unfold Dc.prepare
  rw [h.desc]
  split
  · next hlzs => exact ⟨rfl, rfl, Or.inr ⟨(checkLzsSupport_error hlzs).1, h, rfl⟩⟩
  · split_ifs with hsync
    · exact ⟨rfl, rfl, Or.inr ⟨hsync.2, h, rfl⟩⟩
    · exact ⟨rfl, hdesc, Or.inr ⟨nofun, h.errorExit, htype⟩⟩
    · exact ⟨rfl, hdesc, Or.inr ⟨nofun, h.errorExit, htype⟩⟩
    · refine ⟨rfl, by dsimp only; split_ifs <;> rfl, Or.inl ⟨rfl, ?_⟩⟩
      generalize Dc.dcCreateRequest t r = t' at *
      obtain ⟨htype, hregs, hprev⟩ := hmade
      dsimp only
      split_ifs
      all_goals exact .intro htype hregs hprev

lemma Session.Alike.send (h : s.Alike True t) (put : Status) : (send s put).Alike True (send t put) := by
  unfold Dc.send
  rw [h.desc]
  split_ifs with hput hretry
  · exact h
  · refine Session.Alike.errorExit ?_
    obtain ⟨htype, hregs, hprev⟩ := h
    obtain rfl := hprev trivial hretry.1
    exact .intro (fun hdp => ⟨rfl, (htype hdp).2⟩) hregs hprev
  · exact h.errorExit

section

variable (h : s.Alike P t)

include h

lemma Session.Alike.responded (r : Request) (resp : Response) : (s.responded r resp).Alike P (t.responded r resp) := by
  obtain ⟨htype, hregs, hprev⟩ := h
  have hregs' (hstate : s.desc.sessState = .stateful) := congrArg (fun registers =>
    if s.desc.sessState = .stateful then
      fun dir => if dir = r.compDecomp then resp.stateRegisters else registers dir
    else registers) (hregs hstate)
  have htype' (type' : RequestType) (hdp : s.desc.isDcDp = false) :=
    congrArg (if s.desc.isDcDp = true then · else type') (htype hdp).1
  refine Session.Alike.ite ?_ ?_
  · exact .intro (fun hdp => ⟨htype' _ hdp, rfl⟩) hregs' hprev
  · exact .intro (fun hdp => ⟨htype' _ hdp, (htype hdp).2⟩) hregs' hprev

lemma Session.Alike.processCallback (r : Request) (resp : Response) :
    (processCallback s r resp).Alike P (processCallback t r resp) := by
  have hresponded := h.responded r resp
  unfold Dc.processCallback
  dsimp only
  generalize t.responded r resp = t' at *
  split
  · exact h
  · obtain ⟨htype, hregs, hprev⟩ := hresponded
    split_ifs
    all_goals exact .intro htype hregs hprev

lemma Session.Alike.clearCounters : s.clearCounters.Alike P t.clearCounters := by
  obtain ⟨htype, hregs, hprev⟩ := h
  refine .intro htype (fun hstate => ?_) hprev
  have hstate : s.desc.sessState = .stateful := hstate
  simp only [Session.clearCounters, if_pos hstate]

lemma Session.Alike.cpaDcResetSession (state : ServiceState) (q : Bool) :
    (cpaDcResetSession state q t).1 = (cpaDcResetSession state q s).1 ∧
      (cpaDcResetSession state q s).2.Alike P (cpaDcResetSession state q t).2 := by
  have hclear := h.clearCounters
  obtain ⟨htype, hregs, hprev⟩ := h
  unfold Dc.cpaDcResetSession
  split
  · exact ⟨rfl, .intro htype hregs hprev⟩
  · by_cases hdp : s.desc.isDcDp = true
    · simp only [if_pos hdp]
      split
      · exact ⟨rfl, .intro htype hregs hprev⟩
      · exact ⟨rfl, hclear⟩
    · simp only [if_neg hdp]
      refine ⟨rfl, Session.Alike.clearCounters ?_⟩
      exact .intro (fun _ => ⟨rfl, rfl⟩) hregs hprev

lemma Session.Alike.cpaDcRemoveSession (state : ServiceState) (q : Bool) :
    (cpaDcRemoveSession state q t).1 = (cpaDcRemoveSession state q s).1 ∧
      (cpaDcRemoveSession state q s).2.Alike P (cpaDcRemoveSession state q t).2 := by
  obtain ⟨l, hl⟩ := cpaDcRemoveSession_eq state q s
  obtain ⟨l', hl'⟩ := cpaDcRemoveSession_eq state q t
  rw [hl, hl']
  obtain ⟨htype, hregs, hprev⟩ := h
  refine ⟨?_, .intro htype hregs hprev⟩
  cases state with
  | running =>
    simp only [Dc.cpaDcRemoveSession, salRunningCheck, apply_ite Prod.fst]
    rfl
  | _ => rfl

end

lemma exists_enqueueOp (svc : Service) (state : ServiceState) (d : SessionDesc) (op : DpOpData) (room : Bool) :
    ∃ check : Except Status Unit, ∀ s : Session, s.desc = d → cpaDcDpEnqueueOp svc state s op room =
      check >>= fun _ => .ok { s with pendingDpStatelessCbCount := s.pendingDpStatelessCbCount + 1 } := by
  refine ⟨do
    dcDataPlaneParamCheck svc d op
    salRunningCheck state
    checkLzsSupport svc d.compType op.compressAndVerify op.sessDirection
    dcDpDirectionCheck d op
    refuse .retry (room = false), ?_⟩
  rintro s rfl
  simp [cpaDcDpEnqueueOp]

lemma exists_enqueueOpBatch (svc : Service) (state : ServiceState) (d : SessionDesc) (ops : List DpOpData)
    (room : Bool) :
    ∃ check : Except Status Unit, ∀ s : Session, s.desc = d → cpaDcDpEnqueueOpBatch svc state s ops room =
      check >>= fun _ => .ok { s with pendingDpStatelessCbCount := s.pendingDpStatelessCbCount + ops.length } := by
  refine ⟨do
    refuse .invalidParam (ops.length = 0 ∨ svc.maxNumCompConcurrentReq < ops.length)
    ops.forM (dcDataPlaneParamCheck svc d)
    ops.forM fun op => checkLzsSupport svc d.compType op.compressAndVerify op.sessDirection
    salRunningCheck state
    ops.forM (dcDpDirectionCheck d)
    refuse .retry (room = false), ?_⟩
  rintro s rfl
  simp [cpaDcDpEnqueueOpBatch]

/-! ## Flows that look alike -/

/-- The only direction has begun no packet. -/
def Flow.Unstarted (w : Flow) : Prop :=
  w.session.desc.sessDirection ≠ .combined ∧ w.session.requestType = .first ∧ w.sending = [] ∧ w.inFlight = []

/-- No event tells the flows apart. -/
structure Flow.Alike (w v : Flow) : Prop where
  session : w.session.Alike (w.sending ≠ []) v.session
  admitted : v.admitted = w.admitted
  sending : v.sending = w.sending
  inFlight : v.inFlight = w.inFlight
  does : ∀ r, r ∈ w.admitted ∨ r ∈ w.sending → w.session.desc.isDcDp = false ∧ w.session.desc.Does r.compDecomp
  flags : w.session.desc.sessState = .stateful →
    (∀ dir, w.session.desc.Does dir → v.sopProcessed dir = w.sopProcessed dir) ∨ w.Unstarted

/-- An event shows the same and leaves flows alike. -/
def SameStep (svc : Service) (w v : Flow) (e : Event) : Prop :=
  output svc v e = output svc w e ∧ Option.Rel Flow.Alike (flowStep svc w e) (flowStep svc v e)

lemma SessionDesc.Does.eq {d : SessionDesc} {dir' : RequestDir} (hd : d.sessDirection ≠ .combined)
    (h : d.Does dir) (h' : d.Does dir') : dir' = dir := by
  cases dir <;> cases dir' <;> cases hdir : d.sessDirection <;> simp_all [SessionDesc.Does]

lemma send_desc (s : Session) (put : Status) : (send s put).desc = s.desc := by
  simp [send, Session.errorExit, apply_ite Session.desc]

lemma cpaDcResetSession_keeps (state : ServiceState) (q : Bool) (s : Session) :
    (cpaDcResetSession state q s).2.desc = s.desc ∧
      (s.requestType = .first → (cpaDcResetSession state q s).2.requestType = .first) := by
  unfold cpaDcResetSession
  split
  · exact ⟨rfl, id⟩
  · split
    · split
      all_goals exact ⟨rfl, id⟩
    · exact ⟨rfl, fun _ => rfl⟩

/-- A session that was reset looks like a new one. -/
lemma alike_newSession {q : Bool} (hreset : (cpaDcResetSession state q s).1 = .success)
    (hconsumed : s.desc.isDcDp = true → s.cumulativeConsumedBytes = 0) :
    (cpaDcResetSession state q s).2.Alike False s.desc.newSession ∧
      (s.desc.sessState = .stateful → (cpaDcResetSession state q s).2.requestType = .first) := by
  unfold cpaDcResetSession at hreset ⊢
  split at hreset
  · next hstate => cases state <;> cases hstate <;> cases hreset
  · by_cases hdp : s.desc.isDcDp = true
    · have hstate : ¬ s.desc.sessState = .stateful := by simp [s.desc.stateless_of_dp hdp]
      have hsession : s.desc.newSession = { s.clearCounters with
          requestType := .first, previousRequestType := .first, previousChecksum := s.desc.initialChecksum
          stateRegisters := zeroRegisters, sessionLock := s.desc.sessState = .stateful } := by
        simp [SessionDesc.newSession, Session.clearCounters, hconsumed hdp]
      simp only [if_pos hdp] at hreset ⊢
      split_ifs at hreset with hno
      rw [if_neg hno, hsession]
      exact ⟨.intro (fun h => absurd (hdp.symm.trans h) nofun) (fun h => absurd h hstate) False.elim,
        fun h => absurd h hstate⟩
    · simp only [if_neg hdp]
      refine ⟨.intro (fun _ => ⟨rfl, rfl⟩) (fun hstate => ?_) False.elim, fun _ => rfl⟩
      have hstate : s.desc.sessState = .stateful := hstate
      simp only [Session.clearCounters, if_pos hstate]

section

variable {w v : Flow}

section

variable (h : w.Alike v) {e : Event}

include h

lemma Flow.Alike.call {f : Session → Entry}
    (hcalls : Calls w.session.desc dir f) (hout : ∀ w, output svc w e = (f w.session).output w.session)
    (hstep : ∀ w, flowStep svc w e = some { w with toState := w.enter (f w.session) }) : SameStep svc w v e := by
  have hentry : Entry.Alike (w.sending ≠ []) w.session (f w.session) (f v.session) := by
    cases hcalls with
    | refused status hf =>
      rw [hf w.session rfl, hf v.session h.session.desc]
      exact .returned status h.session rfl rfl
    | entered r z hdir hdp hdoes hf =>
      rw [hf w.session rfl, hf v.session h.session.desc]
      exact h.session.statefulEntry hdp (hdir ▸ hdoes) z
  refine ⟨by rw [hout, hout, hentry.output_eq h.session], ?_⟩
  rw [hstep, hstep]
  refine .some ?_
  generalize f w.session = a at *
  generalize f v.session = b at *
  cases hentry with
  | returned status hs hdesc htype =>
    refine ⟨hs, h.admitted, h.sending, h.inFlight, ?_, ?_⟩
    · simpa only [State.enter, hdesc] using h.does
    · simpa only [State.enter, hdesc, htype, Flow.Unstarted] using h.flags
  | admitted r hdp hdoes hs hdesc htype =>
    refine ⟨hs, ?_, h.sending, h.inFlight, ?_, ?_⟩
    · simp only [State.enter, h.admitted]
    · simp only [State.enter, hdesc, mem_append, mem_singleton]
      rintro r' ((hr' | rfl) | hr')
      exacts [h.does r' (Or.inl hr'), ⟨hdp, hdoes⟩, h.does r' (Or.inr hr')]
    · simpa only [State.enter, hdesc, htype, Flow.Unstarted] using h.flags

lemma Flow.Alike.requestMessage_eq (hr : r ∈ w.admitted) :
    requestMessage v.session v.sopProcessed r = requestMessage w.session w.sopProcessed r := by
  obtain ⟨hdp, hdoes⟩ := h.does r (Or.inl hr)
  have hsop : w.session.desc.sessState = .stateful → w.session.requestType ≠ .first →
      v.sopProcessed r.compDecomp = w.sopProcessed r.compDecomp := by
    intro hstate htype
    rcases h.flags hstate with hflags | hun
    · exact hflags _ hdoes
    · exact absurd hun.2.1 htype
  have htype : v.session.requestType = w.session.requestType := h.session.type hdp
  unfold requestMessage
  rw [htype, h.session.desc]
  by_cases hstate : w.session.desc.sessState = .stateful
  · by_cases hfirst : w.session.requestType = .first
    · simp [hfirst]
    · rw [hsop hstate hfirst]
  · rcases hstateless : w.session.desc.sessState with _ | _
    · exact absurd hstateless hstate
    · simp

lemma Flow.Alike.processSop_eq (hr : r ∈ w.admitted)
    (hstate : w.session.desc.sessState = .stateful) (hdir : w.session.desc.Does dir) :
    processSop w.session.desc v.sopProcessed r dir = processSop w.session.desc w.sopProcessed r dir := by
  simp only [processSop, if_pos hstate]
  by_cases heq : dir = r.compDecomp
  · rw [heq, Function.update_self, Function.update_self]
  · rw [Function.update_of_ne heq, Function.update_of_ne heq]
    rcases h.flags hstate with hflags | hun
    · exact hflags dir hdir
    · exact absurd (SessionDesc.Does.eq hun.1 (h.does r (Or.inl hr)).2 hdir) heq

lemma Flow.Alike.prepare (i : ℕ) (res : Resources) : SameStep svc w v (.prepare i res) := by
  simp only [SameStep, output, flowStep, Dc.step, made, h.admitted, h.session.desc]
  rcases hi : w.admitted[i]? with _ | r
  · exact ⟨rfl, .none⟩
  · have hr : r ∈ w.admitted := mem_of_getElem? hi
    obtain ⟨hdp, hdoes⟩ := h.does r (Or.inl hr)
    obtain ⟨hstatus, hdesc, hcase⟩ := h.session.prepare svc hdp r res
    simp only [Option.filter, map_some, hstatus]
    rcases hcase with ⟨hok, hs⟩ | ⟨hfail, hs, htype⟩
    · simp only [hok, decide_true, if_true, map_some, elim_some, h.requestMessage_eq hr]
      refine ⟨?_, .some ⟨hs.mono fun _ => trivial, rfl, by rw [h.sending], h.inFlight, ?_, ?_⟩⟩
      · by_cases hstate : w.session.desc.sessState = .stateful
        · rw [h.session.registers hstate]
        · simp only [if_neg hstate]
      · rw [hdesc]
        simp only [mem_append, mem_singleton]
        rintro r' (hr' | hr' | rfl)
        exacts [h.does r' (Or.inl (mem_of_mem_eraseIdx hr')), h.does r' (Or.inr hr'), ⟨hdp, hdoes⟩]
      · rw [hdesc]
        exact fun hstate => Or.inl fun dir hdir => h.processSop_eq hr hstate hdir
    · simp only [hfail, decide_false, Bool.false_eq_true, if_false, map_none, elim_none, true_and]
      refine .some ⟨hs, rfl, h.sending, h.inFlight, ?_, ?_⟩
      · rw [hdesc]
        exact fun r' hr' => h.does r' (hr'.imp_left mem_of_mem_eraseIdx)
      · simpa only [hdesc, htype, Flow.Unstarted] using h.flags

lemma Flow.Alike.send (i : ℕ) (put : Status) : SameStep svc w v (.send i put) := by
  refine ⟨rfl, ?_⟩
  simp only [flowStep, Dc.step, h.sending, made, Option.elim]
  rcases hi : w.sending[i]? with _ | r
  · exact .none
  · have hmem : r ∈ w.sending := mem_of_getElem? hi
    have hsession := (h.session.mono fun _ => ne_nil_of_mem hmem).send put
    refine .some ⟨hsession.mono fun _ => trivial, h.admitted, rfl, by simp only [h.inFlight], ?_, ?_⟩
    · rw [send_desc]
      exact fun r' hr' => h.does r' (hr'.imp_right mem_of_mem_eraseIdx)
    · rw [send_desc]
      intro hstate
      refine (h.flags hstate).imp_right fun hun => ?_
      rw [hun.2.2.1] at hmem
      cases hmem

lemma Flow.Alike.respond (i : ℕ) (resp : Response) : SameStep svc w v (.respond i resp) := by
  refine ⟨by simp only [output, h.inFlight], ?_⟩
  simp only [flowStep, Dc.step, h.inFlight, made, Option.elim]
  rcases hi : w.inFlight[i]? with _ | r
  · exact .none
  · have hmem : r ∈ w.inFlight := mem_of_getElem? hi
    refine .some ⟨h.session.processCallback r resp, h.admitted, h.sending, rfl, ?_, ?_⟩
    · rw [processCallback_desc]
      exact h.does
    · rw [processCallback_desc]
      intro hstate
      refine (h.flags hstate).imp_right fun hun => ?_
      rw [hun.2.2.2] at hmem
      cases hmem

lemma Flow.Alike.enqueue {ops : List DpOpData} {check : Except Status Unit} {f : Session → Except Status Session}
    (hf : ∀ s : Session, s.desc = w.session.desc → f s = check >>= fun _ =>
      .ok { s with pendingDpStatelessCbCount := s.pendingDpStatelessCbCount + ops.length })
    (hdp : ∀ s', f w.session = .ok s' → w.session.desc.isDcDp = true)
    (hout : ∀ w, output svc w e = { status := enqueueStatus (f w.session) })
    (hstep : ∀ w, flowStep svc w e = some { w with toState := w.enqueued ops (f w.session) }) :
    SameStep svc w v e := by
  have hw := hf w.session rfl
  have hv := hf v.session h.session.desc
  rcases check with status | _
  · refine ⟨by rw [hout, hout, hw, hv]; rfl, ?_⟩
    rw [hstep, hstep, hw, hv]
    exact .some { h with }
  · refine ⟨by rw [hout, hout, hw, hv]; rfl, ?_⟩
    rw [hstep, hstep, hw, hv]
    refine .some ⟨?_, h.admitted, h.sending, ?_, h.does, ?_⟩
    · have hs := h.session
      generalize v.session = t at *
      obtain ⟨htype, hregs, hprev⟩ := hs
      exact .intro htype hregs hprev
    · show v.inFlight ++ _ = w.inFlight ++ _
      rw [h.inFlight, h.session.desc]
    · intro hstate
      exact absurd ((hdp _ hw).symm.trans (isDcDp_of_stateful hstate)) nofun

end

/-- **One step** of flows that look alike. -/
theorem Flow.Alike.step (svc : Service) (h : w.Alike v) (e : Event) : SameStep svc w v e := by
  cases e with
  | compressData state op => exact h.call (calls_cpaDcCompressData svc state op _) (fun _ => rfl) fun _ => rfl
  | compressData2 state op => exact h.call (calls_cpaDcCompressData2 svc state op _) (fun _ => rfl) fun _ => rfl
  | decompressData state op => exact h.call (calls_cpaDcDecompressData svc state op _) (fun _ => rfl) fun _ => rfl
  | prepare i res => exact h.prepare i res
  | send i put => exact h.send i put
  | enqueueOp state op room =>
    obtain ⟨check, hcheck⟩ := exists_enqueueOp svc state w.session.desc op room
    exact @Flow.Alike.enqueue svc _ _ h _ [op] _ _ hcheck (fun _ hok => (cpaDcDpEnqueueOp_moves hok).1)
      (fun _ => rfl) fun _ => rfl
  | enqueueOpBatch state ops room =>
    obtain ⟨check, hcheck⟩ := exists_enqueueOpBatch svc state w.session.desc ops room
    exact h.enqueue hcheck (fun _ hok => (cpaDcDpEnqueueOpBatch_moves hok).1) (fun _ => rfl) fun _ => rfl
  | respond i resp => exact h.respond i resp
  | reset state q =>
    obtain ⟨hstatus, hs⟩ := h.session.cpaDcResetSession state q
    obtain ⟨hdesc, htype⟩ := cpaDcResetSession_keeps state q w.session
    refine ⟨by simp only [output, hstatus], .some ⟨hs, h.admitted, h.sending, h.inFlight, ?_, ?_⟩⟩
    · rw [hdesc]
      exact h.does
    · rw [hdesc]
      intro hstate
      refine (h.flags hstate).imp_right fun hun => ⟨?_, htype hun.2.1, hun.2.2⟩
      rw [hdesc]
      exact hun.1
  | remove state q =>
    obtain ⟨hstatus, hs⟩ := h.session.cpaDcRemoveSession state q
    obtain ⟨l, hl⟩ := cpaDcRemoveSession_eq state q w.session
    refine ⟨by simp only [output, hstatus], .some ⟨hs, h.admitted, h.sending, h.inFlight, ?_, ?_⟩⟩
    · rw [hl]
      exact h.does
    · simpa only [hl, Flow.Unstarted, made, elim_none] using h.flags

lemma Flow.Alike.observe_eq (h : w.Alike v) (es : List Event) : observe svc v es = observe svc w es := by
  induction es generalizing w v with
  | nil => exact congrArg (Prod.mk []) h.session.consumed
  | cons e es ih =>
    obtain ⟨hout, hstep⟩ := h.step svc e
    unfold observe
    generalize flowStep svc w e = w' at *
    generalize flowStep svc v e = v' at *
    cases hstep with
    | none => exact ih h
    | some h' => simp only [hout, ih h']

end

section

variable {w : Flow} {q : Bool} (hidle : w.Idle) (hreset : (cpaDcResetSession state q w.session).1 = .success)
  (hflags : w.session.desc.sessState = .stateful → w.session.desc.sessDirection = .combined →
    ∀ dir, w.sopProcessed dir = false)
  (hconsumed : w.session.desc.isDcDp = true → w.session.cumulativeConsumedBytes = 0)

include hidle hreset hflags hconsumed

lemma alike_of_reset (fresh : RequestDir → Bool) :
    Flow.Alike ⟨{ w.toState with session := (cpaDcResetSession state q w.session).2 }, w.sopProcessed, fresh⟩
      w.session.desc.newFlow := by
  obtain ⟨hadmitted, hsending, hflight⟩ := hidle
  have hnew := alike_newSession hreset hconsumed
  have hdesc := (cpaDcResetSession_keeps state q w.session).1
  refine ⟨hnew.1.mono fun h => h hsending, hadmitted.symm, hsending.symm, hflight.symm, ?_, ?_⟩
  · simp [hadmitted, hsending]
  · simp only [hdesc, Flow.Unstarted]
    intro hstate
    by_cases hdir : w.session.desc.sessDirection = .combined
    · exact Or.inl fun dir _ => (hflags hstate hdir dir).symm
    · exact Or.inr ⟨hdir, hnew.2 hstate, hsending, hflight⟩

/-- **A reset makes a session new**, if a stateful session for both directions has made no message, and a session of
the data-plane interface has consumed nothing. -/
theorem reset_as_fresh (svc : Service) (es : List Event) :
    (flowStep svc w (.reset state q)).map (observe svc · es) = some (observe svc w.session.desc.newFlow es) := by
  have halike := alike_of_reset hidle hreset hflags hconsumed (w.freshAfter (.reset state q))
  exact congrArg some (halike.observe_eq es).symm

end

def compressDesc : SessionDesc := { deflateDesc .stateful false with sessDirection := .compress }

/-- A session of one direction is reset while a stream is open, and is as new. -/
theorem compress_session_reset :
    ∃ w, exec (flowStep fullService) compressDesc.newFlow (exchanged .compressData2 .sync) = some w ∧
      w.sopProcessed .compression = true ∧
      (flowStep fullService w (.reset .running false)).map (observe fullService · (submission allResources)) =
        some (observe fullService compressDesc.newFlow (submission allResources)) :=
  ⟨_, rfl, rfl, reset_as_fresh ⟨rfl, rfl, rfl⟩ rfl (fun _ h => absurd h (by decide))
    (fun h => absurd h (by decide)) fullService (submission allResources)⟩

def dpDesc : SessionDesc := { deflateDesc .stateless true with isDcDp := true, stateless_of_dp := fun _ => rfl }

def dpKilobyte : DpOpData := ⟨.compress, 1024, 2048, 64, some 1024, 4096, some 2048, 8192, false, false, 0⟩

def lastSop (seen : List Output × U64) : Option Bool := seen.1.getLast?.bind fun out => out.message.map Message.sop

/-- **Two sessions that are not new after a reset.** -/
theorem reset_not_fresh :
    dcInitSession fullService (deflateSetup .stateful) false (.ok ()) true true = .ok (deflateDesc .stateful false) ∧
      cpaDcDpInitSession fullService (deflateSetup .stateless) true = .ok dpDesc ∧
      (exec (flowStep fullService) (deflateDesc .stateful false).newFlow
        (exchanged .decompressData .final ++ [.reset .running false])).map (fun w => lastSop (observe fullService w
          (exchanged .compressData2 .sync ++ [.decompressData .running kilobyte, .prepare 0 allResources]))) =
        some (some false) ∧ lastSop (observe fullService (deflateDesc .stateful false).newFlow
          (exchanged .compressData2 .sync ++ [.decompressData .running kilobyte, .prepare 0 allResources])) =
        some true ∧ (exec (flowStep fullService) dpDesc.newFlow
        [.enqueueOp .running dpKilobyte true, .respond 0 (response false), .reset .running false]).map
          (fun w => (observe fullService w []).2) = some 1024 ∧ (observe fullService dpDesc.newFlow []).2 = 0 := by
  refine ⟨rfl, rfl, by decide, by decide, by decide, by decide⟩

end QuickAssist.Dc
