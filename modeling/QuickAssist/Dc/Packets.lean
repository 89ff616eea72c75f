import QuickAssist.Dc.Accounting

/-!
# The packets of a stateful compression session

The message of a request says whether it starts a stream, `sop`, and whether it ends one, `eop`. This is worked out
from `requestType`, which is the session's, and from two flags, `isSopForCompressionProcessed` and
`isSopForDecompressionProcessed`. They are written when the message is made; the type is put back if the ring refuses
the message, and written again when the response comes. `fresh` of a direction says that no stream of it is open.

**The defects.** A stream that a `FULL` flush ends is not followed by a new one: the callback makes the type
`SUBSEQUENT`. The type is one for both directions, so the end of a stream of one direction starts a stream of the
other. A put that fails leaves what the message has changed, and after a put that is to be tried again the flag stays.
-/

namespace QuickAssist.Dc

open Lib Function Option

variable {svc : Service}

/-! ## Messages -/

/-- `icp_qat_fw_comp_req_t`, without what comes from the arguments of the call. -/
structure Message where
  reqCache : RequestDir
  initialAdler : U32
  initialCrc32 : U32
  sop : Bool
  eop : Bool
  bFinal : Bool
  cnvDecompReq : Bool
  cnvRecovery : Bool

def Flush.Ends (f : Flush) : Prop := f = .final ∨ f = .full
  deriving Decidable

/-- The message of a request; the templates have the checksums of a first request.
Source: `dcCreateRequest`. -/
def requestMessage (s : Session) (sopProcessed : RequestDir → Bool) (r : Request) : Message where
  reqCache := r.compDecomp
  initialAdler :=
    if s.requestType ≠ .first ∧ s.desc.sessState = .stateless ∧ s.desc.checksumType = .adler32 then r.checksum
    else 1
  initialCrc32 :=
    if s.requestType ≠ .first ∧ s.desc.sessState = .stateless ∧ s.desc.checksumType ≠ .adler32 then r.checksum
    else 0
  sop := s.desc.sessState = .stateless ∨ s.requestType = .first ∨ sopProcessed r.compDecomp = false
  eop := s.desc.sessState = .stateless ∨ r.flushFlag.Ends
  bFinal := r.flushFlag = .final
  cnvDecompReq := r.cnvMode ≠ .noCnv
  cnvRecovery := r.cnvMode = .cnvnr

/-- The flags `isSopForCompressionProcessed` and `isSopForDecompressionProcessed` after a message is made. -/
def processSop (d : SessionDesc) (sopProcessed : RequestDir → Bool) (r : Request) : RequestDir → Bool :=
  if d.sessState = .stateful then update sopProcessed r.compDecomp true else sopProcessed

/-! ## Runs -/

def RequestDir.other : RequestDir → RequestDir
  | .compression => .decompression
  | .decompression => .compression

lemma RequestDir.other_ne (dir : RequestDir) : dir.other ≠ dir := by
  cases dir <;> decide

variable {dir : RequestDir} {s : Session} {res : Resources} {resp : Response} {r : Request} {m : Message} {e : Event}

lemma RequestDir.eq_other_of_ne {dir dir' : RequestDir} (h : dir ≠ dir') : dir = dir'.other := by
  revert h
  cases dir <;> cases dir' <;> decide

structure Flow extends State where
  sopProcessed : RequestDir → Bool
  /-- No stream of the direction is open. Nothing reads this. -/
  fresh : RequestDir → Bool

def SessionDesc.newFlow (d : SessionDesc) : Flow := ⟨d.newState, fun _ => false, fun _ => true⟩

def made (svc : Service) (w : State) : Event → Option Request
  | .prepare i res => w.admitted[i]?.filter fun r => (prepare svc w.session r res).1 = .success
  | _ => none

def Response.Passes (d : SessionDesc) (r : Request) (resp : Response) : Prop :=
  resp.unsupportedRequest = false ∧ (resp.cmpStatOk = true ∨ resp.cmpErr = .incompleteFile) ∧
    (r.compDecomp = .compression ∧ d.huffType = .fullDynamic → resp.xlatStatOk = true)
  deriving Decidable

def Flow.freshAfter (w : Flow) : Event → RequestDir → Bool
  | .send i put =>
    match w.sending[i]? with
    | some r => if put = .success then update w.fresh r.compDecomp false else w.fresh
    | none => w.fresh
  | .respond i resp =>
    match w.inFlight[i]? with
    | some r =>
      if r.flushFlag.Ends ∧ resp.Passes w.session.desc r then update w.fresh r.compDecomp true
      else w.fresh
    | none => w.fresh
  | .reset state _ => if state = .running then fun _ => true else w.fresh
  | _ => w.fresh

def flowStep (svc : Service) (w : Flow) (e : Event) : Option Flow :=
  (step svc w.toState e).map fun s =>
    { toState := s
      sopProcessed := (made svc w.toState e).elim w.sopProcessed (processSop w.session.desc w.sopProcessed)
      fresh := w.freshAfter e }

def State.Idle (w : State) : Prop := w.admitted = [] ∧ w.sending = [] ∧ w.inFlight = []
  deriving Decidable

def Sequential (w : State) : Event → Prop
  | .compressData _ _ => w.Idle
  | .compressData2 _ _ => w.Idle
  | .decompressData _ _ => w.Idle
  | .reset _ _ => w.Idle
  | _ => True

/-- A step that keeps streams in order: none is open in the other direction, a request not accepted is tried
again or has changed nothing, and no `FULL` flush completes. -/
def InOrder (w : Flow) : Event → Prop
  | .compressData _ _ => w.fresh .decompression = true
  | .compressData2 _ _ => w.fresh .decompression = true
  | .decompressData _ _ => w.fresh .compression = true
  | .send _ put => put = .success ∨ put = .retry ∨ w.session.requestType = w.session.previousRequestType
  | .respond i resp => ∀ r ∈ w.inFlight[i]?, r.flushFlag = .full → ¬ resp.Passes w.session.desc r
  | _ => True

instance (w : State) (e : Event) : Decidable (Sequential w e) := by
  apply @Event.casesOn _ e <;> intros <;> dsimp only [Sequential] <;> infer_instance

instance (w : Flow) (e : Event) : Decidable (InOrder w e) := by
  apply @Event.casesOn _ e <;> intros <;> dsimp only [InOrder] <;> infer_instance

/-! ## Streams and the type of the next request -/

/-- The directions without an open stream are those that the type of the next request, and the flags, tell. -/
def Flow.Tells (w : Flow) : RequestType → Prop
  | .first => ∀ dir, w.fresh dir = true
  | .subsequent => ∃ dir, w.fresh dir = false ∧ w.fresh dir.other = true ∧ w.sopProcessed dir = true

inductive Flow.Phase (w : Flow) : Prop
  /-- Nothing happens. The type tells, unless the session refuses all requests. -/
  | idle : w.Idle → (w.session.pendingStatefulCbCount = 0 → w.Tells w.session.requestType) → Phase w
  | called (r : Request) : w.admitted = [r] → w.sending = [] → w.inFlight = [] →
      w.session.pendingStatefulCbCount ≠ 0 → w.fresh r.compDecomp.other = true →
      w.Tells w.session.requestType → Phase w
  | sending (r : Request) : w.admitted = [] → w.sending = [r] → w.inFlight = [] →
      w.session.pendingStatefulCbCount ≠ 0 → w.fresh r.compDecomp.other = true →
      w.sopProcessed r.compDecomp = true → w.Tells w.session.previousRequestType → Phase w
  | sent (r : Request) : w.admitted = [] → w.sending = [] → w.inFlight = [r] →
      w.session.pendingStatefulCbCount ≠ 0 → w.fresh r.compDecomp.other = true →
      w.sopProcessed r.compDecomp = true → w.fresh r.compDecomp = false → Phase w

structure Flow.Inv (w : Flow) : Prop where
  stateful : w.session.desc.sessState = .stateful
  phase : w.Phase

lemma Flow.Tells.of_subsequent {w : Flow} (h : w.Tells .subsequent)
    (hother : w.fresh dir.other = true) : w.fresh dir = false ∧ w.sopProcessed dir = true := by
  obtain ⟨open_, hopen, -, hflag⟩ := h
  by_cases hdir : open_ = dir
  · exact hdir ▸ ⟨hopen, hflag⟩
  · rw [← RequestDir.eq_other_of_ne hdir, hopen] at hother
    cases hother

/-- **What a message says is right.** -/
theorem sop_eq_fresh {w : Flow} (hstate : w.session.desc.sessState = .stateful)
    (hother : w.fresh r.compDecomp.other = true) (h : w.Tells w.session.requestType) :
    (requestMessage w.session w.sopProcessed r).sop = w.fresh r.compDecomp := by
  rcases htype : w.session.requestType with _ | _
  · rw [htype] at h
    simp [requestMessage, htype, h r.compDecomp]
  · rw [htype] at h
    obtain ⟨hopen, hflag⟩ := h.of_subsequent hother
    simp [requestMessage, hstate, htype, hopen, hflag]

/-! ## The parts of a submission -/

/-- A request of a stateful session goes on: none is pending, and it has data or ends a stream that is open. -/
def Enters (s : Session) (r : Request) (zeroLength : Bool) : Prop :=
  s.pendingStatefulCbCount = 0 ∧ (zeroLength = true → s.requestType ≠ .first ∧ r.flushFlag.Ends)

lemma statefulEntry_cases (hstate : s.desc.sessState = .stateful) (r : Request) (zeroLength : Bool) :
    (¬ Enters s r zeroLength ∧
        ∃ status k, statefulEntry s r zeroLength = .returned status { s with cumulativeConsumedBytes := k }) ∨
      Enters s r zeroLength ∧ statefulEntry s r zeroLength = .admitted { s with pendingStatefulCbCount := 1 } r := by
  unfold statefulEntry
  rw [if_pos hstate]
  by_cases hpending : s.pendingStatefulCbCount = 0
  · rw [if_neg (not_not_intro hpending)]
    rcases zeroLength with _ | _
    · exact Or.inr ⟨⟨hpending, by simp⟩, by rw [hpending]; rfl⟩
    · by_cases hopen : s.requestType ≠ .first ∧ r.flushFlag.Ends
      · have hzero : dcZeroLengthRequests s r.flushFlag = none := by
          unfold dcZeroLengthRequests
          rw [if_neg hopen.1]
          rcases hopen.2 with hflush | hflush <;> simp [hflush]
        exact Or.inr ⟨⟨hpending, fun _ => hopen⟩, by simp [hzero, hpending]⟩
      · have hzero : ∃ k, dcZeroLengthRequests s r.flushFlag = some { s with cumulativeConsumedBytes := k } := by
          unfold dcZeroLengthRequests
          split_ifs with hfirst hflush
          · exact ⟨0, rfl⟩
          · exact ⟨s.cumulativeConsumedBytes, rfl⟩
          · refine absurd ⟨hfirst, ?_⟩ hopen
            revert hflush
            cases r.flushFlag <;> decide
        obtain ⟨k, hk⟩ := hzero
        exact Or.inl ⟨fun h => hopen (h.2 rfl), .success, k, by simp [hk]⟩
  · rw [if_pos hpending]
    exact Or.inl ⟨fun h => hpending h.1, .retry, s.cumulativeConsumedBytes, rfl⟩

def Gets (d : SessionDesc) (res : Resources) : Prop :=
  (d.syncCallback = true → res.syncCookie = .success) ∧ res.cookie = true ∧ res.srcDesc = true ∧ res.destDesc = true

lemma prepare_cases (svc : Service) (hstate : s.desc.sessState = .stateful) (r : Request) (res : Resources) :
    (¬ Gets s.desc res ∧
        ∃ status s', prepare svc s r res = (status, s') ∧ status ≠ .success ∧ (s' = s ∨ s' = s.errorExit)) ∨
      Gets s.desc res ∧ prepare svc s r res = (.success, dcCreateRequest s r) := by
  have hlzs : checkLzsSupport svc s.desc.compType (r.cnvMode ≠ .noCnv) s.desc.sessDirection = .ok () := by
    simp [checkLzsSupport, refuse, s.desc.deflate_of_stateful hstate]
  have hnew : (dcCreateRequest s r).desc.sessState ≠ .stateless := by simp [dcCreateRequest_desc, hstate]
  unfold prepare
  simp only [hlzs, if_neg hnew]
  split
  · next hsync => exact Or.inl ⟨fun h => hsync.2 (h.1 hsync.1), _, s, rfl, hsync.2, Or.inl rfl⟩
  · next hsync =>
    split
    · next hcookie => exact Or.inl ⟨fun h => absurd h.2.1 (by simp [hcookie]), _, _, rfl, nofun, Or.inr rfl⟩
    · next hcookie =>
      split
      · next hdesc => exact Or.inl ⟨fun h => absurd hdesc (by simp [h.2.2]), _, _, rfl, nofun, Or.inr rfl⟩
      · next hdesc => exact Or.inr ⟨⟨by simpa using hsync, by simpa using hcookie, by simpa using hdesc⟩, rfl⟩

lemma isDcDp_of_stateful {d : SessionDesc} (h : d.sessState = .stateful) : d.isDcDp = false := by
  by_contra hdp
  exact absurd (h.symm.trans (d.stateless_of_dp (eq_true_of_ne_false hdp))) nofun

lemma errorExit_stateful (hstate : s.desc.sessState = .stateful) :
    s.errorExit = { s with pendingStatefulCbCount := s.pendingStatefulCbCount - 1 } := by
  simp [Session.errorExit, hstate]

lemma processCallback_requestType (hdp : s.desc.isDcDp = false) (hsupported : resp.unsupportedRequest = false) :
    (processCallback s r resp).requestType =
      if r.flushFlag = .final ∧ resp.Passes s.desc r then .first else .subsequent := by
  have hresponded : (s.responded r resp).requestType =
      if r.flushFlag = .final ∧ resp.Passes s.desc r then .first else .subsequent := by
    have hpasses : (r.flushFlag = .final ∧ resp.Passes s.desc r) ↔ (r.flushFlag = .final ∧
        (resp.cmpStatOk || decide (resp.cmpErr = .incompleteFile)) = true ∧
        (decide (¬ (r.compDecomp = .compression ∧ s.desc.huffType = .fullDynamic)) || resp.xlatStatOk) = true) := by
      simp only [Response.Passes, hsupported, true_and, Bool.or_eq_true, decide_eq_true_eq, imp_iff_not_or]
    simp [Session.responded, hdp, hpasses, apply_ite Session.requestType]
  rw [← hresponded]
  unfold processCallback
  rw [if_neg (by simp [hsupported])]
  dsimp only
  split_ifs <;> rfl

lemma processCallback_desc (s : Session) (r : Request) (resp : Response) :
    (processCallback s r resp).desc = s.desc := by
  simp [processCallback, apply_ite Session.desc, (responded_moves s r resp).desc]

lemma cpaDcRemoveSession_eq (state : ServiceState) (q : Bool) (s : Session) :
    ∃ l, (cpaDcRemoveSession state q s).2 = { s with sessionLock := l } := by
  unfold cpaDcRemoveSession
  split
  · exact ⟨s.sessionLock, rfl⟩
  · split_ifs <;> exact ⟨_, rfl⟩

/-- A traditional session refuses the operations of the other interface. -/
lemma enqueued_eq {w : State} {n : ℤ} {res : Except Status Session} {ops : List DpOpData}
    (hdp : w.session.desc.isDcDp = false)
    (hres : ∀ s, res = .ok s → w.session.desc.isDcDp = true ∧ Moves n w.session s) : w.enqueued ops res = w := by
  rcases res with _ | s
  · rfl
  · exact absurd ((hres s rfl).1.symm.trans hdp) nofun

lemma eq_of_getElem?_singleton {r' : Request} {i : ℕ} {l : List Request} (hl : l = [r']) (hr : l[i]? = some r) :
    i = 0 ∧ r' = r := by
  cases i <;> simp_all

/-! ## Requests that the ring refuses -/

def Event.IsCall : Event → Prop
  | .compressData _ _ => True
  | .compressData2 _ _ => True
  | .decompressData _ _ => True
  | _ => False

lemma exists_calls (svc : Service) (he : e.IsCall) : ∃ dir f, (∀ d, Calls d dir f) ∧
      ∀ w : Flow, flowStep svc w e = some { w with toState := w.enter (f w.session) } := by
  cases e with
  | compressData state op => exact ⟨_, _, calls_cpaDcCompressData svc state op, fun _ => rfl⟩
  | compressData2 state op => exact ⟨_, _, calls_cpaDcCompressData2 svc state op, fun _ => rfl⟩
  | decompressData state op => exact ⟨_, _, calls_cpaDcDecompressData svc state op, fun _ => rfl⟩
  | _ => exact absurd he id

def offered (svc : Service) (w : Flow) (call : Event) (res : Resources) : Option Message :=
  (flowStep svc w call).bind fun w =>
    (made svc w.toState (.prepare 0 res)).map (requestMessage w.session w.sopProcessed)

def refused (svc : Service) (call : Event) (res : Resources) : ℕ → Flow → Option Flow
  | 0, w => some w
  | n + 1, w => (exec (flowStep svc) w [call, .prepare 0 res, .send 0 .retry]).bind (refused svc call res n)

structure Flow.SameFor (w v : Flow) : Prop where
  desc : v.session.desc = w.session.desc
  type : v.session.requestType = w.session.requestType
  pending : v.session.pendingStatefulCbCount = w.session.pendingStatefulCbCount
  noCalls : v.admitted = [] ∧ v.sending = []

lemma offered_eq_some {w : Flow} {call : Event}
    (hstate : w.session.desc.sessState = .stateful) (hcall : call.IsCall) (hno : w.admitted = [])
    (hm : offered svc w call res = some m) :
    ∃ r, m = requestMessage w.session w.sopProcessed r ∧ Gets w.session.desc res ∧
      w.session.pendingStatefulCbCount = 0 ∧ ∀ v, w.SameFor v → flowStep svc v call =
        some { v with session := { v.session with pendingStatefulCbCount := 1 }, admitted := [r] } := by
  obtain ⟨dir, f, hcalls, hstep⟩ := exists_calls svc hcall
  unfold offered at hm
  rw [hstep, bind_some] at hm
  cases hcalls w.session.desc with
  | refused status hf =>
    rw [hf w.session rfl] at hm
    simp [State.enter, made, hno] at hm
  | entered r z _ _ _ hf =>
    rw [hf w.session rfl] at hm
    rcases statefulEntry_cases hstate r z with ⟨-, status, k, hentry⟩ | ⟨henters, hentry⟩
    · rw [hentry] at hm
      simp [State.enter, made, hno] at hm
    · rw [hentry] at hm
      have hs : ({ w.session with pendingStatefulCbCount := 1 } : Session).desc.sessState = .stateful := hstate
      rcases prepare_cases svc hs r res with ⟨-, status, s', hprep, hstatus, -⟩ | ⟨hgets, hprep⟩
      · simp [State.enter, made, hno, hprep, hstatus, Option.filter] at hm
      · simp only [State.enter, made, hno, hprep, List.nil_append, List.getElem?_cons_zero, Option.filter,
          decide_true, if_true, map_some, Option.some.injEq] at hm
        refine ⟨r, hm.symm, hgets, henters.1, fun v hsame => ?_⟩
        have henters' : Enters v.session r z := by
          unfold Enters
          rw [hsame.pending, hsame.type]
          exact henters
        rw [hstep, hf v.session hsame.desc]
        rcases statefulEntry_cases (hsame.desc ▸ hstate) r z with ⟨hnot, -⟩ | ⟨-, hentry'⟩
        · exact absurd henters' hnot
        · simp [hentry', State.enter, hsame.noCalls.1]

lemma refused_once {w v : Flow} {call : Event}
    (hstate : w.session.desc.sessState = .stateful) (hcall : call.IsCall) (hno : w.admitted = [])
    (hm : offered svc w call res = some m) (hsame : w.SameFor v) : offered svc v call res =
        some { m with sop := w.session.requestType = .first ∨ v.sopProcessed m.reqCache = false } ∧
      ∃ v', exec (flowStep svc) v [call, .prepare 0 res, .send 0 .retry] = some v' ∧ w.SameFor v' ∧
        v'.sopProcessed = update v.sopProcessed m.reqCache true := by
  obtain ⟨r, rfl, hgets, hpending, hstep⟩ := offered_eq_some hstate hcall hno hm
  have hs : ({ v.session with pendingStatefulCbCount := 1 } : Session).desc.sessState = .stateful :=
    hsame.desc ▸ hstate
  rcases prepare_cases svc hs r res with ⟨hnot, -⟩ | ⟨-, hprep⟩
  · exact absurd (hsame.desc ▸ hgets) hnot
  · have hmade : made svc { v.toState with session := { v.session with pendingStatefulCbCount := 1 }, admitted := [r] }
        (.prepare 0 res) = some r := by
      simp [made, hprep, Option.filter]
    constructor
    · unfold offered
      rw [hstep v hsame, bind_some, hmade]
      simp [requestMessage, hsame.desc, hsame.type, hstate]
    · have hv : v.session.desc.sessState = .stateful := hs
      refine ⟨⟨⟨send (dcCreateRequest { v.session with pendingStatefulCbCount := 1 } r) .retry, [], [], v.inFlight⟩,
        processSop v.session.desc v.sopProcessed r, v.fresh⟩, ?_, ?_, ?_⟩
      · rw [exec, hstep v hsame]
        simp [exec, flowStep, step, made, hprep, hsame.noCalls.2, Flow.freshAfter, Option.filter]
      · have hsent : send (dcCreateRequest { v.session with pendingStatefulCbCount := 1 } r) .retry =
            { dcCreateRequest v.session r with requestType := v.session.requestType, pendingStatefulCbCount := 0 } := by
          simp [send, dcCreateRequest, Session.errorExit, hv]
        rw [hsent]
        exact ⟨hsame.desc, hsame.type, hpending.symm, rfl, rfl⟩
      · simp [processSop, hv, requestMessage]

/-- **Refusals do not show, exactly if the flag is not needed:** a stream starts or the flag of the direction is
set. -/
theorem refusals_transparent_iff (svc : Service) (w : Flow) (hstate : w.session.desc.sessState = .stateful)
    (hno : w.admitted = [] ∧ w.sending = []) (call : Event) (hcall : call.IsCall) (res : Resources) (m : Message)
    (hm : offered svc w call res = some m) :
    (∀ n, ∃ v, refused svc call res n w = some v ∧ offered svc v call res = some m) ↔
      w.session.requestType = .first ∨ w.sopProcessed m.reqCache = true := by
  have honce := fun v => @refused_once svc res m w v call hstate hcall hno.1 hm
  have hself : w.SameFor w := ⟨rfl, rfl, rfl, hno⟩
  have hsop : m = { m with sop := w.session.requestType = .first ∨ w.sopProcessed m.reqCache = false } :=
    Option.some.inj (hm.symm.trans (honce w hself).1)
  constructor
  · intro h
    obtain ⟨v, hv, hoffered⟩ := h 1
    obtain ⟨v', hv', hsame, hflag⟩ := (honce w hself).2
    obtain rfl : v' = v := by simpa [refused, hv'] using hv
    have hagain := hoffered.symm.trans (honce v' hsame).1
    have hfirst : m.sop = true ↔ w.session.requestType = .first := by
      rw [Option.some.inj hagain, hflag]
      simp
    by_contra hcond
    rw [not_or] at hcond
    refine hcond.1 (hfirst.mp ?_)
    rw [hsop]
    simp [hcond.2]
  · intro hcond n
    suffices hrun : ∀ u, w.SameFor u → (w.sopProcessed m.reqCache = true → u.sopProcessed m.reqCache = true) →
        ∃ v, refused svc call res n u = some v ∧ offered svc v call res = some m from hrun w hself id
    induction n with
    | zero =>
      intro u hsame hflag
      have heq : decide (w.session.requestType = .first ∨ u.sopProcessed m.reqCache = false) = m.sop := by
        rw [hsop]
        rcases hcond with hfirst | hset
        · simp [hfirst]
        · simp [hset, hflag hset]
      refine ⟨u, rfl, (honce u hsame).1.trans ?_⟩
      rw [heq]
    | succ n ih =>
      intro u hsame hflag
      obtain ⟨v, hv, hsame', hflag'⟩ := (honce u hsame).2
      obtain ⟨v', hv', hoffered⟩ := ih v hsame' fun _ => by rw [hflag', update_self]
      exact ⟨v', by rw [refused, hv, bind_some, hv'], hoffered⟩

/-! ## Steps -/

namespace Flow

variable {w w' : Flow}

lemma Phase.tells (h : w.Phase) (hidle : w.Idle) :
    w.session.pendingStatefulCbCount = 0 → w.Tells w.session.requestType := by
  cases h with
  | idle _ htells => exact htells
  | called r hadmitted => exact absurd (hidle.1.symm.trans hadmitted) nofun
  | sending r _ hsending => exact absurd (hidle.2.1.symm.trans hsending) nofun
  | sent r _ _ hflight => exact absurd (hidle.2.2.symm.trans hflight) nofun

lemma Inv.call (h : w.Inv) (hidle : w.Idle) {f : Session → Entry}
    (hcalls : Calls w.session.desc dir f) (hother : w.fresh dir.other = true) :
    Inv { w with toState := w.enter (f w.session) } := by
  have htells := h.phase.tells hidle
  cases hcalls with
  | refused status hf =>
    rw [hf w.session rfl]
    exact ⟨h.stateful, .idle hidle htells⟩
  | entered r zeroLength hdir _ _ hf =>
    rw [hf w.session rfl]
    rcases statefulEntry_cases h.stateful r zeroLength with ⟨-, status, k, hentry⟩ | ⟨henters, hentry⟩
    · rw [hentry]
      exact ⟨h.stateful, .idle hidle htells⟩
    · rw [hentry]
      refine ⟨h.stateful, .called r ?_ hidle.2.1 hidle.2.2 nofun (hdir ▸ hother) (htells henters.1)⟩
      exact congrArg (· ++ [r]) hidle.1

lemma sopProcessed_mono (d : SessionDesc) (o : Option Request) (sop : RequestDir → Bool)
    (h : sop dir = true) : o.elim sop (processSop d sop) dir = true := by
  rcases o with _ | r
  · exact h
  · simp only [elim_some, processSop]
    split
    · simp only [update_apply, h, ite_self]
    · exact h

lemma Tells.mono {t : RequestType} (h : w.Tells t) (hfresh : w'.fresh = w.fresh)
    (hsop : ∀ dir, w.sopProcessed dir = true → w'.sopProcessed dir = true) : w'.Tells t := by
  rcases t with _ | _
  · exact fun dir => hfresh ▸ h dir
  · obtain ⟨dir, hopen, hother, hflag⟩ := h
    exact ⟨dir, hfresh ▸ hopen, hfresh ▸ hother, hsop dir hflag⟩

variable {i : ℕ}

lemma Inv.prepare (h : w.Inv) (hstep : flowStep svc w (.prepare i res) = some w') : w'.Inv := by
  obtain ⟨s, hs, rfl⟩ := map_eq_some_iff.mp hstep
  obtain ⟨r, hr, rfl⟩ := map_eq_some_iff.mp hs
  cases h.phase with
  | idle hidle => simp [hidle.1] at hr
  | sending _ hadmitted | sent _ hadmitted => simp [hadmitted] at hr
  | called r' hadmitted hsending hflight hpending hother htells =>
    obtain ⟨rfl, rfl⟩ := eq_of_getElem?_singleton hadmitted hr
    have hmono : ∀ dir, w.sopProcessed dir = true → _ := fun dir =>
      sopProcessed_mono w.session.desc (made svc w.toState (.prepare 0 res)) w.sopProcessed
    have hmade : made svc w.toState (.prepare 0 res) =
        if (Dc.prepare svc w.session r' res).1 = .success then some r' else none := by
      simp [made, hr, Option.filter]
    rcases prepare_cases svc h.stateful r' res with ⟨-, status, s', hprep, hstatus, hs'⟩ | ⟨-, hprep⟩
    · have hsame : s'.requestType = w.session.requestType ∧ s'.desc = w.session.desc := by
        rcases hs' with rfl | rfl
        · exact ⟨rfl, rfl⟩
        · rw [errorExit_stateful h.stateful]
          exact ⟨rfl, rfl⟩
      simp only [hprep, if_neg hstatus]
      refine ⟨hsame.2 ▸ h.stateful, .idle ⟨by simp [hadmitted], hsending, hflight⟩ fun _ => ?_⟩
      exact (hsame.1 ▸ htells).mono rfl hmono
    · simp only [hprep, if_true, hsending]
      refine ⟨h.stateful, .sending r' (by simp [hadmitted]) rfl hflight hpending hother ?_ ?_⟩
      · simp [hmade, hprep, processSop, h.stateful]
      · have hprev : (dcCreateRequest w.session r').previousRequestType = w.session.requestType := by
          simp [dcCreateRequest, h.stateful]
        exact hprev ▸ htells.mono rfl hmono

lemma Inv.send (h : w.Inv) {put : Status} (horder : InOrder w (.send i put))
    (hstep : flowStep svc w (.send i put) = some w') : w'.Inv := by
  obtain ⟨s, hs, rfl⟩ := map_eq_some_iff.mp hstep
  obtain ⟨r, hr, rfl⟩ := map_eq_some_iff.mp hs
  cases h.phase with
  | idle hidle => simp [hidle.2.1] at hr
  | called _ _ hsending | sent _ _ hsending => simp [hsending] at hr
  | sending r' hadmitted hsending hflight hpending hother hflag htells =>
    obtain ⟨rfl, rfl⟩ := eq_of_getElem?_singleton hsending hr
    by_cases hput : put = .success
    · subst hput
      refine ⟨h.stateful, .sent r' hadmitted (by simp [hsending]) (by simp [hflight]) hpending ?_ hflag ?_⟩
      · simp [freshAfter, hr, RequestDir.other_ne, hother]
      · simp [freshAfter, hr]
    · -- the type is as it was before the message was made
      have hsent : Dc.send w.session put = { w.session with
            requestType := w.session.previousRequestType
            pendingStatefulCbCount := w.session.pendingStatefulCbCount - 1 } := by
        by_cases hretry : put = .retry
        · simp [Dc.send, hretry, h.stateful, Session.errorExit]
        · have htype := (horder.resolve_left hput).resolve_left hretry
          simp [Dc.send, hput, hretry, h.stateful, Session.errorExit, ← htype]
      have hfresh : w.freshAfter (.send 0 put) = w.fresh := by simp [freshAfter, hr, hput]
      simp only [hsent, if_neg hput]
      refine ⟨h.stateful, .idle ⟨hadmitted, by simp [hsending], hflight⟩ fun _ => ?_⟩
      exact htells.mono hfresh fun _ => id

lemma Inv.respond (h : w.Inv) (horder : InOrder w (.respond i resp))
    (hstep : flowStep svc w (.respond i resp) = some w') : w'.Inv := by
  obtain ⟨s, hs, rfl⟩ := map_eq_some_iff.mp hstep
  obtain ⟨r, hr, rfl⟩ := map_eq_some_iff.mp hs
  cases h.phase with
  | idle hidle => simp [hidle.2.2] at hr
  | called _ _ _ hflight | sending _ _ _ hflight => simp [hflight] at hr
  | sent r' hadmitted hsending hflight hpending hother hflag hopen =>
    obtain ⟨rfl, rfl⟩ := eq_of_getElem?_singleton hflight hr
    have hidle : (⟨processCallback w.session r' resp, w.admitted, w.sending, w.inFlight.eraseIdx 0⟩ : State).Idle :=
      ⟨hadmitted, hsending, by simp [hflight]⟩
    refine ⟨processCallback_desc w.session r' resp ▸ h.stateful, .idle hidle fun hzero => ?_⟩
    rcases hsupported : resp.unsupportedRequest with _ | _
    · have hfresh : w.freshAfter (.respond 0 resp) =
          if r'.flushFlag.Ends ∧ resp.Passes w.session.desc r' then update w.fresh r'.compDecomp true
          else w.fresh := by
        simp [freshAfter, hr]
      simp only [processCallback_requestType (isDcDp_of_stateful h.stateful) hsupported]
      by_cases hpass : r'.flushFlag = .final ∧ resp.Passes w.session.desc r'
      · -- the stream has ended, and the other direction has none
        rw [if_pos hpass]
        intro dir
        change w.freshAfter (.respond 0 resp) dir = true
        rw [hfresh, if_pos ⟨Or.inl hpass.1, hpass.2⟩, update_apply]
        split
        · rfl
        · next hdir => rwa [RequestDir.eq_other_of_ne hdir]
      · have hends : ¬ (r'.flushFlag.Ends ∧ resp.Passes w.session.desc r') := by
          rintro ⟨hfinal | hfull, hpasses⟩
          · exact hpass ⟨hfinal, hpasses⟩
          · exact horder r' (by simp [hr]) hfull hpasses
        rw [if_neg hpass]
        rw [if_neg hends] at hfresh
        exact ⟨r'.compDecomp, hfresh ▸ hopen, hfresh ▸ hother, hflag⟩
    · -- the counter stays, and with it the session is of no more use
      simp only [processCallback, hsupported, if_true] at hzero
      exact absurd hzero hpending

lemma Inv.reset (h : w.Inv) (hidle : w.Idle) {state : ServiceState} {q : Bool}
    (hstep : flowStep svc w (.reset state q) = some w') : w'.Inv := by
  obtain ⟨s, hs, rfl⟩ := map_eq_some_iff.mp hstep
  cases hs
  have hdp := isDcDp_of_stateful h.stateful
  rcases state with _ | _ | _
  · simp only [cpaDcResetSession, salRunningCheck, hdp, Bool.false_eq_true, if_false]
    exact ⟨h.stateful, .idle hidle fun _ _ => rfl⟩
  all_goals exact ⟨h.stateful, .idle hidle (h.phase.tells hidle)⟩

lemma Inv.step (h : w.Inv) (hseq : Sequential w.toState e) (horder : InOrder w e)
    (hstep : flowStep svc w e = some w') : w'.Inv := by
  have hdp := isDcDp_of_stateful h.stateful
  cases e with
  | compressData state op =>
    cases hstep
    exact h.call hseq (calls_cpaDcCompressData svc state op _) horder
  | compressData2 state op =>
    cases hstep
    exact h.call hseq (calls_cpaDcCompressData2 svc state op _) horder
  | decompressData state op =>
    cases hstep
    exact h.call hseq (calls_cpaDcDecompressData svc state op _) horder
  | prepare i res => exact h.prepare hstep
  | send i put => exact h.send horder hstep
  | respond i resp => exact h.respond horder hstep
  | reset state q => exact h.reset hseq hstep
  | enqueueOp state op room =>
    cases hstep
    rw [enqueued_eq hdp fun s => cpaDcDpEnqueueOp_moves]
    exact h
  | enqueueOpBatch state ops room =>
    cases hstep
    rw [enqueued_eq hdp fun s => cpaDcDpEnqueueOpBatch_moves]
    exact h
  | remove state q =>
    cases hstep
    obtain ⟨l, hl⟩ := cpaDcRemoveSession_eq state q w.session
    rw [hl]
    refine ⟨h.stateful, ?_⟩
    cases h.phase with
    | idle hidle htells => exact .idle hidle htells
    | called r ha hs hf hpending hother htells => exact .called r ha hs hf hpending hother htells
    | sending r ha hs hf hpending hother hflag htells => exact .sending r ha hs hf hpending hother hflag htells
    | sent r ha hs hf hpending hother hflag hopen => exact .sent r ha hs hf hpending hother hflag hopen

end Flow

/-! ## Runs of a session -/

def orderedStep (svc : Service) : Flow → Event → Flow → Prop :=
  guarded (fun w e => Sequential w.toState e ∧ InOrder w e) (ofFun (flowStep svc))

/-- **Packets are streams**, in every run of a stateful session that is used sequentially and whose steps keep
streams in order. -/
theorem packets_of_run (svc : Service) (d : SessionDesc) (hstate : d.sessState = .stateful) (es : List Event) (w : Flow)
    (hrun : Run (orderedStep svc) d.newFlow es w) (e : Event) (r : Request) (hmade : made svc w.toState e = some r) :
    (requestMessage w.session w.sopProcessed r).sop = w.fresh r.compDecomp ∧
      ((requestMessage w.session w.sopProcessed r).eop = true ↔ r.flushFlag = .final ∨ r.flushFlag = .full) := by
  have hinv : w.Inv := by
    refine hrun.invariant (fun _ _ _ h hstep => h.step hstep.1.1 hstep.1.2 hstep.2) ?_
    exact ⟨hstate, .idle ⟨rfl, rfl, rfl⟩ fun _ _ => rfl⟩
  refine ⟨?_, by simp [requestMessage, hinv.stateful, Flush.Ends]⟩
  cases e with
  | prepare i res =>
    have hr : r ∈ w.admitted := List.mem_of_getElem? (filter_eq_some_iff.mp hmade).1
    cases hinv.phase with
    | called r' hadmitted _ _ _ hother htells =>
      obtain rfl : r = r' := by simpa [hadmitted] using hr
      exact sop_eq_fresh hinv.stateful hother htells
    | idle hidle => simp [hidle.1] at hr
    | sending _ hadmitted | sent _ hadmitted => simp [hadmitted] at hr
  | _ => exact absurd hmade nofun

def exchanged (call : ServiceState → OpData → Event) (flushFlag : Flush) : List Event :=
  [call .running { kilobyte with flushFlag := flushFlag }, .prepare 0 allResources, .send 0 .success,
    .respond 0 (response false)]

def Flow.starts (w : Flow) : Option (Bool × Bool) :=
  (made fullService w.toState (.prepare 0 allResources)).map fun r =>
    ((requestMessage w.session w.sopProcessed r).sop, w.fresh r.compDecomp)

/-- A stream of two kilobytes, and the first kilobyte of the next one. -/
theorem kilobytes_in_order : ∃ w, Run (orderedStep fullService) (deflateDesc .stateful false).newFlow
        (exchanged .compressData2 .sync ++ exchanged .compressData2 .final ++ [.compressData2 .running kilobyte]) w ∧
      w.starts = some (true, true) ∧ ∀ r, made fullService w.toState (.prepare 0 allResources) = some r →
        (requestMessage w.session w.sopProcessed r).sop = w.fresh r.compDecomp := by
  apply (exec_guardFun_run rfl).exists_and
  exact fun hrun => ⟨by decide, fun r hr => (packets_of_run fullService _ rfl _ _ hrun _ r hr).1⟩

/-- **Three sequential runs**, one for each slip. -/
theorem packets_wrong :
    let run := fun es => (exec (guardFun (fun w e => Sequential w.toState e) (flowStep fullService))
      (deflateDesc .stateful false).newFlow es).bind Flow.starts
    dcInitSession fullService (deflateSetup .stateful) false (.ok ()) true true = .ok (deflateDesc .stateful false) ∧
      run (exchanged .compressData2 .full ++ [.compressData2 .running kilobyte]) = some (false, true) ∧
      run (exchanged .compressData2 .sync ++ exchanged .decompressData .sync ++ exchanged .compressData2 .final ++
        [.decompressData .running kilobyte]) = some (true, false) ∧
      run (submission allResources ++ [.send 0 .fail, .compressData2 .running kilobyte]) = some (false, true) := by
  refine ⟨rfl, by decide, by decide, by decide⟩

/-- A kilobyte that starts a stream, refused twice. -/
theorem first_kilobyte_refused : let w := (deflateDesc .stateful false).newFlow
    let m : Message := ⟨.compression, 1, 0, true, false, false, false, false⟩
    ∃ v, refused fullService (.compressData2 .running kilobyte) allResources 2 w = some v ∧
      offered fullService v (.compressData2 .running kilobyte) allResources = some m :=
  (refusals_transparent_iff fullService (deflateDesc .stateful false).newFlow rfl ⟨rfl, rfl⟩
    (.compressData2 .running kilobyte) trivial allResources _ rfl).mpr (Or.inl rfl) 2

/-- **A refused start of a stream is lost:** when it is submitted again it does not start one. -/
theorem refused_start_lost :
    ((exec (flowStep fullService) (deflateDesc .stateful false).newFlow (exchanged .compressData2 .sync)).bind fun w =>
        (offered fullService w (.decompressData .running kilobyte) allResources).map Message.sop) = some true ∧
      (((exec (flowStep fullService) (deflateDesc .stateful false).newFlow (exchanged .compressData2 .sync)).bind
        (refused fullService (.decompressData .running kilobyte) allResources 1)).bind fun w =>
        (offered fullService w (.decompressData .running kilobyte) allResources).map Message.sop) = some false := by
  decide

end QuickAssist.Dc
