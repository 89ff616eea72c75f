import QuickAssist.Dc.Session
import QuickAssist.Lib.Run

/-!
# The pending requests of a compression session

A session is reset and removed by what its counters say about the requests that are still to be called back.

**Who is where.** A submission of the traditional interface takes two steps after it has been admitted. `admitted` are
the requests before the first of them, `sending` those between the two, and `inFlight` those that the ring has taken
and whose client has not been called back. A request is outstanding from the step that counts it: from `sending` on,
and if the session is stateful from `admitted` on. A response and the call of the client are one step.

**The defects.** Four things break the counts (`pending_counts_wrong`):

* `dcCompDecompData` lowers the stateless counter when there is no cookie or a descriptor cannot be written, and it
  raises it only after that;
* for a synchronous stateful session it returns early when there is no synchronisation cookie, past the place that
  lowers the counter its caller has raised;
* `dcCompression_ProcessCallback` returns early for a request that the device does not support, past the place that
  lowers the counters;
* `cpaDcResetSession` sets the counters of a traditional session to zero, and starts its stream anew, although it has
  seen that requests are pending.
-/

namespace QuickAssist.Dc

open Lib List Option

variable {svc : Service} {s s' : Session} {n m : ℤ}

/-! ## Counters -/

inductive Counter
  | stateless
  | stateful
  | dpStateless
  deriving DecidableEq

def Session.count (s : Session) : Counter → ℤ
  | .stateless => s.pendingStatelessCbCount
  | .stateful => s.pendingStatefulCbCount
  | .dpStateless => s.pendingDpStatelessCbCount

def SessionDesc.counter (d : SessionDesc) : Counter :=
  if d.isDcDp then .dpStateless
  else
    match d.sessState with
    | .stateless => .stateless
    | .stateful => .stateful

variable {d : SessionDesc} {op : OpData} {r : Request} {state : ServiceState} {i size : ℕ} {q room : Bool}
  {ops : List DpOpData} {dir : RequestDir} {resp : Response} {res : Resources}

lemma counter_of_stateful (h : d.sessState = .stateful) : d.counter = .stateful := by
  have hdp : d.isDcDp = false := by
    by_contra hdp
    have := d.stateless_of_dp (eq_true_of_ne_false hdp)
    exact absurd (h.symm.trans this) nofun
  simp [SessionDesc.counter, hdp, h]

lemma counter_of_stateless (hdp : d.isDcDp = false) (h : d.sessState = .stateless) : d.counter = .stateless := by
  simp [SessionDesc.counter, hdp, h]

lemma counter_of_dp (hdp : d.isDcDp = true) : d.counter = .dpStateless := by
  simp [SessionDesc.counter, hdp]

/-- The session's own counter is moved by `n`, and no other one. -/
structure Moves (n : ℤ) (s s' : Session) : Prop where
  desc : s'.desc = s.desc
  count : ∀ c, s'.count c = s.count c + if c = s.desc.counter then n else 0

lemma moves_zero (hdesc : s'.desc = s.desc) (hcount : ∀ c, s'.count c = s.count c) : Moves 0 s s' := by
  refine ⟨hdesc, ?_⟩
  intro c
  rw [hcount c, ite_self, Int.add_zero]

lemma Moves.trans {t : Session} (h₁ : Moves n s s') (h₂ : Moves m s' t) : Moves (n + m) s t := by
  refine ⟨h₂.desc.trans h₁.desc, ?_⟩
  intro c
  rw [h₂.count, h₁.count, h₁.desc]
  split_ifs
  · rw [Int.add_assoc]
  · simp

lemma errorExit_moves (hdp : s.desc.isDcDp = false) : Moves (-1) s s.errorExit := by
  unfold Session.errorExit
  cases hstate : s.desc.sessState with
  | stateless =>
    refine ⟨rfl, ?_⟩
    rintro (_ | _ | _) <;> simp [Session.count, counter_of_stateless hdp hstate, Int.sub_eq_add_neg]
  | stateful =>
    refine ⟨rfl, ?_⟩
    rintro (_ | _ | _) <;> simp [Session.count, counter_of_stateful hstate, Int.sub_eq_add_neg]

lemma dcCreateRequest_desc (s : Session) (r : Request) : (dcCreateRequest s r).desc = s.desc := rfl

lemma dcCreateRequest_moves (s : Session) (r : Request) : Moves 0 s (dcCreateRequest s r) := by
  refine moves_zero rfl ?_
  rintro (_ | _ | _) <;> rfl

lemma responded_moves (s : Session) (r : Request) (resp : Response) : Moves 0 s (s.responded r resp) := by
  unfold Session.responded
  dsimp only
  split_ifs <;> exact moves_zero rfl (by rintro (_ | _ | _) <;> rfl)

/-! ## Submissions -/

/-- What the first part of a submission does: the counter of a stateful session is raised, from zero,
for a request that is admitted, and no request of a data-plane session is. -/
inductive Entry.Counted (s : Session) : Entry → Prop
  | returned {status : Status} {s' : Session} : Moves 0 s s' → Counted s (.returned status s')
  | admitted {s' : Session} {r : Request} : s.desc.isDcDp = false →
      (s.desc.sessState = .stateful → s.count .stateful = 0) →
      Moves (if s.desc.sessState = .stateful then 1 else 0) s s' → Counted s (.admitted s' r)

lemma counted_returned (s : Session) (status : Status) : Entry.Counted s (.returned status s) :=
  .returned (moves_zero rfl fun _ => rfl)

lemma dcZeroLengthRequests_moves {flushFlag : Flush}
    (h : dcZeroLengthRequests s flushFlag = some s') : Moves 0 s s' := by
  unfold dcZeroLengthRequests at h
  split_ifs at h
  · cases h
    exact moves_zero rfl (by rintro (_ | _ | _) <;> rfl)
  · cases h
    exact moves_zero rfl fun _ => rfl

lemma statefulEntry_counted (hdp : s.desc.isDcDp = false) (r : Request) (zeroLength : Bool) :
    (statefulEntry s r zeroLength).Counted s := by
  unfold statefulEntry
  by_cases hstate : s.desc.sessState = .stateful
  · rw [if_pos hstate]
    by_cases hpending : s.pendingStatefulCbCount ≠ 0
    · rw [if_pos hpending]
      exact counted_returned s .retry
    · rw [if_neg hpending]
      split
      next s' hzero =>
        split_ifs at hzero
        exact .returned (dcZeroLengthRequests_moves hzero)
      next =>
        refine .admitted hdp (fun _ => Decidable.not_not.mp hpending) ?_
        rw [if_pos hstate]
        refine ⟨rfl, ?_⟩
        rintro (_ | _ | _) <;> simp [Session.count, counter_of_stateful hstate]
  · rw [if_neg hstate]
    refine .admitted hdp (fun h => absurd h hstate) ?_
    rw [if_neg hstate]
    exact moves_zero rfl fun _ => rfl

def SessionDesc.Does (d : SessionDesc) : RequestDir → Prop
  | .compression => ¬ d.sessDirection = .decompress
  | .decompression => ¬ d.sessDirection = .compress

lemma isDcDp_of_dcCheckDestinationData (h : dcCheckDestinationData svc d op dir = .ok ()) : d.isDcDp = false := by
  obtain ⟨size, -, h⟩ := bind_value_eq_ok.mp h
  obtain ⟨-, h⟩ := bind_eq_ok.mp h
  obtain ⟨hdp, -⟩ := bind_eq_ok.mp h
  exact eq_false_of_ne_true (refuse_eq_ok.mp hdp)

lemma isDcDp_of_dcParamCheck (h : dcParamCheck svc d op size = .ok ()) : d.isDcDp = false := by
  obtain ⟨-, h⟩ := bind_eq_ok.mp h
  exact isDcDp_of_dcCheckDestinationData (bind_eq_ok.mp h).1

lemma does_of_dcParamCheck (h : dcParamCheck svc d op size = .ok ()) : d.Does .compression := by
  obtain ⟨-, h⟩ := bind_eq_ok.mp h
  exact refuse_eq_ok.mp (bind_eq_ok.mp h).2

/-- What a call does to sessions of a descriptor. Its checks look at nothing but the descriptor. -/
inductive Calls (d : SessionDesc) (dir : RequestDir) (f : Session → Entry) : Prop
  | refused (status : Status) : (∀ s, s.desc = d → f s = .returned status s) → Calls d dir f
  | entered (r : Request) (zeroLength : Bool) : r.compDecomp = dir → d.isDcDp = false → d.Does dir →
      (∀ s, s.desc = d → f s = statefulEntry s r zeroLength) → Calls d dir f

section

variable (svc : Service) (state : ServiceState) (op : OpData) (d : SessionDesc)

lemma calls_cpaDcCompressData : Calls d .compression fun s => cpaDcCompressData svc state s op := by
  rcases hcheck : compressDataCheck svc state d op with status | _
  · exact .refused status fun s hs => by simp only [cpaDcCompressData, hs, hcheck]
  · obtain ⟨-, h⟩ := bind_eq_ok.mp hcheck
    obtain ⟨size, -, h⟩ := bind_value_eq_ok.mp h
    obtain ⟨hparam, h⟩ := bind_eq_ok.mp h
    have hstate := refuse_eq_ok.mp (bind_eq_ok.mp h).1
    refine .entered ⟨.compression, op.flushFlag, .cnvnr, op.checksum⟩ false rfl
      (isDcDp_of_dcParamCheck hparam) (does_of_dcParamCheck hparam) ?_
    intro s hs
    simp only [cpaDcCompressData, statefulEntry, hs, hcheck, if_neg hstate]

lemma calls_cpaDcCompressData2 : Calls d .compression fun s => cpaDcCompressData2 svc state s op := by
  unfold cpaDcCompressData2
  split
  · exact .refused .invalidParam fun _ _ => rfl
  · split
    · exact calls_cpaDcCompressData svc state op d
    · rcases hcheck : compressData2Check svc state d op with status | size
      · exact .refused status fun s hs => by simp only [hs, hcheck]
      · obtain ⟨-, h⟩ := bind_eq_ok.mp hcheck
        obtain ⟨_, -, h⟩ := bind_value_eq_ok.mp h
        obtain ⟨-, h⟩ := bind_eq_ok.mp h
        obtain ⟨-, h⟩ := bind_eq_ok.mp h
        obtain ⟨hparam, -⟩ := bind_eq_ok.mp h
        refine .entered ⟨.compression, op.flushFlag, if op.compressAndVerify then .cnv else .noCnv, op.checksum⟩
          (size = 0) rfl (isDcDp_of_dcParamCheck hparam) (does_of_dcParamCheck hparam) ?_
        intro s hs
        simp only [hs, hcheck]

lemma calls_cpaDcDecompressData : Calls d .decompression fun s => cpaDcDecompressData svc state s op := by
  unfold cpaDcDecompressData
  rcases hcheck : decompressDataCheck svc state d op with status | size
  · exact .refused status fun s hs => by simp only [hs, hcheck]
  · obtain ⟨-, h⟩ := bind_eq_ok.mp hcheck
    obtain ⟨_, -, h⟩ := bind_value_eq_ok.mp h
    obtain ⟨-, h⟩ := bind_eq_ok.mp h
    obtain ⟨hdest, h⟩ := bind_eq_ok.mp h
    refine .entered ⟨.decompression, op.flushFlag, .noCnv, op.checksum⟩
      (size = 0 ∨ size = 1 ∧ op.flushFlag ≠ .final ∧ op.flushFlag ≠ .full)
      rfl (isDcDp_of_dcCheckDestinationData hdest) ?_ ?_
    · exact refuse_eq_ok.mp (bind_eq_ok.mp h).1
    · intro s hs
      simp only [hs, hcheck]

end

lemma Calls.counted {f : Session → Entry} (h : Calls s.desc dir f) : (f s).Counted s := by
  cases h with
  | refused status hf =>
    rw [hf s rfl]
    exact counted_returned s status
  | entered r zeroLength _ hdp _ hf =>
    rw [hf s rfl]
    exact statefulEntry_counted hdp r zeroLength

/-- A step of a submission gets what it needs: its synchronisation cookie, or a cookie and both descriptors. -/
def Granted (svc : Service) (d : SessionDesc) (r : Request) (res : Resources) : Prop :=
  match d.sessState with
  | .stateful => d.syncCallback = true → res.syncCookie = .success
  | .stateless =>
    checkLzsSupport svc d.compType (r.cnvMode ≠ .noCnv) d.sessDirection = .ok () →
      (d.syncCallback = true → res.syncCookie = .success) →
      res.cookie = true ∧ res.srcDesc = true ∧ res.destDesc = true

instance (d : SessionDesc) (r : Request) (res : Resources) : Decidable (Granted svc d r res) := by
  unfold Granted
  cases d.sessState <;> exact inferInstance

/-- What the step up to the put does: a request of a stateless session is counted if it goes on, and
one of a stateful session is no longer counted if it does not. -/
inductive Prepared (s : Session) : Status × Session → Prop
  | goesOn {s' : Session} : Moves (if s.desc.sessState = .stateless then 1 else 0) s s' → Prepared s (.success, s')
  | returned {status : Status} {s' : Session} : status ≠ .success →
      Moves (if s.desc.sessState = .stateful then -1 else 0) s s' → Prepared s (status, s')

lemma checkLzsSupport_error {cnv : Bool} {status : Status}
    (h : checkLzsSupport svc d.compType cnv d.sessDirection = .error status) :
    status ≠ .success ∧ d.sessState = .stateless := by
  unfold checkLzsSupport refuse at h
  split_ifs at h with hlzs
  obtain rfl := Except.error.inj h
  refine ⟨nofun, ?_⟩
  cases hstate : d.sessState with
  | stateless => rfl
  | stateful => exact absurd (hlzs.1.symm.trans (d.deflate_of_stateful hstate)) nofun

lemma prepare_prepared (hdp : s.desc.isDcDp = false)
    (hres : Granted svc s.desc r res) : Prepared s (prepare svc s r res) := by
  have hkeep : Moves 0 s s := moves_zero rfl fun _ => rfl
  unfold Granted at hres
  unfold prepare
  split
  next status hlzs =>
    obtain ⟨hstatus, hstate⟩ := checkLzsSupport_error hlzs
    refine .returned hstatus ?_
    rwa [if_neg (by simp [hstate])]
  next hlzs =>
    cases hstate : s.desc.sessState with
    | stateful =>
      rw [hstate] at hres
      rw [if_neg fun h => h.2 (hres h.1)]
      have hfailed : Moves (if s.desc.sessState = .stateful then -1 else 0) s s.errorExit := by
        rw [if_pos hstate]
        exact errorExit_moves hdp
      split
      next => exact .returned nofun hfailed
      next =>
        split
        next => exact .returned nofun hfailed
        next =>
          have hne : s.desc.sessState ≠ .stateless := by simp [hstate]
          refine .goesOn ?_
          rw [if_neg hne, dcCreateRequest_desc, if_neg hne]
          exact dcCreateRequest_moves s r
    | stateless =>
      rw [hstate] at hres
      split
      next hsync =>
        refine .returned hsync.2 ?_
        rwa [if_neg (by simp [hstate])]
      next hsync =>
        obtain ⟨hcookie, hsrc, hdest⟩ := hres hlzs fun h => Decidable.of_not_not fun hne => hsync ⟨h, hne⟩
        rw [if_neg (by simp [hcookie]), if_neg (by simp [hsrc, hdest])]
        refine .goesOn ?_
        rw [if_pos hstate, dcCreateRequest_desc, if_pos hstate]
        refine ⟨rfl, ?_⟩
        rintro (_ | _ | _) <;>
          simp [Session.count, dcCreateRequest, counter_of_stateless hdp hstate]

lemma send_moves (put : Status) (hdp : s.desc.isDcDp = false) :
    Moves (if put = .success then 0 else -1) s (send s put) := by
  unfold send
  by_cases hput : put = .success
  · rw [if_pos hput, if_pos hput]
    exact moves_zero rfl fun _ => rfl
  · split_ifs
    · have hkeep : Moves 0 s { s with requestType := s.previousRequestType } :=
        moves_zero rfl (by rintro (_ | _ | _) <;> rfl)
      exact hkeep.trans (errorExit_moves hdp)
    · exact errorExit_moves hdp

lemma processCallback_moves (hsupported : resp.unsupportedRequest = false)
    (hpending : s.desc.sessState = .stateful → s.count .stateful ≠ 0) : Moves (-1) s (processCallback s r resp) := by
  have hresp := responded_moves s r resp
  refine (Int.zero_add (-1)) ▸ hresp.trans ?_
  unfold processCallback
  rw [if_neg (by simp [hsupported])]
  have hcount := hresp.count .stateful
  rw [ite_self, Int.add_zero] at hcount
  rw [← hresp.desc, ← hcount] at hpending
  generalize s.responded r resp = t at hpending ⊢
  dsimp only
  split_ifs with hdp hstate hzero
  · refine ⟨rfl, ?_⟩
    rintro (_ | _ | _) <;> simp [Session.count, counter_of_dp hdp, Int.sub_eq_add_neg]
  · refine ⟨rfl, ?_⟩
    rintro (_ | _ | _) <;>
      simp [Session.count, counter_of_stateless (eq_false_of_ne_true hdp) hstate, Int.sub_eq_add_neg]
  · have hstate : t.desc.sessState = .stateful := by
      cases h : t.desc.sessState with
      | stateful => rfl
      | stateless => exact absurd h hstate
    refine ⟨rfl, ?_⟩
    rintro (_ | _ | _) <;> simp [Session.count, counter_of_stateful hstate, Int.sub_eq_add_neg]
  · have hstate : t.desc.sessState = .stateful := by
      cases h : t.desc.sessState with
      | stateful => rfl
      | stateless => exact absurd h hstate
    exact absurd (hpending hstate) hzero

lemma cpaDcDpEnqueueOp_moves {op : DpOpData}
    (h : cpaDcDpEnqueueOp svc state s op room = .ok s') : s.desc.isDcDp = true ∧ Moves 1 s s' := by
  simp only [cpaDcDpEnqueueOp, bind_eq_ok, Except.ok.injEq] at h
  obtain ⟨hparam, -, -, -, -, rfl⟩ := h
  have hdp : s.desc.isDcDp = true := eq_true_of_ne_false (refuse_eq_ok.mp (bind_eq_ok.mp hparam).1)
  refine ⟨hdp, rfl, ?_⟩
  rintro (_ | _ | _) <;> simp [Session.count, counter_of_dp hdp]

lemma cpaDcDpEnqueueOpBatch_moves
    (h : cpaDcDpEnqueueOpBatch svc state s ops room = .ok s') : s.desc.isDcDp = true ∧ Moves ops.length s s' := by
  simp only [cpaDcDpEnqueueOpBatch, bind_eq_ok, refuse_eq_ok, Except.ok.injEq] at h
  obtain ⟨hlen, hparam, -, -, -, -, rfl⟩ := h
  have hdp : s.desc.isDcDp = true := by
    cases ops with
    | nil => exact absurd (Or.inl rfl) hlen
    | cons op ops =>
      obtain ⟨hfirst, -⟩ := bind_eq_ok.mp hparam
      exact eq_true_of_ne_false (refuse_eq_ok.mp (bind_eq_ok.mp hfirst).1)
  refine ⟨hdp, rfl, ?_⟩
  rintro (_ | _ | _) <;> simp [Session.count, counter_of_dp hdp]

/-! ## Runs -/

structure State where
  session : Session
  admitted : List Request
  sending : List Request
  /-- The requests that the ring has taken and whose client has not been called back. -/
  inFlight : List Request

inductive Event
  | compressData (state : ServiceState) (op : OpData)
  | compressData2 (state : ServiceState) (op : OpData)
  | decompressData (state : ServiceState) (op : OpData)
  /-- The `i`-th admitted request is made. -/
  | prepare (i : ℕ) (res : Resources)
  /-- The `i`-th request that was made is put on the ring. -/
  | send (i : ℕ) (put : Status)
  | enqueueOp (state : ServiceState) (op : DpOpData) (room : Bool)
  | enqueueOpBatch (state : ServiceState) (ops : List DpOpData) (room : Bool)
  /-- The response to the `i`-th request in flight. -/
  | respond (i : ℕ) (resp : Response)
  | reset (state : ServiceState) (queueDataToSend : Bool)
  | remove (state : ServiceState) (queueDataToSend : Bool)

def SessionDesc.newState (d : SessionDesc) : State := ⟨d.newSession, [], [], []⟩

def State.enter (w : State) : Entry → State
  | .returned _ s => { w with session := s }
  | .admitted s r => { w with session := s, admitted := w.admitted ++ [r] }

def State.enqueued (w : State) (ops : List DpOpData) : Except Status Session → State
  | .error _ => w
  | .ok s => { w with session := s, inFlight := w.inFlight ++ ops.map (DpOpData.request s.desc) }

def step (svc : Service) (w : State) : Event → Option State
  | .compressData state op => some (w.enter (cpaDcCompressData svc state w.session op))
  | .compressData2 state op => some (w.enter (cpaDcCompressData2 svc state w.session op))
  | .decompressData state op => some (w.enter (cpaDcDecompressData svc state w.session op))
  | .prepare i res => w.admitted[i]?.map fun r =>
    let (status, s) := prepare svc w.session r res
    { w with
      session := s
      admitted := w.admitted.eraseIdx i
      sending := if status = .success then w.sending ++ [r] else w.sending }
  | .send i put => w.sending[i]?.map fun r =>
    { w with
      session := send w.session put
      sending := w.sending.eraseIdx i
      inFlight := if put = .success then w.inFlight ++ [r] else w.inFlight }
  | .enqueueOp state op room => some (w.enqueued [op] (cpaDcDpEnqueueOp svc state w.session op room))
  | .enqueueOpBatch state ops room => some (w.enqueued ops (cpaDcDpEnqueueOpBatch svc state w.session ops room))
  | .respond i resp => w.inFlight[i]?.map fun r =>
    { w with session := processCallback w.session r resp, inFlight := w.inFlight.eraseIdx i }
  | .reset state queueDataToSend => some { w with session := (cpaDcResetSession state queueDataToSend w.session).2 }
  | .remove state queueDataToSend => some { w with session := (cpaDcRemoveSession state queueDataToSend w.session).2 }

/-- The number of requests in flight, and of those that calls in progress have counted. -/
def State.outstanding (w : State) : ℕ :=
  (if w.session.desc.sessState = .stateful then w.admitted.length else 0) + w.sending.length + w.inFlight.length

/-- A step that is as it should be: it gets what it needs, the device supports the request, and no session is
reset while requests are outstanding. -/
def Sound (svc : Service) (w : State) : Event → Prop
  | .prepare i res =>
    match w.admitted[i]? with
    | some r => Granted svc w.session.desc r res
    | none => True
  | .respond _ resp => resp.unsupportedRequest = false
  | .reset state _ => state = .running → w.session.desc.isDcDp = false → w.outstanding = 0
  | _ => True

instance (w : State) (e : Event) : Decidable (Sound svc w e) := by
  unfold Sound
  split
  next => split <;> exact inferInstance
  next => exact inferInstance
  next => exact inferInstance
  next => exact inferInstance

def Accounted (w : State) : Prop :=
  ∀ c, w.session.count c = if c = w.session.desc.counter then (w.outstanding : ℤ) else 0

structure Invariant (w : State) : Prop where
  accounted : Accounted w
  le_one : w.session.desc.sessState = .stateful → w.outstanding ≤ 1
  /-- There are no calls of the traditional interface on a session of the other one. -/
  noCalls : w.session.desc.isDcDp = true → w.admitted = [] ∧ w.sending = []

variable {w w' : State} {es : List Event}

lemma Accounted.move (h : Accounted w) (hm : Moves n w.session w'.session)
    (hout : (w'.outstanding : ℤ) = w.outstanding + n) : Accounted w' := by
  intro c
  rw [hm.count, hm.desc, h c, hout]
  split_ifs
  · rfl
  · rfl

lemma Accounted.outstanding_eq_zero (h : Accounted w)
    (hzero : w.session.count w.session.desc.counter = 0) : w.outstanding = 0 := by
  rw [h, if_pos rfl] at hzero
  exact Int.ofNat_eq_zero.mp hzero

section

variable (h : Invariant w)

include h

lemma Invariant.move (hm : Moves n w.session w'.session) (hout : (w'.outstanding : ℤ) = w.outstanding + n)
    (hone : w.session.desc.sessState = .stateful → n ≤ 0 ∨ w.outstanding = 0 ∧ n ≤ 1)
    (hcalls : w.session.desc.isDcDp = true → w'.admitted = [] ∧ w'.sending = []) : Invariant w' := by
  refine ⟨h.accounted.move hm hout, ?_, ?_⟩
  · intro hstate
    rw [hm.desc] at hstate
    have hle := h.le_one hstate
    rcases hone hstate with hn | ⟨hzero, hn⟩
    · omega
    · omega
  · intro hdp
    exact hcalls (hm.desc ▸ hdp)

lemma invariant_enter {e : Entry} (he : e.Counted w.session) : Invariant (w.enter e) := by
  cases he with
  | returned hm =>
    refine h.move hm ?_ (fun _ => Or.inl Int.le_rfl) h.noCalls
    simp [State.outstanding, State.enter, hm.desc]
  | admitted hdp hzero hm =>
    refine h.move hm ?_ ?_ fun h => absurd h (by simp [hdp])
    · simp only [State.outstanding, State.enter, hm.desc, length_append]
      split_ifs
      · simp only [length_singleton]
        omega
      · simp
    · intro hstate
      refine Or.inr ⟨h.accounted.outstanding_eq_zero ?_, by simp [hstate]⟩
      rw [counter_of_stateful hstate]
      exact hzero hstate

omit h in
lemma length_eraseIdx_of_get {l : List Request} (h : l[i]? = some r) : (l.eraseIdx i).length + 1 = l.length := by
  obtain ⟨hi, -⟩ := List.getElem?_eq_some_iff.mp h
  rw [length_eraseIdx_of_lt hi]
  omega

lemma Invariant.isDcDp_of_call
    (hr : w.admitted[i]? = some r ∨ w.sending[i]? = some r) : w.session.desc.isDcDp = false := by
  by_contra hdp
  obtain ⟨hadmitted, hsending⟩ := h.noCalls (eq_true_of_ne_false hdp)
  rcases hr with hr | hr
  · simp [hadmitted] at hr
  · simp [hsending] at hr

lemma invariant_prepare
    (hsound : Sound svc w (.prepare i res)) (hstep : step svc w (.prepare i res) = some w') : Invariant w' := by
  obtain ⟨r, hr, rfl⟩ := map_eq_some_iff.mp hstep
  have hdp := h.isDcDp_of_call (Or.inl hr)
  have hlen := length_eraseIdx_of_get hr
  simp only [Sound, hr] at hsound
  have hp := prepare_prepared hdp hsound
  generalize prepare svc w.session r res = p at hp ⊢
  cases hp with
  | goesOn hm =>
    refine h.move hm ?_ ?_ fun h => absurd h (by simp [hdp])
    · simp only [State.outstanding, hm.desc, if_true, length_append, length_singleton]
      cases w.session.desc.sessState with
      | stateful | stateless =>
        simp only [if_true, reduceCtorEq, if_false]
        omega
    · intro hstate
      exact Or.inl (by simp [hstate])
  | returned hstatus hm =>
    refine h.move hm ?_ ?_ fun h => absurd h (by simp [hdp])
    · simp only [State.outstanding, hm.desc, hstatus, if_false]
      split_ifs
      · omega
      · omega
    · intro hstate
      exact Or.inl (by simp [hstate])

lemma invariant_send {put : Status} (hstep : step svc w (.send i put) = some w') : Invariant w' := by
  obtain ⟨r, hr, rfl⟩ := map_eq_some_iff.mp hstep
  have hdp := h.isDcDp_of_call (Or.inr hr)
  have hlen := length_eraseIdx_of_get hr
  have hm := send_moves put hdp
  refine h.move hm ?_ ?_ fun h => absurd h (by simp [hdp])
  · simp only [State.outstanding, hm.desc]
    by_cases hput : put = .success
    · rw [if_pos hput, if_pos hput, length_append, length_singleton]
      omega
    · rw [if_neg hput, if_neg hput]
      omega
  · intro _
    exact Or.inl (by split_ifs <;> decide)

lemma invariant_respond
    (hsound : Sound svc w (.respond i resp)) (hstep : step svc w (.respond i resp) = some w') : Invariant w' := by
  obtain ⟨r, hr, rfl⟩ := map_eq_some_iff.mp hstep
  have hlen := length_eraseIdx_of_get hr
  have hpending : w.session.desc.sessState = .stateful → w.session.count .stateful ≠ 0 := by
    intro hstate hzero
    rw [← counter_of_stateful hstate] at hzero
    have := h.accounted.outstanding_eq_zero hzero
    unfold State.outstanding at this
    omega
  have hm := processCallback_moves (r := r) hsound hpending
  refine h.move hm ?_ (fun _ => Or.inl (by decide)) h.noCalls
  simp only [State.outstanding, hm.desc]
  omega

lemma invariant_enqueued {res : Except Status Session}
    (hres : ∀ s, res = .ok s → w.session.desc.isDcDp = true ∧ Moves ops.length w.session s) :
    Invariant (w.enqueued ops res) := by
  cases res with
  | error status => exact h
  | ok s =>
    obtain ⟨hdp, hm⟩ := hres s rfl
    refine h.move hm ?_ ?_ h.noCalls
    · simp only [State.outstanding, State.enqueued, hm.desc, length_append, length_map]
      omega
    · intro hstate
      exact absurd (hstate.symm.trans (w.session.desc.stateless_of_dp hdp)) nofun

end

/-- A reset leaves the session as it is, or clears its counters. The latter happens to a session of
the data-plane interface only if nothing is pending. -/
lemma cpaDcResetSession_cases (state : ServiceState) (q : Bool) (s : Session) :
    (cpaDcResetSession state q s).2 = s ∨ (state = .running ∧ (s.desc.isDcDp = true → s.count .dpStateless = 0) ∧
        (cpaDcResetSession state q s).2.desc = s.desc ∧ ∀ c, (cpaDcResetSession state q s).2.count c = 0) := by
  unfold cpaDcResetSession
  cases state with
  | restarting | stopped => exact Or.inl rfl
  | running =>
    simp only [salRunningCheck]
    by_cases hdp : s.desc.isDcDp = true
    · rw [if_pos hdp]
      by_cases hpending : q = true ∨ s.pendingDpStatelessCbCount ≠ 0
      · rw [if_pos hpending]
        exact Or.inl rfl
      · rw [if_neg hpending]
        refine Or.inr ⟨trivial, fun _ => ?_, rfl, ?_⟩
        · exact Decidable.of_not_not fun hne => hpending (Or.inr hne)
        · rintro (_ | _ | _) <;> rfl
    · rw [if_neg hdp]
      refine Or.inr ⟨trivial, fun h => absurd h hdp, rfl, ?_⟩
      rintro (_ | _ | _) <;> rfl

lemma outstanding_of_reset (h : Accounted w) (hsound : Sound svc w (.reset state q))
    (hchanged : (cpaDcResetSession state q w.session).2 ≠ w.session) : w.outstanding = 0 := by
  rcases cpaDcResetSession_cases state q w.session with hsame | ⟨hstate, hzero, -, -⟩
  · exact absurd hsame hchanged
  · cases hdp : w.session.desc.isDcDp with
    | false => exact hsound hstate hdp
    | true =>
      apply h.outstanding_eq_zero
      rw [counter_of_dp hdp]
      exact hzero hdp

lemma invariant_reset (h : Invariant w) (hsound : Sound svc w (.reset state q)) :
    Invariant { w with session := (cpaDcResetSession state q w.session).2 } := by
  by_cases hchanged : (cpaDcResetSession state q w.session).2 = w.session
  · rw [hchanged]
    exact h
  · have hnone := outstanding_of_reset h.accounted hsound hchanged
    rcases cpaDcResetSession_cases state q w.session with hsame | ⟨-, -, hdesc, hcount⟩
    · exact absurd hsame hchanged
    · have hout : State.outstanding { w with session := (cpaDcResetSession state q w.session).2 } = 0 := by
        unfold State.outstanding at hnone ⊢
        rw [hdesc]
        exact hnone
      refine ⟨?_, fun _ => hout ▸ Nat.zero_le 1, ?_⟩
      · intro c
        rw [hcount, hout]
        exact (ite_self 0).symm
      · intro hdp
        exact h.noCalls (hdesc ▸ hdp)

lemma cpaDcRemoveSession_moves (state : ServiceState) (q : Bool) (s : Session) :
    Moves 0 s (cpaDcRemoveSession state q s).2 := by
  have hkeep : Moves 0 s s := moves_zero rfl fun _ => rfl
  unfold cpaDcRemoveSession
  split
  next => exact hkeep
  next =>
    split_ifs
    · exact hkeep
    · exact hkeep
    · exact hkeep
    · exact moves_zero rfl (by rintro (_ | _ | _) <;> rfl)

lemma count_of_cpaDcRemoveSession (h : (cpaDcRemoveSession state q s).1 = .success) : s.count s.desc.counter = 0 := by
  unfold cpaDcRemoveSession at h
  cases state with
  | restarting | stopped => exact absurd h nofun
  | running =>
    simp only [salRunningCheck] at h
    split_ifs at h with hdp hpending hpending
    · rw [counter_of_dp hdp]
      exact Decidable.of_not_not fun hne => hpending (Or.inr hne)
    · unfold Session.Pending at hpending
      rw [not_or, Decidable.not_not, Decidable.not_not] at hpending
      cases hstate : s.desc.sessState with
      | stateless =>
        rw [counter_of_stateless (eq_false_of_ne_true hdp) hstate]
        exact hpending.1
      | stateful =>
        rw [counter_of_stateful hstate]
        exact hpending.2

lemma invariant_step {e : Event} (h : Invariant w) (hsound : Sound svc w e)
    (hstep : step svc w e = some w') : Invariant w' := by
  cases e with
  | compressData state op =>
    cases hstep
    exact invariant_enter h (calls_cpaDcCompressData svc state op _).counted
  | compressData2 state op =>
    cases hstep
    exact invariant_enter h (calls_cpaDcCompressData2 svc state op _).counted
  | decompressData state op =>
    cases hstep
    exact invariant_enter h (calls_cpaDcDecompressData svc state op _).counted
  | prepare i res => exact invariant_prepare h hsound hstep
  | send i put => exact invariant_send h hstep
  | enqueueOp state op room =>
    cases hstep
    exact invariant_enqueued h fun s hs => cpaDcDpEnqueueOp_moves hs
  | enqueueOpBatch state ops room =>
    cases hstep
    exact invariant_enqueued h fun s hs => cpaDcDpEnqueueOpBatch_moves hs
  | respond i resp => exact invariant_respond h hsound hstep
  | reset state q =>
    cases hstep
    exact invariant_reset h hsound
  | remove state q =>
    cases hstep
    have hm := cpaDcRemoveSession_moves state q w.session
    refine h.move hm ?_ (fun _ => Or.inl Int.le_rfl) h.noCalls
    simp only [State.outstanding, hm.desc]
    omega

lemma invariant_newState (d : SessionDesc) : Invariant d.newState := by
  have hout : d.newState.outstanding = 0 := by
    unfold State.outstanding
    split_ifs <;> rfl
  refine ⟨?_, fun _ => hout ▸ Nat.zero_le 1, fun _ => ⟨rfl, rfl⟩⟩
  intro c
  rw [hout]
  cases c <;> exact (ite_self 0).symm

def soundStep (svc : Service) : State → Event → State → Prop := guarded (Sound svc) (ofFun (step svc))

lemma invariant_of_run (hrun : Run (soundStep svc) d.newState es w) : Invariant w :=
  hrun.invariant (fun _ _ _ h hstep => invariant_step h hstep.1 hstep.2) (invariant_newState d)

/-- **One stateful request at a time.** -/
theorem stateful_outstanding_le_one
    (hrun : Run (soundStep svc) d.newState es w) (hstate : w.session.desc.sessState = .stateful) :
    w.outstanding ≤ 1 :=
  (invariant_of_run hrun).le_one hstate

/-- **Accounting**, in every run of a session whose steps are sound. -/
theorem pending_counts_of_sound_run (svc : Service) (d : SessionDesc) (es : List Event) (w : State)
    (hrun : Run (soundStep svc) d.newState es w) :
    Accounted w ∧ (w.admitted = [] → w.sending = [] → w.outstanding = w.inFlight.length) ∧
      (∀ state q, (cpaDcRemoveSession state q w.session).1 = .success → w.outstanding = 0) ∧
      ∀ state q, Sound svc w (.reset state q) →
        (cpaDcResetSession state q w.session).2 ≠ w.session → w.outstanding = 0 := by
  have hinv := invariant_of_run hrun
  refine ⟨hinv.accounted, ?_, ?_, ?_⟩
  · intro hadmitted hsending
    simp [State.outstanding, hadmitted, hsending]
  · intro state q hremoved
    exact hinv.accounted.outstanding_eq_zero (count_of_cpaDcRemoveSession hremoved)
  · intro state q hsound hchanged
    exact outstanding_of_reset hinv.accounted hsound hchanged

/-! ## Runs that go wrong -/

def fullService : Service where
  cnv := true
  cnvnr := true
  statelessLZSCompression := true
  statelessLZSDecompression := true
  interBuffs := true
  minOutputBuffSize := 64
  maxNumCompConcurrentReq := 32

def deflateSetup (sessState : SessionState) : SessionSetupData where
  compType := .deflate
  huffType := .static
  asbStaticDynamic := false
  sessDirection := .combined
  sessState := sessState
  checksum := .crc32

def kilobyte : OpData where
  pointers := true
  srcBuffSize := some 1024
  destBuffSize := some 2048
  inPlace := false
  flushFlag := .sync
  compressAndVerify := false
  compressAndVerifyAndRecover := false
  checksum := 0

def allResources : Resources := ⟨.success, true, true, true⟩

def submission (res : Resources) : List Event := [.compressData2 .running kilobyte, .prepare 0 res]

def accepted : List Event := submission allResources ++ [.send 0 .success]

def response (unsupportedRequest : Bool) : Response where
  unsupportedRequest := unsupportedRequest
  cmpStatOk := true
  cmpErr := .noError
  xlatStatOk := true
  xlatErr := .noError
  inputByteCounter := 1024
  currCrc32 := 0
  currAdler32 := 1
  stateRegisters := []

def deflateDesc (sessState : SessionState) (syncCallback : Bool) : SessionDesc where
  compType := .deflate
  huffType := .static
  sessDirection := .combined
  sessState := sessState
  checksumType := .crc32
  syncCallback := syncCallback
  isDcDp := false
  deflate_of_stateful := fun _ => rfl
  stateless_of_dp := nofun

/-- The session's own counter, the number of outstanding requests, and what comes of removing the
session. -/
def State.summary (w : State) : ℤ × ℕ × Status :=
  (w.session.count w.session.desc.counter, w.outstanding, (cpaDcRemoveSession .running false w.session).1)

/-- A kilobyte that is accepted is accounted for. -/
theorem kilobyte_accounted : dcInitSession fullService (deflateSetup .stateless) false (.ok ()) true true =
        .ok (deflateDesc .stateless false) ∧
      ∃ w, Run (soundStep fullService) (deflateDesc .stateless false).newState accepted w ∧
        w.summary = (1, 1, .retry) ∧ Accounted w := by
  refine ⟨rfl, ?_⟩
  exact (exec_guardFun_run rfl).exists_and fun hrun => ⟨rfl, (pending_counts_of_sound_run _ _ _ _ hrun).1⟩

/-- A second kilobyte has to wait. -/
theorem stateful_request_alone : ∃ w, Run (soundStep fullService) (deflateDesc .stateful false).newState
        (accepted ++ [.compressData2 .running kilobyte]) w ∧
      cpaDcCompressData2 fullService .running w.session kilobyte = .returned .retry w.session ∧ w.outstanding ≤ 1 :=
  (exec_guardFun_run rfl).exists_and fun hrun => ⟨rfl, stateful_outstanding_le_one hrun rfl⟩

/-- **Four runs**, one for each of the defects. -/
theorem pending_counts_wrong : dcInitSession fullService (deflateSetup .stateless) false (.ok ()) true true =
        .ok (deflateDesc .stateless false) ∧
      dcInitSession fullService (deflateSetup .stateful) true (.ok ()) true true = .ok (deflateDesc .stateful true) ∧
      (exec (step fullService) (deflateDesc .stateless false).newState
          (submission { allResources with cookie := false } ++ accepted)).map State.summary = some (0, 1, .success) ∧
      (exec (step fullService) (deflateDesc .stateless false).newState
          (accepted ++ [.respond 0 (response true)])).map State.summary = some (1, 0, .retry) ∧
      (exec (step fullService) (deflateDesc .stateless false).newState accepted).map
          (fun w => (cpaDcResetSession .running false w.session).1) = some .retry ∧
      (exec (step fullService) (deflateDesc .stateless false).newState
          (accepted ++ [.reset .running false])).map State.summary = some (0, 1, .success) ∧
      (exec (step fullService) (deflateDesc .stateful true).newState
          (submission { allResources with syncCookie := .resource } ++
            [.compressData2 .running kilobyte])).map State.summary = some (1, 0, .retry) :=
  ⟨rfl, rfl, by decide, by decide, by decide, by decide, by decide⟩

end QuickAssist.Dc
