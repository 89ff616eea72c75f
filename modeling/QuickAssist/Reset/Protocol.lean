import QuickAssist.Reset.Device

/-!
# What a reset promises

`resets_sound` is about every interleaving of any number of requests and workers, as long as nothing goes wrong
outside (`Action.Smooth`). A request then has one of six lives (`Life`), and the bit `ADF_STATUS_RESTARTING` is a lock
that it holds from setting it to clearing it (`Exclusive`).

**The defects.** Each of the conditions is needed; `resets_go_wrong` has a run for each of them.

* The record cannot be allocated: the bit stays set, and all later requests return zero and do nothing.
* The device is in use: the caller is told that all is well, and the bit stays set.
* The device cannot be started again: the worker releases the record while the caller waits on it, and the caller
  releases it once more.
* The time is over: the caller releases the record while the worker has it.
* The bit is tested and set in two steps: two requests get in, and when the first worker clears the bit the second
  one deletes the configuration of the device.
-/

namespace QuickAssist.Reset

open Lib

/-! ## The property -/

/-- A reset is under way: its request has set the bit and is about to queue the work, or the worker has not
come to clearing the bit. -/
def Request.Underway (q : Request) : Prop :=
  q.caller = .kzalloc ∨ q.caller = .queueWork ∨
    q.worker ∈ [.queued, .stop, .shutdown, .checkInUse, .init, .start, .clearRestarting]
  deriving Decidable

structure Sound (s : Resets) : Prop where
  /-- Zero is returned to a synchronous request that has queued a reset only if the device was started
  again. -/
  restarted : ∀ r, (s.agent r).mode = .sync → (s.agent r).worker ≠ .none →
    (s.agent r).caller = .returned .zero → (s.agent r).restarted = true
  underway : s.shared.restarting = true → ∃ r, (s.agent r).Underway
  atMostOnce : ∀ r, (s.agent r).released ≤ 1
  once : ∀ r ret, (s.agent r).caller = .returned ret → (s.agent r).worker = .finished → (s.agent r).released = 1
  untouched : ∀ r, (s.agent r).stale = false

def Action.Smooth (st : Status) : Action → Prop
  | .setRestarting => st.restarting = false
  | .kzalloc ok => ok = true
  | .timeout => False
  | .checkInUse inUse => inUse = false
  | .init answer => answer = .ok
  | .start answer => answer = .ok
  | _ => True

instance (st : Status) (a : Action) : Decidable (a.Smooth st) := by
  cases a <;> unfold Action.Smooth <;> infer_instance

/-! ## The life of a request -/

def Request.fresh (mode : ResetMode) (caller : CallerPc) : Request := ⟨mode, caller, .none, false, 0, false, false⟩

def Request.running (mode : ResetMode) (worker : WorkerPc) : Request :=
  ⟨mode, if mode = .sync then .waiting else .returned .zero, worker, false, 0, false,
    decide (worker = .clearRestarting ∨ worker = .finish)⟩

inductive Life : Request → Prop
  | before (mode : ResetMode) (caller : CallerPc)
      (hcaller : caller ∈ [.idle, .checkStarted, .checkRestarting, .setRestarting, .kzalloc,
        .queueWork]) : Life (.fresh mode caller)
  | ignored (mode : ResetMode) : Life (.fresh mode (.returned .zero))
  | running (mode : ResetMode) (worker : WorkerPc)
      (hworker : worker ∈ [.queued, .stop, .shutdown, .checkInUse, .init, .start, .clearRestarting,
        .finish]) : Life (.running mode worker)
  | told : Life ⟨.sync, .waiting, .finished, true, 0, false, true⟩
  | woken : Life ⟨.sync, .kfree .zero, .finished, true, 0, false, true⟩
  | ended (mode : ResetMode) : Life ⟨mode, .returned .zero, .finished, decide (mode = .sync), 1, false, true⟩

section Lives

variable {st st' : Status} {q q' : Request} {x : Status × Request}

lemma provided_eq_some {α : Type*} {c : Prop} [Decidable c] {x y : α} (h : provided c x = some y) : c ∧ x = y := by
  unfold provided at h
  split_ifs at h with hc
  exact ⟨hc, Option.some.inj h⟩

lemma Life.eq_fresh (hlife : Life q) {caller : CallerPc} (h : provided (q.caller = caller) x = some (st', q'))
    (hcaller : caller ∈ [.idle, .checkStarted, .checkRestarting, .setRestarting, .kzalloc,
      .queueWork] := by simp) : (∃ mode, q = .fresh mode caller) ∧ x.1 = st' ∧ x.2 = q' := by
  obtain ⟨rfl, rfl⟩ := provided_eq_some h
  refine ⟨?_, rfl, rfl⟩
  cases hlife with
  | before mode => exact ⟨mode, rfl⟩
  | ignored => simp [Request.fresh] at hcaller
  | running mode worker => cases mode <;> simp [Request.running] at hcaller
  | told | woken | ended => simp at hcaller

lemma Life.eq_running (hlife : Life q) {worker : WorkerPc} (h : provided (q.worker = worker) x = some (st', q'))
    (hworker : worker ∈ [.queued, .stop, .shutdown, .checkInUse, .init, .start, .clearRestarting,
      .finish] := by simp) : (∃ mode, q = .running mode worker) ∧ x.1 = st' ∧ x.2 = q' := by
  obtain ⟨rfl, rfl⟩ := provided_eq_some h
  refine ⟨?_, rfl, rfl⟩
  cases hlife with
  | before | ignored => simp [Request.fresh] at hworker
  | running mode => exact ⟨mode, rfl⟩
  | told | woken | ended => simp at hworker

lemma Life.eq_told (h : Life q) (hcaller : q.caller = .waiting) (hcompl : q.compl = true) :
    q = ⟨.sync, .waiting, .finished, true, 0, false, true⟩ := by
  cases h with
  | before mode caller | ignored => simp [Request.fresh] at hcompl
  | running => simp [Request.running] at hcompl
  | told => rfl
  | woken | ended => simp at hcaller

lemma Life.eq_woken (h : Life q) {ret : Ret} (hcaller : q.caller = .kfree ret) :
    q = ⟨.sync, .kfree .zero, .finished, true, 0, false, true⟩ ∧ ret = .zero := by
  cases h with
  | before mode caller hmem =>
    simp only [Request.fresh] at hcaller
    simp [hcaller] at hmem
  | ignored => simp [Request.fresh] at hcaller
  | running mode => cases mode <;> simp [Request.running] at hcaller
  | told => simp at hcaller
  | woken =>
    simp only [CallerPc.kfree.injEq] at hcaller
    exact ⟨rfl, hcaller.symm⟩
  | ended => simp at hcaller

@[simp] lemma underway_fresh (mode : ResetMode) (caller : CallerPc) :
    (Request.fresh mode caller).Underway ↔ caller = .kzalloc ∨ caller = .queueWork := by
  simp [Request.Underway, Request.fresh]

@[simp] lemma underway_running (mode : ResetMode) (worker : WorkerPc) : (Request.running mode worker).Underway ↔
      worker ∈ [.queued, .stop, .shutdown, .checkInUse, .init, .start, .clearRestarting] := by
  cases mode <;> simp [Request.Underway, Request.running]

lemma adfDevStop_keeps (st : Status) (aeStopFails : Bool) : (adfDevStop st aeStopFails).restarting = st.restarting ∧
      (adfDevStop st aeStopFails).configured = st.configured := by
  unfold adfDevStop
  split <;> exact ⟨rfl, rfl⟩

structure Lives (st : Status) (q : Request) (st' : Status) (q' : Request) : Prop where
  life : Life q'
  flag : KeepsFlag (fun st : Status => st.restarting = true) Request.Underway st q st' q'
  configured : st'.configured = true

lemma Lives.of_caller (hcfg : st.configured = true) {mode mode' : ResetMode}
    {caller caller' : CallerPc} (hlife : Life (.fresh mode' caller'))
    (hunderway : (caller' = .kzalloc ∨ caller' = .queueWork) ↔
      (caller = .kzalloc ∨ caller = .queueWork) := by simp) : Lives st (.fresh mode caller) st (.fresh mode' caller') :=
  ⟨hlife, .of_same (by simpa using hunderway) Iff.rfl, hcfg⟩

lemma Lives.of_worker {mode : ResetMode} {worker worker' : WorkerPc}
    (hrestarting : st'.restarting = st.restarting) (hcfg : st'.configured = true)
    (hworker : worker ∈ [.queued, .stop, .shutdown, .checkInUse, .init, .start] := by simp)
    (hworker' : worker' ∈ [.stop, .shutdown, .checkInUse, .init, .start, .clearRestarting] := by simp) :
    Lives st (.running mode worker) st' (.running mode worker') := by
  refine ⟨.running mode worker' ?_, .of_same (iff_of_true ?_ ?_) ?_, hcfg⟩
  · simp at hworker' ⊢
    tauto
  · tauto
  · simp at hworker ⊢
    tauto
  · rw [hrestarting]

/-- **The step lemma.** -/
theorem resetAct_lives (hlife : Life q) (hflag : q.Underway → st.restarting = true)
    (hcfg : st.configured = true) {a : Action} (hsmooth : a.Smooth st)
    (h : resetAct st q a = some (st', q')) : Lives st q st' q' := by
  cases a with
  | call mode =>
    obtain ⟨⟨mode₀, rfl⟩, rfl, rfl⟩ := hlife.eq_fresh h
    exact Lives.of_caller hcfg (.before mode .checkStarted (by simp))
  | checkStarted =>
    obtain ⟨⟨mode, rfl⟩, rfl, rfl⟩ := hlife.eq_fresh h
    cases adfDevStarted st with
    | true => exact Lives.of_caller hcfg (.before mode .checkRestarting (by simp))
    | false => exact Lives.of_caller hcfg (.ignored mode)
  | checkRestarting =>
    obtain ⟨⟨mode, rfl⟩, rfl, rfl⟩ := hlife.eq_fresh h
    cases st.restarting with
    | true => exact Lives.of_caller hcfg (.ignored mode)
    | false => exact Lives.of_caller hcfg (.before mode .setRestarting (by simp))
  | setRestarting =>
    obtain ⟨⟨mode, rfl⟩, rfl, rfl⟩ := hlife.eq_fresh h
    have hclear : st.restarting = false := hsmooth
    refine ⟨.before mode .kzalloc (by simp), ⟨fun _ _ => ?_, fun hholds => ?_, fun hiff => ?_⟩, hcfg⟩
    · simp [hclear]
    · simp at hholds
    · have hnow : (Request.fresh mode .kzalloc).Underway := by simp
      have hbefore := hiff.mp hnow
      simp at hbefore
  | kzalloc ok =>
    obtain ⟨⟨mode, rfl⟩, rfl, rfl⟩ := hlife.eq_fresh h
    obtain rfl : ok = true := hsmooth
    exact Lives.of_caller hcfg (.before mode .queueWork (by simp))
  | queueWork =>
    obtain ⟨⟨mode, rfl⟩, rfl, rfl⟩ := hlife.eq_fresh h
    have hrunning : Life (.running mode .queued) := .running mode .queued (by simp)
    have hunderway : (Request.running mode .queued).Underway ↔ (Request.fresh mode .queueWork).Underway := by simp
    exact ⟨hrunning, .of_same hunderway Iff.rfl, hcfg⟩
  | wake =>
    obtain ⟨⟨hpc, hcompl⟩, heq⟩ := provided_eq_some h
    obtain rfl := hlife.eq_told hpc hcompl
    cases heq
    exact ⟨.woken, .of_same (iff_of_false (by decide) (by decide)) Iff.rfl, hcfg⟩
  | timeout => exact hsmooth.elim
  | kfree =>
    simp only [resetAct] at h
    split at h
    next ret hpc =>
      obtain ⟨rfl, rfl⟩ := hlife.eq_woken hpc
      cases h
      exact ⟨.ended .sync, .of_same (iff_of_false (by decide) (by decide)) Iff.rfl, hcfg⟩
    next => cases h
  | begin =>
    obtain ⟨⟨mode, rfl⟩, rfl, rfl⟩ := hlife.eq_running h
    exact Lives.of_worker rfl hcfg
  | stop aeStopFails =>
    obtain ⟨⟨mode, rfl⟩, rfl, rfl⟩ := hlife.eq_running h
    obtain ⟨hrestarting, hconf⟩ := adfDevStop_keeps st aeStopFails
    exact Lives.of_worker hrestarting (hconf.trans hcfg)
  | shutdown aeShutdownFails =>
    obtain ⟨⟨mode, rfl⟩, rfl, rfl⟩ := hlife.eq_running h
    -- the configuration is kept because the bit is set
    have hset := hflag (by simp)
    exact Lives.of_worker rfl (by simp [adfDevShutdown, hcfg, hset])
  | checkInUse inUse =>
    obtain ⟨⟨mode, rfl⟩, rfl, rfl⟩ := hlife.eq_running h
    obtain rfl : inUse = false := hsmooth
    exact Lives.of_worker rfl hcfg
  | init answer =>
    obtain ⟨⟨mode, rfl⟩, hst, hq⟩ := hlife.eq_running h
    obtain rfl : answer = .ok := hsmooth
    simp only [adfDevInit, hcfg, Bool.not_true, Bool.false_eq_true, if_false, if_true] at hst hq
    subst hst hq
    exact Lives.of_worker rfl rfl
  | start answer =>
    obtain rfl : answer = .ok := hsmooth
    obtain ⟨⟨mode, rfl⟩, rfl, rfl⟩ := hlife.eq_running h
    exact Lives.of_worker rfl hcfg
  | clearRestarting =>
    obtain ⟨⟨mode, rfl⟩, rfl, rfl⟩ := hlife.eq_running h
    have hlives : Life (.running mode .finish) := .running mode .finish (by simp)
    have hover : ¬ (Request.running mode .finish).Underway := by simp
    refine ⟨hlives, ⟨fun hnot => ?_, fun _ _ => ?_, fun hiff => ?_⟩, hcfg⟩
    · simp at hnot
    · simp
    · exact absurd (hiff.mpr (by simp)) hover
  | finish =>
    obtain ⟨⟨mode, rfl⟩, rfl, rfl⟩ := hlife.eq_running h
    dsimp only
    cases mode with
    | sync => exact ⟨.told, .of_same (iff_of_false (by decide) (by decide)) Iff.rfl, hcfg⟩
    | async => exact ⟨.ended .async, .of_same (iff_of_false (by decide) (by decide)) Iff.rfl, hcfg⟩

end Lives

/-! ## In every run -/

structure Inv (s : Resets) : Prop where
  life : ∀ r, Life (s.agent r)
  lock : Exclusive (fun st : Status => st.restarting = true) Request.Underway s
  configured : s.shared.configured = true

lemma Inv.sound {s : Resets} (h : Inv s) : Sound s := by
  have hcase : ∀ r, ((s.agent r).mode = .sync → (s.agent r).worker ≠ .none →
        (s.agent r).caller = .returned .zero → (s.agent r).restarted = true) ∧ (s.agent r).released ≤ 1 ∧
      (∀ ret, (s.agent r).caller = .returned ret → (s.agent r).worker = .finished →
        (s.agent r).released = 1) ∧ (s.agent r).stale = false := by
    intro r
    generalize s.agent r = q, h.life r = hlife
    cases hlife with
    | before | ignored => simp [Request.fresh]
    | running mode worker hworker =>
      refine ⟨?_, by simp [Request.running], ?_, rfl⟩
      · rintro hmode - hcaller
        obtain rfl : mode = .sync := hmode
        simp [Request.running] at hcaller
      · rintro ret - hfinished
        simp only [Request.running] at hfinished
        simp [hfinished] at hworker
    | told | woken | ended => simp
  exact ⟨fun r => (hcase r).1, h.lock.flag_iff.mp, fun r => (hcase r).2.1, fun r => (hcase r).2.2.1,
    fun r => (hcase r).2.2.2⟩

lemma Inv.step {s s' : Resets} {e : ℕ × Action} (h : Inv s) (hsmooth : e.2.Smooth s.shared)
    (hstep : resetStep s e = some s') : Inv s' := by
  obtain ⟨st, q, hact, rfl⟩ := Agents.step_eq_some hstep
  have hflag : (s.agent e.1).Underway → s.shared.restarting = true := fun hunderway =>
    h.lock.flag_iff.mpr ⟨e.1, hunderway⟩
  obtain ⟨hlife, hkeeps, hcfg⟩ := resetAct_lives (h.life e.1) hflag h.configured hsmooth hact
  exact ⟨Agents.forall_step h.life hlife, h.lock.step hkeeps, hcfg⟩

def Smooth (s : Resets) (e : ℕ × Action) : Prop := e.2.Smooth s.shared

instance (s : Resets) (e : ℕ × Action) : Decidable (Smooth s e) := inferInstanceAs (Decidable (Action.Smooth _ _))

/-- **What a reset promises is kept in every run in which nothing goes wrong outside.** The device is
configured and not restarting in the beginning. -/
theorem resets_sound {st : Status} (hcfg : st.configured = true)
    (hrestarting : st.restarting = false) {es : List (ℕ × Action)} {s : Resets}
    (hrun : Run (guarded Smooth (ofFun resetStep)) (resetInit st) es s) : Sound s := by
  have hidle : Life Request.idle := .before .async .idle (by simp)
  have hnot : ¬ Request.idle.Underway := by decide
  have hinit : Inv (resetInit st) := by
    refine ⟨fun _ => hidle, ⟨iff_of_false ?_ fun ⟨r, hr⟩ => hnot hr, fun r r' hr => absurd hr hnot⟩, hcfg⟩
    simp [resetInit, hrestarting]
  refine Inv.sound (hrun.invariant (I := Inv) ?_ hinit)
  rintro s e s' h ⟨hsmooth, hstep⟩
  exact h.step hsmooth hstep

def running : Status := ⟨false, false, true, true, true, true, true, true⟩

def ask (r : ℕ) (mode : ResetMode) (es : List (ℕ × Action)) : List (ℕ × Action) :=
  (r, .call mode) :: (r, .checkStarted) :: (r, .checkRestarting) :: (r, .setRestarting) ::
    (r, .kzalloc true) :: (r, .queueWork) :: es

def work (r : ℕ) (es : List (ℕ × Action)) : List (ℕ × Action) :=
  (r, .begin) :: (r, .stop false) :: (r, .shutdown false) :: (r, .checkInUse false) ::
    (r, .init .ok) :: (r, .start .ok) :: (r, .clearRestarting) :: (r, .finish) :: es

/-- For instance: a request is served while another one is ignored. -/
theorem two_requests_sound : ∃ s, Run (guarded Smooth (ofFun resetStep)) (resetInit running)
        (ask 0 .sync <| (1, .call .sync) :: (1, .checkStarted) :: (1, .checkRestarting) ::
          work 0 [(0, .wake), (0, .kfree)]) s ∧
      s.shared.started = true ∧ (s.agent 0).caller = .returned .zero ∧ (s.agent 0).released = 1 ∧
      (s.agent 1).caller = .returned .zero ∧ (s.agent 1).worker = .none ∧ Sound s := by
  exact (exec_guardFun_run rfl).exists_and fun hrun => ⟨rfl, rfl, rfl, rfl, rfl, resets_sound rfl rfl hrun⟩

/-! ## What goes wrong -/

def notAllocated : List (ℕ × Action) :=
  [(0, .call .sync), (0, .checkStarted), (0, .checkRestarting), (0, .setRestarting),
    (0, .kzalloc false), (1, .call .sync), (1, .checkStarted), (1, .checkRestarting)]

def stillInUse : List (ℕ × Action) :=
  ask 0 .sync [(0, .begin), (0, .stop false), (0, .shutdown false), (0, .checkInUse true),
    (0, .finish), (0, .wake), (0, .kfree)]

def notStarted : List (ℕ × Action) :=
  ask 0 .sync [(0, .begin), (0, .stop false), (0, .shutdown false), (0, .checkInUse false),
    (0, .init .fwLoad), (0, .timeout), (0, .kfree)]

def timeOver : List (ℕ × Action) := ask 0 .sync <| (0, .timeout) :: (0, .kfree) :: work 0 []

def bothSet : List (ℕ × Action) :=
  (0, .call .async) :: (0, .checkStarted) :: (0, .checkRestarting) :: (1, .call .sync) ::
    (1, .checkStarted) :: (1, .checkRestarting) :: (0, .setRestarting) :: (0, .kzalloc true) ::
    (0, .queueWork) :: (1, .setRestarting) :: (1, .kzalloc true) :: (1, .queueWork) ::
    work 0 [(1, .begin), (1, .stop false), (1, .shutdown false), (1, .checkInUse false),
      (1, .init .ok), (1, .timeout), (1, .kfree)]

/-- **Each of the conditions is needed.** -/
theorem resets_go_wrong : (∃ s, Run (ofFun resetStep) (resetInit running) notAllocated s ∧
      (s.agent 1).caller = .returned .zero ∧ (s.agent 1).worker = .none ∧ ¬ Sound s) ∧
    (∃ s, Run (ofFun resetStep) (resetInit running) stillInUse s ∧
      (s.agent 0).caller = .returned .zero ∧ s.shared.started = false ∧
      s.shared.restarting = true ∧ ¬ Sound s) ∧ (∃ s, Run (ofFun resetStep) (resetInit running) notStarted s ∧
      (s.agent 0).released = 2 ∧ ¬ Sound s) ∧ (∃ s, Run (ofFun resetStep) (resetInit running) timeOver s ∧
      (s.agent 0).caller = .returned .efault ∧ (s.agent 0).stale = true ∧ ¬ Sound s) ∧
    ∃ s, Run (ofFun resetStep) (resetInit running) bothSet s ∧
      s.shared.configured = false ∧ s.shared.started = false ∧ (s.agent 1).released = 2 ∧ ¬ Sound s := by
  refine ⟨?_, ?_, ?_, ?_, ?_⟩
  · refine (exec_run rfl).exists_and fun hrun => ⟨rfl, rfl, fun hsound => ?_⟩
    obtain ⟨r, hr⟩ := hsound.underway rfl
    by_cases h₀ : r = 0
    · subst h₀
      exact absurd hr (by decide)
    · by_cases h₁ : r = 1
      · subst h₁
        exact absurd hr (by decide)
      · rw [show Agents.agent _ r = .idle from Agents.agent_of_run hrun (by simp [notAllocated, h₀, h₁])] at hr
        exact absurd hr (by decide)
  · refine ⟨_, exec_run rfl, rfl, rfl, rfl, fun hsound => ?_⟩
    exact absurd (hsound.restarted 0 rfl (by decide) rfl) (by decide)
  · exact ⟨_, exec_run rfl, rfl, fun hsound => absurd (hsound.atMostOnce 0) (by decide)⟩
  · exact ⟨_, exec_run rfl, rfl, rfl, fun hsound => absurd (hsound.untouched 0) (by decide)⟩
  · exact ⟨_, exec_run rfl, rfl, rfl, rfl, fun hsound => absurd (hsound.atMostOnce 1) (by decide)⟩

end QuickAssist.Reset
