import QuickAssist.Lib.Run
import QuickAssist.SymSession.Queue

/-!
# Requests and the precomputations they need

The content descriptor of a session holds precomputed hash states, and requests are to be queued until these have been
written. A session with an optimised content descriptor has two descriptors, each with a precomputation of its own:
full packets are sent with the optimised one, and partial packets with the other. With `LAC_HW_PRECOMPUTES` the
precomputations are requests to the device, which complete in any order.

**The defect.** Both precomputations have the same callback, which sets the flag and empties the queue when the first of
them completes. Requests are then sent with a descriptor that is not complete. The same happens if the key is updated
while a precomputation is outstanding.
-/

namespace QuickAssist.SymSession

open Lib Option List

inductive ContentDesc
  | standard
  | optimised
  deriving DecidableEq

/-- A session and the precomputations that have not completed, each with whether it could be started. -/
structure Precomputing where
  session : Session
  useOptimisedContentDesc : Bool
  missing : List (ContentDesc × Bool)

/-- The descriptor a request refers to.
Source: `LacAlgChain_Perform`, the choice between `reqCacheHdr` and `shramReqCacheHdr`. -/
def Precomputing.contentDesc (w : Precomputing) (r : Request) : ContentDesc :=
  if w.useOptimisedContentDesc = true ∧ r.packetType = .full then .optimised else .standard

/-- Precomputations are started.
Source: `LacAlgChain_SessionInit`, and the same in an update. -/
def Precomputing.start (w : Precomputing) (created : List (ContentDesc × Bool)) : Option Precomputing :=
  (hashPrecompute w.session (created.map Prod.snd)).map fun s =>
    { w with session := s, missing := w.missing ++ created }

/-- A session that has been initialised; the last outcome is that of the precomputation for an optimised descriptor. -/
def precomputeInit (arc4InitialState : Option Octets) (cipherPartialOpState : Octets)
    (useOptimisedContentDesc created createdOptimised : Bool) : Option Precomputing :=
  Precomputing.start ⟨sessionInit arc4InitialState cipherPartialOpState, useOptimisedContentDesc, []⟩
    ((.standard, created) :: if useOptimisedContentDesc then [(.optimised, createdOptimised)] else [])

inductive PrecomputeEvent
  | submit (packetType : PacketType) (updateSessionIvOnSend : Bool) (iv : Octets)
  | put (i : ℕ) (ok : Bool)
  | complete (i : ℕ) (qatRespStatusOk : Bool) (put : ℕ → ℕ → Bool)
  /-- The key is updated. -/
  | update (created : Bool)
  /-- The `i`-th precomputation completes. Its result is written, then the callback is called. -/
  | done (i : ℕ) (put : ℕ → ℕ → Bool)

def precomputeStep (w : Precomputing) : PrecomputeEvent → Option Precomputing
  | .submit packetType updateIv iv =>
    -- a call that is under way is counted, and no precomputation is started: what its loads without the lock have said
    -- can be out of date only with respect to other requests
    some { w with session := requestSend w.session packetType updateIv iv false }
  | .put i ok => (requestPut w.session i ok).map fun s => { w with session := s }
  | .complete i ok put => (processCallback w.session i ok put).map fun s => { w with session := s }
  | .update created => w.start [(.standard, created)]
  | .done i put =>
    if w.missing[i]?.any Prod.snd then
      (hashPrecomputeDone w.session put).map fun s => { w with session := s, missing := w.missing.eraseIdx i }
    else none

/-- Whatever a step has put refers to a descriptor whose results have been written. -/
def PutsReady (w w' : Precomputing) : Prop :=
  ∀ r ∈ w'.session.putLog.drop w.session.putLog.length, ∀ m ∈ w'.missing, m.1 ≠ w.contentDesc r
  deriving Decidable

/-- The key is updated when no precomputation is outstanding and no request is on its way to the device or back. -/
def PrecomputeEvent.OneAtATime (w : Precomputing) : PrecomputeEvent → Prop
  | .update _ => w.missing = [] ∧ w.session.sending = [] ∧ w.session.inFlight = []
  | _ => True

/-- While a precomputation is outstanding it is the only one, the flag is cleared, and no request that could set it is
on its way. -/
structure Precomputing.Inv (w : Precomputing) : Prop where
  single : w.missing.length ≤ 1
  blocked : w.missing ≠ [] → w.session.nonBlockingOpsInProgress = false ∧ w.session.sending = [] ∧
    w.session.inFlight = []

variable {w w' : Precomputing} {e : PrecomputeEvent} {s : Session}

lemma Precomputing.Inv.of_nil (h : w.missing = []) : w.Inv :=
  ⟨by rw [h]; exact Nat.zero_le 1, fun hne => absurd h hne⟩

lemma start_inv {created : ContentDesc × Bool} (hmissing : w.missing = []) (hsending : w.session.sending = [])
    (hinFlight : w.session.inFlight = []) (hstart : w.start [created] = some w') :
    w'.Inv ∧ w'.session.putLog = w.session.putLog := by
  obtain ⟨s, hs, rfl⟩ := map_eq_some_iff.mp hstart
  unfold hashPrecompute at hs
  split at hs
  · exact nomatch hs
  · cases hs
    refine ⟨⟨?_, fun _ => ⟨rfl, hsending, hinFlight⟩⟩, rfl⟩
    rw [hmissing]
    exact Nat.le_refl 1

lemma requestSend_blocked (hflag : s.nonBlockingOpsInProgress = false) (packetType : PacketType)
    (updateIv : Bool) (iv : Octets) : (requestSend s packetType updateIv iv false).nonBlockingOpsInProgress = false ∧
      (requestSend s packetType updateIv iv false).sending = s.sending ∧
      (requestSend s packetType updateIv iv false).inFlight = s.inFlight ∧
      (requestSend s packetType updateIv iv false).putLog = s.putLog := by
  unfold requestSend sendCounted
  rw [if_pos ⟨rfl, Or.inl hflag⟩]
  exact ⟨hflag, rfl, rfl, rfl⟩

/-- A request that is on its way shows that nothing is outstanding. -/
lemma missing_nil {l : List Request} {i : ℕ} {f : Request → Session} {g : Session → Session}
    (hl : w.missing ≠ [] → l = []) (hs : (l[i]?.map f).map g = some s) : w.missing = [] := by
  by_contra hne
  rw [hl hne] at hs
  exact absurd hs.symm (some_ne_none s)

/-- A step keeps the invariant, and puts nothing while a precomputation is outstanding. -/
lemma precomputeStep_inv (hinv : w.Inv) (hstep : guarded (fun w e => e.OneAtATime w) (ofFun precomputeStep) w e w') :
    w'.Inv ∧ (w'.missing ≠ [] → w'.session.putLog = w.session.putLog) := by
  obtain ⟨hguard, hstep⟩ := hstep
  cases e with
  | submit packetType updateIv iv =>
    cases hstep
    refine ⟨⟨hinv.single, fun hne => ?_⟩, fun hne => ?_⟩
    · obtain ⟨hflag, hsending, hinFlight⟩ := hinv.blocked hne
      obtain ⟨hflag', hsending', hinFlight', -⟩ := requestSend_blocked hflag packetType updateIv iv
      exact ⟨hflag', hsending'.trans hsending, hinFlight'.trans hinFlight⟩
    · exact (requestSend_blocked (hinv.blocked hne).1 packetType updateIv iv).2.2.2
  | put i ok =>
    obtain ⟨s, hs, rfl⟩ := map_eq_some_iff.mp hstep
    have hnil := missing_nil (fun hne => (hinv.blocked hne).2.1) hs
    exact ⟨.of_nil hnil, fun hne => absurd hnil hne⟩
  | complete i ok put =>
    obtain ⟨s, hs, rfl⟩ := map_eq_some_iff.mp hstep
    have hnil := missing_nil (fun hne => (hinv.blocked hne).2.2) hs
    exact ⟨.of_nil hnil, fun hne => absurd hnil hne⟩
  | update created =>
    obtain ⟨hmissing, hsending, hinFlight⟩ := hguard
    obtain ⟨hinv', hlog⟩ := start_inv hmissing hsending hinFlight hstep
    exact ⟨hinv', fun _ => hlog⟩
  | done i put =>
    -- the one that was outstanding has completed
    obtain ⟨hsome, hdone⟩ := ite_none_right_eq_some.mp hstep
    obtain ⟨s, -, rfl⟩ := map_eq_some_iff.mp hdone
    have hlt : i < w.missing.length := by
      by_contra hge
      rw [List.getElem?_eq_none (Nat.not_lt.mp hge)] at hsome
      cases hsome
    have hnil : w.missing.eraseIdx i = [] := by
      rw [← length_eq_zero_iff, length_eraseIdx_of_lt hlt]
      have := hinv.single
      omega
    exact ⟨.of_nil hnil, fun hne => absurd hnil hne⟩

/-- **No request is put before the results it needs have been written**, in every run of a session without an optimised
content descriptor in which the key is updated only when nothing is outstanding. -/
theorem puts_after_precomputes {arc4InitialState : Option Octets} {cipherPartialOpState : Octets}
    {created createdOptimised : Bool} {w₀ : Precomputing} {es : List PrecomputeEvent}
    (hinit : precomputeInit arc4InitialState cipherPartialOpState false created createdOptimised = some w₀)
    (hrun : Run (guarded (fun w e => e.OneAtATime w) (ofFun precomputeStep)) w₀ es w)
    (hstep : guarded (fun w e => e.OneAtATime w) (ofFun precomputeStep) w e w') : PutsReady w w' := by
  have hinv : w.Inv := hrun.invariant (fun _ _ _ hinv hstep => (precomputeStep_inv hinv hstep).1)
    (start_inv rfl rfl rfl hinit).1
  intro r hr m hm
  have hlog := (precomputeStep_inv hinv hstep).2 (ne_nil_of_mem hm)
  rw [hlog, drop_length] at hr
  cases hr

/-- A request is queued, and put when the precomputation has completed. -/
theorem queued_request_ready : ∃ w₀ w w', precomputeInit none [] false true true = some w₀ ∧
    Run (guarded (fun w e => e.OneAtATime w) (ofFun precomputeStep)) w₀ [.submit .full false []] w ∧
    precomputeStep w (.done 0 fun _ _ => true) = some w' ∧ w'.session.putLog.length = 1 ∧ PutsReady w w' := by
  obtain ⟨w₀, w, w', hinit, hrun, hstep, hlen⟩ : ∃ w₀ w w', precomputeInit none [] false true true = some w₀ ∧
      Run (guarded (fun w e => e.OneAtATime w) (ofFun precomputeStep)) w₀ [.submit .full false []] w ∧
      precomputeStep w (.done 0 fun _ _ => true) = some w' ∧ w'.session.putLog.length = 1 :=
    ⟨_, _, _, rfl, .cons ⟨trivial, rfl⟩ (.nil _), rfl, rfl⟩
  exact ⟨w₀, w, w', hinit, hrun, hstep, hlen, puts_after_precomputes (e := .done 0 _) hinit hrun ⟨trivial, hstep⟩⟩

/-- With an optimised descriptor the request is put when the precomputation for the other one has completed. -/
theorem queued_request_early : ∃ w₀ w w', precomputeInit none [] true true true = some w₀ ∧
    Run (ofFun precomputeStep) w₀ [.submit .full false []] w ∧
    precomputeStep w (.done 0 fun _ _ => true) = some w' ∧ ¬ PutsReady w w' :=
  ⟨_, _, _, rfl, .cons rfl (.nil _), rfl, by decide⟩

end QuickAssist.SymSession
