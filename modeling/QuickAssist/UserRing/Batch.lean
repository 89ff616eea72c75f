import QuickAssist.UserRing.SymPair

/-!
# Enqueuing a batch

The data plane enqueues a request in one call, or several in one batch: room for all of them is reserved first, and the
messages are then written one after another. `batch_eq_singles` says that a batch is the single calls, unless one of
these would be refused: then it does nothing.

The count of a batch is added up in a `Cpa32U`, which does not wrap: a batch has at most two requests less than the
ring was configured for, and in no state are more in flight than the ring admits.

**Outside.** All requests pass the checks of their own parameters, and there are no more responses than requests.
-/

namespace QuickAssist.UserRing

open Lib

variable {μ : Type*}

/-- A request ring and the count it shares with its response ring. -/
structure DpQueue (μ : Type*) where
  ring : Ring μ
  inFlight : ℕ

/-! ## The calls -/

def Ring.incrementTail (ring : Ring μ) : Ring μ :=
  { ring with tail := UserRing.modulo (u32 (ring.tail + ring.messageSize)) ring.modulo }

def Ring.writeRingMsg (ring : Ring μ) (addr : ℕ) (msg : μ) : Ring μ :=
  { ring with mem := Function.update ring.mem addr (some msg) }

/-- Room for a batch, and where it begins. -/
def getQueueMemory (q : DpQueue μ) (numberRequests : ℕ) : Option (ℕ × DpQueue μ) :=
  let inFlight := u32 (q.inFlight + numberRequests)
  if q.ring.maxRequestsInflight ≤ inFlight then none else some (q.ring.tail, { q with inFlight := inFlight })

def getSingleQueueAddr (q : DpQueue μ) : Option (ℕ × DpQueue μ) :=
  let inFlight := u32 (q.inFlight + 1)
  if q.ring.maxRequestsInflight ≤ inFlight then none else some (q.ring.tail, ⟨q.ring.incrementTail, inFlight⟩)

def getQueueNext (ring : Ring μ) : ℕ × Ring μ := (ring.incrementTail.tail, ring.incrementTail)

/-- `performOpNow`: tell the device the tail. -/
def Ring.updateQueueTail (ring : Ring μ) (performOpNow : Bool) : Ring μ :=
  if performOpNow then { ring with csrTail := ring.tail } else ring

/-- Source: `cpaCySymDpEnqueueOp`, `cpaDcDpEnqueueOp`. -/
def enqueueOp (performOpNow : Bool) (q : DpQueue μ) (msg : μ) : CpaStatus × DpQueue μ :=
  match getSingleQueueAddr q with
  | none => (.retry, q)
  | some (addr, q) => (.success, ⟨(q.ring.writeRingMsg addr msg).updateQueueTail performOpNow, q.inFlight⟩)

/-- The loop of a batch. -/
def writeBatch (ring : Ring μ) (addr : ℕ) : List μ → Ring μ
  | [] => ring
  | msg :: msgs =>
    let next := getQueueNext (ring.writeRingMsg addr msg)
    writeBatch next.2 next.1 msgs

/-- Source: `cpaCySymDpEnqueueOpBatch`, `cpaDcDpEnqueueOpBatch`. -/
def enqueueOpBatch (performOpNow : Bool) (q : DpQueue μ) (msgs : List μ) : CpaStatus × DpQueue μ :=
  match getQueueMemory q msgs.length with
  | none => (.retry, q)
  | some (addr, q) => (.success, ⟨(writeBatch q.ring addr msgs).updateQueueTail performOpNow, q.inFlight⟩)

/-- `SAL_BATCH_SUBMIT_FREE_SPACE` requests less than the ring is configured for. -/
def BatchAdmits (num n : ℕ) : Prop := n ≠ 0 ∧ n ≤ num - 2
  deriving Decidable

/-- The messages one by one, as long as none is refused. -/
def enqueueEach (performOpNow : Bool) (q : DpQueue μ) : List μ → Option (DpQueue μ)
  | [] => some q
  | msg :: msgs =>
    match enqueueOp performOpNow q msg with
    | (.success, q) => enqueueEach performOpNow q msgs
    | _ => none

/-! ## Batches and single calls -/

/-- What was told to the device before does not matter. -/
lemma updateQueueTail_writeBatch (now : Bool) (ring : Ring μ) (addr : ℕ) (msgs : List μ) :
    (writeBatch (ring.updateQueueTail now) addr msgs).updateQueueTail now =
      (writeBatch ring addr msgs).updateQueueTail now := by
  cases now with
  | false => rfl
  | true =>
    have hgen (ring : Ring μ) (csrTail : ℕ) : (writeBatch { ring with csrTail := csrTail } addr msgs).updateQueueTail
        true = (writeBatch ring addr msgs).updateQueueTail true := by
      induction msgs generalizing ring addr with
      | nil => rfl
      | cons msg msgs ih => exact ih _ (ring.writeRingMsg addr msg).incrementTail
    exact hgen ring _

lemma updateQueueTail_tail (now : Bool) (ring : Ring μ) : (ring.updateQueueTail now).tail = ring.tail := by
  cases now <;> rfl

lemma updateQueueTail_maxRequestsInflight (now : Bool) (ring : Ring μ) :
    (ring.updateQueueTail now).maxRequestsInflight = ring.maxRequestsInflight := by
  cases now <;> rfl

lemma enqueueOp_eq (now : Bool) {q : DpQueue μ} (msg : μ) (hword : q.inFlight + 1 < 2 ^ 32) :
    enqueueOp now q msg = if q.ring.maxRequestsInflight ≤ q.inFlight + 1 then (.retry, q)
      else (.success, ⟨(q.ring.writeRingMsg q.ring.tail msg).incrementTail.updateQueueTail now, q.inFlight + 1⟩) := by
  have hsum : u32 (q.inFlight + 1) = q.inFlight + 1 := Nat.mod_eq_of_lt hword
  simp only [enqueueOp, getSingleQueueAddr, hsum]
  by_cases hfull : q.ring.maxRequestsInflight ≤ q.inFlight + 1
  · simp only [if_pos hfull]
  · simp only [if_neg hfull]
    rfl

lemma enqueueEach_cons (now : Bool) {q : DpQueue μ} (msg : μ) (msgs : List μ) (hword : q.inFlight + 1 < 2 ^ 32) :
    enqueueEach now q (msg :: msgs) = if q.ring.maxRequestsInflight ≤ q.inFlight + 1 then none
      else enqueueEach now
        ⟨(q.ring.writeRingMsg q.ring.tail msg).incrementTail.updateQueueTail now, q.inFlight + 1⟩ msgs := by
  rw [enqueueEach, enqueueOp_eq now msg hword]
  by_cases hfull : q.ring.maxRequestsInflight ≤ q.inFlight + 1
  · simp only [if_pos hfull]
  · simp only [if_neg hfull]

section

variable (now : Bool) {q : DpQueue μ} {msg : μ} {msgs : List μ} (hword : q.inFlight + (msgs.length + 1) < 2 ^ 32)

include hword

/-- The single calls in closed form: all of them succeed if the last one does. -/
lemma enqueueEach_eq :
    enqueueEach now q (msg :: msgs) = if q.ring.maxRequestsInflight ≤ q.inFlight + (msgs.length + 1) then none
      else some ⟨(writeBatch q.ring q.ring.tail (msg :: msgs)).updateQueueTail now,
        q.inFlight + (msgs.length + 1)⟩ := by
  induction msgs generalizing q msg with
  | nil =>
    rw [enqueueEach_cons now msg [] hword]
    rfl
  | cons msg' msgs ih =>
    rw [enqueueEach_cons now msg _ (by omega)]
    by_cases hfull : q.ring.maxRequestsInflight ≤ q.inFlight + 1
    · rw [if_pos hfull, if_pos (by omega)]
    · have hsum : q.inFlight + 1 + (msgs.length + 1) = q.inFlight + (msgs.length + 1 + 1) := by omega
      rw [if_neg hfull, ih (by rw [hsum]; exact hword), updateQueueTail_tail, updateQueueTail_maxRequestsInflight,
        updateQueueTail_writeBatch, hsum]
      rfl

/-- A batch in closed form. -/
lemma enqueueOpBatch_eq : enqueueOpBatch now q (msg :: msgs) =
      (enqueueEach now q (msg :: msgs)).elim (.retry, q) fun q' => (.success, q') := by
  have hsum : u32 (q.inFlight + (msgs.length + 1)) = q.inFlight + (msgs.length + 1) := Nat.mod_eq_of_lt hword
  rw [enqueueEach_eq now hword]
  simp only [enqueueOpBatch, getQueueMemory, List.length_cons, hsum]
  by_cases hfull : q.ring.maxRequestsInflight ≤ q.inFlight + (msgs.length + 1)
  · simp [if_pos hfull]
  · simp [if_neg hfull]

end

/-! ## Whole runs -/

inductive DpEvent (μ : Type*)
  | enqueue (performOpNow : Bool) (msg : μ)
  | batch (performOpNow : Bool) (msgs : List μ)
  /-- A request of the traditional interface. -/
  | put (lockOk : Bool) (msg : μ)
  | performOpNow
  /-- Responses are taken off the response ring. -/
  | poll (responses : ℕ)

def dpStep (q : DpQueue μ) : DpEvent μ → Option (DpQueue μ)
  | .enqueue now msg => some (enqueueOp now q msg).2
  | .batch now msgs => some (enqueueOpBatch now q msgs).2
  | .put lockOk msg => some ⟨(adfUserPutMsg q.ring q.inFlight lockOk msg).2.1,
      (adfUserPutMsg q.ring q.inFlight lockOk msg).2.2⟩
  | .performOpNow => some ⟨q.ring.updateQueueTail true, q.inFlight⟩
  | .poll responses => if responses ≤ q.inFlight then some ⟨q.ring, q.inFlight - responses⟩ else none

/-- No more are in flight than the ring admits. -/
structure DpQueue.Within (q : DpQueue μ) (max : ℕ) : Prop where
  maxRequestsInflight : q.ring.maxRequestsInflight = max
  inFlight : q.inFlight ≤ max

lemma writeBatch_maxRequestsInflight (ring : Ring μ) (addr : ℕ) (msgs : List μ) :
    (writeBatch ring addr msgs).maxRequestsInflight = ring.maxRequestsInflight := by
  induction msgs generalizing ring addr with
  | nil => rfl
  | cons msg msgs ih => exact ih _ _

lemma dpStep_within {q q' : DpQueue μ} {e : DpEvent μ} {max : ℕ} (hmax : max < 2 ^ 32 - 1) (h : q.Within max)
    (hstep : dpStep q e = some q') : q'.Within max := by
  obtain ⟨rfl, hle⟩ := h
  cases e with
  | enqueue now msg =>
    cases hstep
    rw [enqueueOp_eq now msg (by omega)]
    split
    · exact ⟨rfl, hle⟩
    next hfull => exact ⟨updateQueueTail_maxRequestsInflight now _, Nat.le_of_lt (Nat.not_le.mp hfull)⟩
  | batch now msgs =>
    cases hstep
    by_cases hfull : q.ring.maxRequestsInflight ≤ u32 (q.inFlight + msgs.length)
    · simp only [enqueueOpBatch, getQueueMemory, if_pos hfull]
      exact ⟨rfl, hle⟩
    · simp only [enqueueOpBatch, getQueueMemory, if_neg hfull]
      refine ⟨?_, Nat.le_of_lt (Nat.not_le.mp hfull)⟩
      rw [updateQueueTail_maxRequestsInflight, writeBatch_maxRequestsInflight]
  | put lockOk msg =>
    cases hstep
    have hsum : u32 (q.inFlight + 1) = q.inFlight + 1 := Nat.mod_eq_of_lt (by omega)
    have hback : u32 (q.inFlight + 1 + 2 ^ 32 - 1) = q.inFlight := by
      unfold u32
      omega
    simp only [adfUserPutMsg, hsum]
    split_ifs with hlock hfull hsize
    · exact ⟨rfl, hle⟩
    · exact ⟨rfl, Nat.le_trans (Nat.le_of_eq hback) hle⟩
    all_goals exact ⟨rfl, Nat.not_lt.mp hfull⟩
  | performOpNow =>
    cases hstep
    exact ⟨updateQueueTail_maxRequestsInflight true _, hle⟩
  | poll responses =>
    obtain ⟨-, heq⟩ := Option.ite_none_right_eq_some.mp hstep
    cases heq
    exact ⟨rfl, Nat.le_trans (Nat.sub_le _ _) hle⟩

/-- **A batch is the single calls, or nothing**: it leaves what they would leave if all of them succeed, and is refused
and leaves everything as it is if one of them does not. -/
theorem batch_eq_singles {num msgSize : ℕ} (hnum : validateConcurrRequest num = .success) {es : List (DpEvent μ)}
    {q : DpQueue μ} (hrun : Run (ofFun dpStep) ⟨adfInitRing num msgSize, 0⟩ es q) (now : Bool) {msgs : List μ}
    (hadmits : BatchAdmits num msgs.length) :
    enqueueOpBatch now q msgs = (enqueueEach now q msgs).elim (.retry, q) fun q' => (.success, q') := by
  obtain ⟨k, hk, rfl⟩ := exists_of_validateConcurrRequest hnum
  have hpos : 0 < 2 ^ k := Nat.two_pow_pos k
  have hpow : 2 ^ k ≤ 2 ^ 10 := Nat.pow_le_pow_right (by decide) hk
  have hinit : (adfInitRing (64 * 2 ^ k) msgSize : Ring μ).maxRequestsInflight = 64 * 2 ^ k - 1 := by
    dsimp only [adfInitRing, u32]
    omega
  have hwithin := hrun.invariant (I := fun q => q.Within (64 * 2 ^ k - 1))
    (fun _ _ _ hq hstep => dpStep_within (by omega) hq hstep) ⟨hinit, Nat.zero_le _⟩
  obtain ⟨hne, hle⟩ := hadmits
  have hinFlight := hwithin.inFlight
  cases msgs with
  | nil => exact absurd rfl hne
  | cons msg msgs =>
    rw [List.length_cons] at hle
    exact enqueueOpBatch_eq now (by omega)

/-- The second batch wraps around the end of the ring. -/
theorem batch_wraps : ∃ q : DpQueue ℕ, Run (ofFun dpStep) ⟨adfInitRing 64 128, 0⟩
      [.batch false (List.range 62), .poll 62] q ∧ q.ring.tail = 62 * 128 ∧
    enqueueOpBatch true q [7, 8, 9] = (enqueueEach true q [7, 8, 9]).elim (.retry, q) fun q' => (.success, q') := by
  obtain ⟨q, hrun, htail⟩ : ∃ q : DpQueue ℕ, Run (ofFun dpStep) ⟨adfInitRing 64 128, 0⟩
      [.batch false (List.range 62), .poll 62] q ∧ q.ring.tail = 62 * 128 :=
    ⟨_, .cons rfl (.cons rfl (.nil _)), by decide +kernel⟩
  exact ⟨q, hrun, htail, batch_eq_singles (by decide) hrun true (by decide)⟩

end QuickAssist.UserRing
