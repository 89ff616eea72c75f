import QuickAssist.Lib.Run
import QuickAssist.UserRing.Ring

/-!
# The request and response rings of a symmetric crypto instance

A symmetric crypto instance is given a request ring and a response ring for the same number of concurrent requests, and
the two share one in-flight count: a put raises it, a poll lowers it by the responses it has handled. This file runs
such a pair against the device: puts, the device taking the next request and writing one response, and polls, a message
at a time, in any order.

**The defect.** A ring has no other protection against overrunning the device than the count. The put compares it with
`max_requests_inflight`, which is `num_msgs - 1`; the ring has as many slots as fit into its byte size, which is cut at
4 MB. For 65536 requests of 128 bytes these are 32768 slots, and the limit is 65535.
-/

namespace QuickAssist.UserRing

open Lib List

/-! ## Creating the pair -/

/-- The loop of `validateConcurrRequest`: double `baseReq` until it is the requested value or above
the maximum. It is left after at most 12 tests. -/
def concurrLoop (numConcurrRequests : ℕ) : (fuel baseReq : ℕ) → ℕ
  | 0, baseReq => baseReq
  | fuel + 1, baseReq =>
    if baseReq ≤ 65536 then
      if baseReq ≠ numConcurrRequests then
        concurrLoop numConcurrRequests fuel (u32 (baseReq <<< 1))
      else baseReq
    else baseReq

/-- Source: `validateConcurrRequest`, with `SAL_64_CONCURR_REQUESTS` and
`SAL_MAX_CONCURR_REQUESTS`. -/
def validateConcurrRequest (numConcurrRequests : ℕ) : CpaStatus :=
  if numConcurrRequests < 64 then .fail
  else if 65536 < concurrLoop numConcurrRequests 12 64 then .fail
  else .success

/-- From `64 * 2 ^ k` the loop ends above the maximum or has found the requested value. -/
lemma concurrLoop_spec (num fuel k : ℕ) (hk : fuel + k = 12) (hle : k ≤ 11) :
    65536 < concurrLoop num fuel (64 * 2 ^ k) ∨ ∃ i, i ≤ 10 ∧ num = 64 * 2 ^ i := by
  induction fuel generalizing k with
  | zero => omega
  | succ fuel ih =>
    unfold concurrLoop
    by_cases hmax : 64 * 2 ^ k ≤ 65536
    · have hk10 : k ≤ 10 := by
        by_contra hgt
        have hpow : 2 ^ 11 ≤ 2 ^ k := Nat.pow_le_pow_right (by decide) (by omega)
        omega
      rw [if_pos hmax]
      by_cases hnum : 64 * 2 ^ k ≠ num
      · have hnext : u32 ((64 * 2 ^ k) <<< 1) = 64 * 2 ^ (k + 1) := by
          rw [Nat.shiftLeft_eq, u32, Nat.pow_succ]
          omega
        rw [if_pos hnum, hnext]
        exact ih (k + 1) (by omega) (by omega)
      · exact Or.inr ⟨k, hk10, (not_not.mp hnum).symm⟩
    · rw [if_neg hmax]
      exact Or.inl (by omega)

lemma exists_of_validateConcurrRequest {num : ℕ} (h : validateConcurrRequest num = .success) :
    ∃ k, k ≤ 10 ∧ num = 64 * 2 ^ k := by
  unfold validateConcurrRequest at h
  split_ifs at h with hmin hmax
  rcases concurrLoop_spec num 12 0 rfl (by omega) with hgt | hfound
  · exact absurd hgt hmax
  · exact hfound

structure RingPair (β ρ : Type*) where
  tx : Ring β
  rx : Ring ρ
  inFlight : ℕ
  devHead : ℕ
  devTail : ℕ
  /-- `msg_counter` of the polling call in progress, if one is. -/
  poll : Option ℕ
  pending : List β

variable {β ρ : Type*}

/-- The pair an instance gets: requests of 128 and responses of 32 bytes, the count cleared.
Source: `SalCtrl_SymCreateTransHandle` and `icp_adf_transCreateHandle`. -/
def symCreateTransHandle (numSymRequests : ℕ) : RingPair β ρ where
  tx := adfInitRing numSymRequests (32 * 4)
  rx := adfInitRing numSymRequests (8 * 4)
  inFlight := 0
  devHead := 0
  devTail := 0
  poll := none
  pending := []

/-! ## Steps -/

inductive PairEvent (β ρ : Type*)
  | put (lockOk : Bool) (msg : β)
  | device (resp : ρ)
  | pollBegin
  | pollMsg
  /-- The polling call ends: the ring is empty or its quota, which is the caller's, is reached. -/
  | pollEnd (respIrq : Bool)

/-- One step of the pair. The device takes the ring for empty when its head is at the tail register;
a put is one step, since it holds the ring's mutex. -/
def pairStep (p : RingPair β ρ) : PairEvent β ρ → Option (RingPair β ρ)
  | .put lockOk msg =>
    let (status, tx, inFlight) := adfUserPutMsg p.tx p.inFlight lockOk msg
    some { p with
      tx := tx
      inFlight := inFlight
      pending := if status = .success then p.pending ++ [msg] else p.pending }
  | .device resp =>
    if p.devHead = p.tx.csrTail then none
    else
      some { p with
        devHead := (p.devHead + p.tx.messageSize) % p.tx.ringSize
        pending := p.pending.tail
        rx := { p.rx with mem := Function.update p.rx.mem p.devTail (some resp) }
        devTail := (p.devTail + p.rx.messageSize) % p.rx.ringSize }
  | .pollBegin => if p.poll = none then some { p with poll := some 0 } else none
  | .pollMsg =>
    match p.poll with
    | none => none
    | some msgCounter => (UserRing.pollMsg p.rx).map fun r => { p with rx := r.2, poll := some (msgCounter + 1) }
  | .pollEnd respIrq =>
    match p.poll with
    | none => none
    | some msgCounter =>
      let (rx, inFlight) := UserRing.pollEnd p.rx p.inFlight msgCounter respIrq
      some { p with rx := rx, inFlight := inFlight, poll := none }

structure RingPair.Safe (p : RingPair β ρ) : Prop where
  inFlight_le : p.inFlight ≤ p.tx.numSlots - 1
  /-- Every request the device has not taken is where the device will look for it. -/
  not_overwritten : ∀ i (h : i < p.pending.length),
    p.tx.mem ((p.devHead + i * p.tx.messageSize) % p.tx.ringSize) = some p.pending[i]
  /-- The tail is at the device's head only if the device has taken everything. -/
  tail_ne_head : p.pending ≠ [] → p.tx.tail ≠ p.devHead

/-! ## The invariant

For a ring that is as large as its limit says, `n` slots for `n - 1` requests. The requests in the
ring, the responses in the other one and the responses a poll has handled and not yet accounted for
add up to the count, so each ring holds at most `n - 1` messages. -/

/-- What holds of a pair of `n` slots each, with the responses `resp` waiting in the response ring
and the two rings read at the slots `dh` (by the device) and `rh` (by the poll). -/
structure PairInv (n : ℕ) (p : RingPair β ρ) (resp : List ρ) (dh rh : ℕ) : Prop where
  tx : p.tx.Sized n 128
  rx : p.rx.Sized n 32
  max : p.tx.maxRequestsInflight = n - 1
  devHead : p.devHead = dh % n * 128
  tail : p.tx.tail = (dh + p.pending.length) % n * 128
  csrTail : p.tx.csrTail = p.tx.tail
  carries : Carries n (slots 128 p.tx.mem) dh (p.pending.map some)
  head : p.rx.head = rh % n * 32
  devTail : p.devTail = (rh + resp.length) % n * 32
  holds : Holds n (slots 32 p.rx.mem) rh resp
  count : p.inFlight = p.pending.length + resp.length + p.poll.getD 0
  le : p.inFlight ≤ n - 1

lemma PairInv.safe {n : ℕ} {p : RingPair β ρ} {resp : List ρ} {dh rh : ℕ} (hn : 0 < n)
    (h : PairInv n p resp dh rh) : p.Safe where
  inFlight_le := by
    have hslots : p.tx.numSlots = n := by
      rw [Ring.numSlots, h.tx.ringSize, h.tx.messageSize]
      exact Nat.mul_div_cancel n (by decide)
    rw [hslots]
    exact h.le
  not_overwritten i hi := by
    have hslot := h.carries.slot i (by simpa using hi)
    rw [slots, getElem_map] at hslot
    rw [h.devHead, h.tx.messageSize, h.tx.ringSize, ← hslot]
    congr 1
    rw [← Nat.add_mul, Nat.mul_mod_mul_right, Nat.mod_add_mod]
  tail_ne_head hne := by
    have hcount := h.count
    have hle := h.le
    have hfree : (p.pending.map some).length < n := by
      rw [length_map]
      omega
    have hslot := Carries.head_ne_tail dh hfree (by simpa using hne)
    rw [length_map] at hslot
    rw [h.tail, h.devHead]
    intro heq
    exact hslot (Nat.eq_of_mul_eq_mul_right (by decide) heq)

/-! ## Steps keep the invariant -/

section Steps

variable {n : ℕ} {p p' : RingPair β ρ} {resp : List ρ} {dh rh : ℕ}

section

variable (h : PairInv n p resp dh rh) (hn : 0 < n)

include h hn

lemma PairInv.put_success (msg : β) (hroom : p.inFlight + 1 ≤ n - 1) : PairInv n { p with
        tx :=
          { p.tx with
            mem := Function.update p.tx.mem p.tx.tail (some msg)
            tail := (dh + p.pending.length + 1) % n * 128
            csrTail := (dh + p.pending.length + 1) % n * 128 }
        inFlight := p.inFlight + 1
        pending := p.pending ++ [msg] } resp dh rh :=
  { h with
    tx := { h.tx with }
    tail := by simp [Nat.add_assoc]
    csrTail := rfl
    carries := by
      have hcount := h.count
      have hpush := h.carries.push (by rw [length_map]; omega) (some msg)
      rw [length_map] at hpush
      simp only [map_append, map_cons, map_nil]
      rwa [h.tail, slots_update (by decide)]
    count := by
      have hcount := h.count
      simp only [length_append, length_singleton]
      omega
    le := hroom }

lemma PairInv.put (lockOk : Bool) (msg : β)
    (hstep : pairStep p (.put lockOk msg) = some p') : ∃ resp' dh' rh', PairInv n p' resp' dh' rh' := by
  have hle := h.le
  have hbound := h.tx.bound
  have hflight : u32 (p.inFlight + 1) = p.inFlight + 1 := by
    unfold u32
    omega
  have hback : u32 (p.inFlight + 1 + 2 ^ 32 - 1) = p.inFlight := by
    unfold u32
    omega
  have htail := h.tx.next hn (dh + p.pending.length)
  rw [← h.tail] at htail
  refine ⟨resp, dh, rh, ?_⟩
  cases lockOk with
  | false =>
    simp only [pairStep, adfUserPutMsg, Bool.not_false, if_true, reduceCtorEq, if_false, Option.some.injEq] at hstep
    exact hstep ▸ h
  | true =>
    by_cases hfull : p.tx.maxRequestsInflight < p.inFlight + 1
    · simp only [pairStep, adfUserPutMsg, Bool.not_true, Bool.false_eq_true, if_false, hflight,
        if_pos hfull, hback, reduceCtorEq, Option.some.injEq] at hstep
      exact hstep ▸ h
    · have hsize : p.tx.messageSize = 64 ∨ p.tx.messageSize = 128 := Or.inr h.tx.messageSize
      simp only [pairStep, adfUserPutMsg, Bool.not_true, Bool.false_eq_true, if_false, hflight,
        if_neg hfull, if_pos hsize, htail, if_true, Option.some.injEq] at hstep
      rw [h.max] at hfull
      exact hstep ▸ h.put_success hn msg (by omega)

lemma PairInv.device (r : ρ)
    (hstep : pairStep p (.device r) = some p') : ∃ resp' dh' rh', PairInv n p' resp' dh' rh' := by
  have hcount := h.count
  have hle := h.le
  simp only [pairStep] at hstep
  split_ifs at hstep with hempty
  cases hstep
  rcases hpend : p.pending with _ | ⟨req, rest⟩
  · -- the device would have found the ring empty
    refine absurd ?_ hempty
    rw [h.csrTail, h.tail, h.devHead, hpend, length_nil, Nat.add_zero]
  · rw [hpend, length_cons] at hcount
    have htail := h.tail
    rw [hpend, length_cons] at htail
    have hcarries := h.carries
    rw [hpend, map_cons] at hcarries
    refine ⟨resp ++ [r], dh + 1, rh, ⟨h.tx, { h.rx with }, h.max, ?_, ?_, h.csrTail, ?_, h.head, ?_, ?_, ?_, hle⟩⟩
    · simp only [h.devHead, h.tx.messageSize, h.tx.ringSize, offset_succ]
    · simp only [tail_cons]
      rw [htail]
      congr 2
      omega
    · exact hcarries.pop.2
    · simp only [h.devTail, h.rx.messageSize, h.rx.ringSize, offset_succ, length_append,
        length_singleton, Nat.add_assoc]
    · have hpush := h.holds.push (by omega) r
      simp only [h.devTail]
      rwa [slots_update (by decide)]
    · simp only [tail_cons, length_append, length_singleton]
      omega

lemma PairInv.pollMsg (hstep : pairStep p .pollMsg = some p') : ∃ resp' dh' rh', PairInv n p' resp' dh' rh' := by
  simp only [pairStep] at hstep
  split at hstep
  · cases hstep
  · rename_i msgCounter hpoll
    simp only [UserRing.pollMsg, Option.map_map, Option.map_eq_some_iff, Function.comp] at hstep
    obtain ⟨r, hr, rfl⟩ := hstep
    have hfront := h.holds.front hn
    rw [slots, ← h.head, hr] at hfront
    obtain ⟨rest, rfl⟩ : ∃ rest, resp = r :: rest := by
      rcases resp with _ | ⟨r', rest⟩
      · cases hfront
      · cases hfront
        exact ⟨rest, rfl⟩
    have hnext := h.rx.next hn rh
    rw [← h.head] at hnext
    refine ⟨rest, dh, rh + 1, { h with rx := { h.rx with }, head := hnext, devTail := ?_, holds := ?_, count := ?_ }⟩
    · rw [h.devTail, length_cons]
      congr 2
      omega
    · rw [h.head]
      simp only [slots_update (show 0 < 32 by decide)]
      exact h.holds.pop
    · have hcount := h.count
      rw [hpoll, length_cons] at hcount
      simp only [Option.getD_some] at hcount ⊢
      omega

end

lemma PairInv.pollEnd (h : PairInv n p resp dh rh) (respIrq : Bool)
    (hstep : pairStep p (.pollEnd respIrq) = some p') : ∃ resp' dh' rh', PairInv n p' resp' dh' rh' := by
  have hbound := h.tx.bound
  have hle := h.le
  simp only [pairStep] at hstep
  split at hstep
  · cases hstep
  · rename_i msgCounter hpoll
    cases hstep
    have hcount := h.count
    rw [hpoll, Option.getD_some] at hcount
    have hback : (UserRing.pollEnd p.rx p.inFlight msgCounter respIrq).2 = p.pending.length + resp.length := by
      unfold UserRing.pollEnd u32
      split_ifs <;> simp only [] <;> omega
    have hrx : (UserRing.pollEnd p.rx p.inFlight msgCounter respIrq).1.Sized n 32 ∧
        (UserRing.pollEnd p.rx p.inFlight msgCounter respIrq).1.head = p.rx.head ∧
        (UserRing.pollEnd p.rx p.inFlight msgCounter respIrq).1.mem = p.rx.mem := by
      unfold UserRing.pollEnd
      split_ifs <;>
        exact ⟨{ h.rx with }, rfl, rfl⟩
    obtain ⟨hsized, hhead, hmem⟩ := hrx
    refine ⟨resp, dh, rh, { h with rx := hsized, head := hhead.trans h.head, holds := ?_, count := ?_, le := ?_ }⟩
    · simp only [hmem]
      exact h.holds
    · simp [hback]
    · simp only [hback]
      omega

lemma pairStep_inv {e : PairEvent β ρ} (hn : 0 < n) (h : ∃ resp dh rh, PairInv n p resp dh rh)
    (hstep : pairStep p e = some p') : ∃ resp dh rh, PairInv n p' resp dh rh := by
  obtain ⟨resp, dh, rh, h⟩ := h
  cases e with
  | put lockOk msg => exact h.put hn lockOk msg hstep
  | device r => exact h.device hn r hstep
  | pollBegin =>
    simp only [pairStep] at hstep
    split_ifs at hstep with hnone
    cases hstep
    have hcount := h.count
    rw [hnone] at hcount
    exact ⟨resp, dh, rh, { h with count := hcount }⟩
  | pollMsg => exact h.pollMsg hn hstep
  | pollEnd respIrq => exact h.pollEnd respIrq hstep

end Steps

/-! ## Which limits are safe -/

/-- A pair for `64 * 2 ^ k` requests, at most 32768 of them, starts in the invariant. -/
lemma symCreateTransHandle_inv {k : ℕ} (hk : k ≤ 9) :
    PairInv (64 * 2 ^ k) (symCreateTransHandle (64 * 2 ^ k) : RingPair β ρ) [] 0 0 := by
  have hpos : 0 < 2 ^ k := Nat.two_pow_pos k
  have hle : 2 ^ k ≤ 2 ^ 9 := Nat.pow_le_pow_right (by decide) hk
  refine ⟨adfInitRing_sized (j := 3 + k) (by omega) ?_ (by decide),
    adfInitRing_sized (j := 1 + k) (by omega) ?_ (by decide), ?_, ?_, ?_, rfl, Carries.nil _ _,
    ?_, ?_, Holds.nil (fun _ => rfl) _, rfl, ?_⟩
  · rw [← Nat.add_assoc, Nat.pow_add]
    omega
  · rw [← Nat.add_assoc, Nat.pow_add]
    omega
  · simp only [symCreateTransHandle, adfInitRing, u32]
    omega
  · simp [symCreateTransHandle]
  · simp [symCreateTransHandle, adfInitRing]
  · simp [symCreateTransHandle, adfInitRing]
  all_goals simp [symCreateTransHandle]

lemma pairStep_put_of_lt {p : RingPair β ρ} (msg : β)
    (hlt : p.inFlight < p.tx.maxRequestsInflight) (hmax : p.tx.maxRequestsInflight < 2 ^ 32)
    (hmsg : p.tx.messageSize = 128) : ∃ p', pairStep p (.put true msg) = some p' ∧ p'.inFlight = p.inFlight + 1 ∧
      p'.tx.maxRequestsInflight = p.tx.maxRequestsInflight ∧
      p'.tx.messageSize = p.tx.messageSize ∧ p'.tx.ringSize = p.tx.ringSize := by
  have hflight : u32 (p.inFlight + 1) = p.inFlight + 1 := by
    unfold u32
    omega
  have hroom : ¬ p.tx.maxRequestsInflight < p.inFlight + 1 := by omega
  have hsize : p.tx.messageSize = 64 ∨ p.tx.messageSize = 128 := Or.inr hmsg
  have hstep : pairStep p (.put true msg) = some { p with
        tx :=
          { p.tx with
            mem := Function.update p.tx.mem p.tx.tail (some msg)
            tail := UserRing.modulo (u32 (p.tx.tail + p.tx.messageSize)) p.tx.modulo
            csrTail := UserRing.modulo (u32 (p.tx.tail + p.tx.messageSize)) p.tx.modulo }
        inFlight := p.inFlight + 1
        pending := p.pending ++ [msg] } := by
    simp only [pairStep, adfUserPutMsg, Bool.not_true, Bool.false_eq_true, if_false, hflight,
      if_neg hroom, if_pos hsize, if_true]
  exact ⟨_, hstep, rfl, rfl, rfl, rfl⟩

lemma exists_run_puts {p : RingPair β ρ} (msg : β) (hmax : p.tx.maxRequestsInflight < 2 ^ 32)
    (hmsg : p.tx.messageSize = 128) (hzero : p.inFlight = 0) (k : ℕ) (hk : k ≤ p.tx.maxRequestsInflight) :
    ∃ p', Run (ofFun pairStep) p (List.replicate k (.put true msg)) p' ∧ p'.inFlight = k ∧
      p'.tx.maxRequestsInflight = p.tx.maxRequestsInflight ∧
      p'.tx.messageSize = p.tx.messageSize ∧ p'.tx.ringSize = p.tx.ringSize := by
  induction k with
  | zero => exact ⟨p, Run.nil p, hzero, rfl, rfl, rfl⟩
  | succ k ih =>
    obtain ⟨p₁, hrun, hcount, hmax₁, hmsg₁, hsize₁⟩ := ih (by omega)
    obtain ⟨p₂, hstep, hcount₂, hmax₂, hmsg₂, hsize₂⟩ := pairStep_put_of_lt msg
      (by rw [hcount, hmax₁]; omega) (by rw [hmax₁]; exact hmax) (by rw [hmsg₁]; exact hmsg)
    refine ⟨p₂, ?_, by rw [hcount₂, hcount], hmax₂.trans hmax₁, hmsg₂.trans hmsg₁, hsize₂.trans hsize₁⟩
    rw [replicate_succ']
    exact hrun.append (Run.single hstep)

lemma symCreateTransHandle_65536 : (symCreateTransHandle 65536 : RingPair β ρ).tx.ringSize = 2 ^ 22 ∧
      (symCreateTransHandle 65536 : RingPair β ρ).tx.maxRequestsInflight = 65535 := by
  refine ⟨?_, rfl⟩
  rfl

lemma exists_run_overrun (msg : β) : ∃ p : RingPair β ρ, Run (ofFun pairStep) (symCreateTransHandle 65536)
      (List.replicate 32768 (.put true msg)) p ∧ ¬ p.Safe := by
  obtain ⟨hsize, hmax⟩ := symCreateTransHandle_65536 (β := β) (ρ := ρ)
  obtain ⟨p, hrun, hcount, -, hmsg', hsize'⟩ := exists_run_puts (ρ := ρ)
    (p := symCreateTransHandle 65536) msg (by rw [hmax]; decide) rfl rfl 32768 (by rw [hmax]; decide)
  refine ⟨p, hrun, ?_⟩
  intro hsafe
  have hle := hsafe.inFlight_le
  have hmsg : (symCreateTransHandle 65536 : RingPair β ρ).tx.messageSize = 128 := rfl
  have hslots : p.tx.numSlots = 32768 := by
    rw [Ring.numSlots, hsize', hmsg', hsize, hmsg]
    norm_num
  rw [hcount, hslots] at hle
  exact absurd hle (by decide)

/-- **Which concurrency values are safe:** those of at most 32768. -/
theorem symPair_safe_iff [Inhabited β] (num : ℕ) (h : validateConcurrRequest num = .success) :
    (∀ es (p : RingPair β ρ), Run (ofFun pairStep) (symCreateTransHandle num) es p → p.Safe) ↔ num ≤ 32768 := by
  obtain ⟨k, hk, rfl⟩ := exists_of_validateConcurrRequest h
  constructor
  · intro hsafe
    by_contra hgt
    have hk10 : k = 10 := by
      by_contra hne
      have hpow : 2 ^ k ≤ 2 ^ 9 := Nat.pow_le_pow_right (by decide) (by omega)
      omega
    subst hk10
    obtain ⟨p, hrun, hunsafe⟩ := exists_run_overrun (β := β) (ρ := ρ) default
    exact hunsafe (hsafe _ p hrun)
  · intro hle es p hrun
    have hk9 : k ≤ 9 := by
      by_contra hgt
      have hpow : 2 ^ 10 ≤ 2 ^ k := Nat.pow_le_pow_right (by decide) (by omega)
      omega
    have hpos : 0 < 64 * 2 ^ k := by
      have := Nat.two_pow_pos k
      omega
    obtain ⟨resp, dh, rh, hinv⟩ :=
      hrun.invariant (I := fun p => ∃ resp dh rh, PairInv (64 * 2 ^ k) p resp dh rh)
        (fun _ _ _ hI hstep => pairStep_inv hpos hI hstep)
        ⟨[], 0, 0, symCreateTransHandle_inv hk9⟩
    exact hinv.safe hpos

/-- The default of 512 concurrent requests is safe. -/
theorem symPair_safe_512 : validateConcurrRequest 512 = .success ∧
    ∀ es (p : RingPair ℕ ℕ), Run (ofFun pairStep) (symCreateTransHandle 512) es p → p.Safe :=
  ⟨by decide, (symPair_safe_iff 512 (by decide)).mpr (by decide)⟩

/-- 65536 concurrent requests are accepted, and 32768 puts overrun the ring. -/
theorem symPair_65536_overruns : validateConcurrRequest 65536 = .success ∧
    ∃ p : RingPair ℕ ℕ, Run (ofFun pairStep) (symCreateTransHandle 65536)
      (List.replicate 32768 (.put true 0)) p ∧ ¬ p.Safe :=
  ⟨by decide, exists_run_overrun 0⟩

end QuickAssist.UserRing
