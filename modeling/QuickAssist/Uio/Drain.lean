import Mathlib.Data.BitVec
import QuickAssist.Lib.Run
import QuickAssist.Lib.Words

/-!
# Waiting until a ring is drained

The rings of a process that is gone are drained before they are cleared: the head of each response ring is set to its
tail, a null message is put on the request ring, and the driver polls the response ring for the null response, slot by
slot from the head to the tail. `drainStep` interleaves the looks at the slots of one response ring with the responses
of the device; the polls of the other rings are a part of the schedule.

**The defect.** A head that is the tail is taken for a full ring, so the poll looks at all slots, and right after
`empty_rx_rings` they hold what was there before. A null response among them counts as the answer: `drained_iff`.

**Left out.** How long is waited between polls and in all.
-/

namespace QuickAssist.Uio

open Lib Bool

/-- What is looked at of a `struct icp_qat_fw_comn_resp`. -/
structure CommonResp where
  responseType : U8
  hdrFlags : U8
  opaqueData : U64

def msgNullFlags : U64 := 0xdeadbeefdeadbeef

def isNullRsp (rsp : CommonResp) : Bool :=
  rsp.hdrFlags.getLsbD 7 && rsp.responseType == 0 && rsp.opaqueData == msgNullFlags

variable {n : ℕ}

/-- The slots that `rcv_null_response` looks at, with two calls of `find_null_response` unless the head is below the
tail. -/
def rcvNullResponse (head tail : Fin (n + 1)) : List (Fin (n + 1)) :=
  if head < tail then (List.finRange (n + 1)).filter fun i => head ≤ i ∧ i < tail
  else (List.finRange (n + 1)).filter (head ≤ ·) ++ (List.finRange (n + 1)).filter (· < tail)

/-- A response ring that is drained. -/
structure Drain (n : ℕ) where
  slots : Fin (n + 1) → CommonResp
  head : Fin (n + 1)
  tail : Fin (n + 1)
  /-- What a poll that has begun still has to look at, and the tail that it has read. -/
  poll : Option (List (Fin (n + 1)) × Fin (n + 1))
  rcvNull : Bool
  /-- The device has written a null response since the ring was emptied. The driver does not know. -/
  written : Bool

/-- Source: `empty_rx_rings`, before the first poll. -/
def emptyRxRing (slots : Fin (n + 1) → CommonResp) (tail : Fin (n + 1)) : Drain n :=
  ⟨slots, tail, tail, none, false, false⟩

inductive DrainEvent
  | respond (rsp : CommonResp)
  | readTail
  | look
  | writeHead

/-- Source: the body of the loop of `wait_for_null_msg`. A ring that was marked is not polled again. -/
def drainStep (s : Drain n) : DrainEvent → Option (Drain n)
  | .respond rsp => some { s with
    slots := Function.update s.slots s.tail rsp
    tail := s.tail + 1
    written := s.written || isNullRsp rsp }
  | .readTail =>
    if s.rcvNull || s.poll.isSome then none else some { s with poll := some (rcvNullResponse s.head s.tail, s.tail) }
  | .look =>
    match s.poll with
    | some (i :: is, tail) =>
      if isNullRsp (s.slots i) then some { s with rcvNull := true, poll := some ([], tail) }
      else some { s with poll := some (is, tail) }
    | _ => none
  | .writeHead =>
    match s.poll with
    | some ([], tail) => some { s with head := tail, poll := none }
    | _ => none

/-- Whatever null response can be found was written by the device. -/
structure Drain.Inv (s : Drain n) : Prop where
  slots : ∀ i, isNullRsp (s.slots i) = true → s.written = true
  rcvNull : s.rcvNull = true → s.written = true

lemma Drain.Inv.step {s t : Drain n} {e : DrainEvent} (h : s.Inv) (hstep : drainStep s e = some t) : t.Inv := by
  cases e with
  | respond rsp =>
    cases hstep
    refine ⟨fun i hi => ?_, fun hrcv => or_eq_true_iff.mpr (Or.inl (h.rcvNull hrcv))⟩
    by_cases htail : i = s.tail
    · subst htail
      exact or_eq_true_iff.mpr (Or.inr (by simpa using hi))
    · exact or_eq_true_iff.mpr (Or.inl (h.slots i (by simpa [Function.update_of_ne htail] using hi)))
  | readTail =>
    simp only [drainStep] at hstep
    split_ifs at hstep
    cases hstep
    exact ⟨h.slots, h.rcvNull⟩
  | look =>
    simp only [drainStep] at hstep
    split at hstep
    · split at hstep
      next hnull =>
        cases hstep
        exact ⟨h.slots, fun _ => h.slots _ hnull⟩
      next =>
        cases hstep
        exact ⟨h.slots, h.rcvNull⟩
    · cases hstep
  | writeHead =>
    simp only [drainStep] at hstep
    split at hstep
    · cases hstep
      exact ⟨h.slots, h.rcvNull⟩
    · cases hstep

/-- A poll finds a null response that is in one of its slots, if the device is silent. -/
lemma exists_looks {s : Drain n} {is : List (Fin (n + 1))} {tail i : Fin (n + 1)} (hpoll : s.poll = some (is, tail))
    (hi : i ∈ is) (hnull : isNullRsp (s.slots i) = true) :
    ∃ es t, Run (ofFun drainStep) s es t ∧ t.rcvNull = true ∧ t.written = s.written := by
  induction is generalizing s with
  | nil => cases hi
  | cons j is ih =>
    by_cases hj : isNullRsp (s.slots j) = true
    · exact ⟨[.look], { s with rcvNull := true, poll := some ([], tail) },
        .single (by simp [ofFun, drainStep, hpoll, hj]), rfl, rfl⟩
    · have hne : i ≠ j := fun h => hj (h ▸ hnull)
      obtain ⟨es, t, hrun, hrcv, hwritten⟩ :=
        ih (s := { s with poll := some (is, tail) }) rfl ((List.mem_cons.mp hi).resolve_left hne) hnull
      exact ⟨.look :: es, t, .cons (by simp [ofFun, drainStep, hpoll, hj]) hrun, hrcv, hwritten⟩

/-- **A ring is marked as drained only after the device has written a null response to it, whatever the schedule is,
exactly if there was none in it before.** -/
theorem drained_iff (slots : Fin (n + 1) → CommonResp) (tail : Fin (n + 1)) :
    (∀ es s, Run (ofFun drainStep) (emptyRxRing slots tail) es s → s.rcvNull = true → s.written = true) ↔
      ∀ i, isNullRsp (slots i) = false := by
  constructor
  · intro hall i
    by_contra hnull
    have hmem : i ∈ rcvNullResponse tail tail := by
      simp [rcvNullResponse, le_or_gt]
    obtain ⟨es, t, hrun, hrcv, hwritten⟩ :=
      exists_looks (s := { emptyRxRing slots tail with poll := some (rcvNullResponse tail tail, tail) }) rfl hmem
        (eq_true_of_not_eq_false hnull)
    exact absurd (hall (.readTail :: es) t (.cons rfl hrun) hrcv) (by simp [hwritten, emptyRxRing])
  · intro hnone es s hrun
    have hinit : (emptyRxRing slots tail).Inv :=
      ⟨fun i hi => by simp [emptyRxRing, hnone] at hi, fun h => by simp [emptyRxRing] at h⟩
    exact (hrun.invariant (I := Drain.Inv) (fun _ _ _ h hstep => h.step hstep) hinit).rcvNull

/-- **A null response of an earlier clean-up**, in a ring of two slots, counts although the device is silent. -/
theorem stale_response_counts : ∃ s, Run (ofFun drainStep)
      (emptyRxRing (n := 1) (fun i => if i = 0 then ⟨0, 0x80, msgNullFlags⟩ else ⟨0, 0, 0⟩) 1)
      [.readTail, .look, .look, .writeHead] s ∧ s.rcvNull = true ∧ s.written = false :=
  ⟨_, exec_run rfl, rfl, rfl⟩

end QuickAssist.Uio
